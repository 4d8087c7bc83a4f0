import Liteio.Api.Objects

/-! # Nodes of the controller state

One node of pkg/controller/manager/state: its pool, the volumes bound to it,
its reservation set and the cached free resources. `getFreeResourceNonLock`
both computes the free resources and drops the reservations whose volume is
bound, so it returns the node as it leaves it; `refresh` is the assignment of
its result to the cache that ends every mutator.
-/

namespace Liteio

open MachineInt

structure Reservation where
  id : String
  namespacedName : String := ""
  sizeByte : ℤ
  deriving DecidableEq

def newReservation (id : String) (size : ℤ) : Reservation := { id := id, sizeByte := size }

structure PersistentVolumeClaim extends ObjectMeta where
  storageClassName : Option String := none
  requestsStorage : Quantity := 0
  bound : Bool := false
  deriving DecidableEq

def PersistentVolumeClaim.namespacedName (pvc : PersistentVolumeClaim) : String :=
  pvc.ns ++ "/" ++ pvc.name

def PersistentVolumeClaim.requestBytes (K : Kube) (pvc : PersistentVolumeClaim) : ℤ :=
  ofFloat (roundFloat (K.asApproximateFloat64 pvc.requestsStorage))

/-- `NewPvcReservation`, which gives nil for a claim that is being deleted. -/
def newPvcReservation (K : Kube) (pvc : PersistentVolumeClaim) : Option Reservation :=
  if pvc.deletionTimestamp.isSome then none
  else some
    { id := pvc.namespacedName, namespacedName := pvc.namespacedName, sizeByte := pvc.requestBytes K }

theorem PersistentVolumeClaim.namespacedName_ne_empty (pvc : PersistentVolumeClaim) :
    pvc.namespacedName ≠ "" := by
  intro h
  have hLength := congrArg String.length h
  simp [namespacedName, String.length_append] at hLength

def PersistentVolumeClaim.reservation (K : Kube) (pvc : PersistentVolumeClaim) : Reservation where
  id := pvc.namespacedName
  namespacedName := pvc.namespacedName
  sizeByte := pvc.requestBytes K

theorem newPvcReservation_of_alive {K : Kube} {pvc : PersistentVolumeClaim}
    (h : pvc.deletionTimestamp = none) : newPvcReservation K pvc = some (pvc.reservation K) := by
  rw [newPvcReservation, h]
  rfl

/-- The map of a reservation set together with what `Reserve` maintains: every
reservation stands under its own ID, so a scan by ID is a lookup. -/
structure ReservationSet where
  rMap : FiniteMap String Reservation
  keyed : ∀ id r, rMap.lookup id = some r → r.id = id

namespace ReservationSet

instance : DecidableEq ReservationSet := fun a b =>
  decidable_of_iff (a.rMap = b.rMap) (by cases a; cases b; simp)

@[ext] theorem ext {a b : ReservationSet} (h : ∀ id, a.rMap.lookup id = b.rMap.lookup id) : a = b := by
  cases a
  cases b
  cases Finmap.ext_lookup h
  rfl

def empty : ReservationSet where
  rMap := ∅
  keyed id r h := by simp at h

def reserve (rs : ReservationSet) (r : Reservation) : ReservationSet where
  rMap := rs.rMap.insert r.id r
  keyed id other h := by
    rw [FiniteMap.lookup_insert_eq] at h
    split at h
    · rename_i hId
      cases h
      exact hId.symm
    · exact rs.keyed id other h

def unreserve (rs : ReservationSet) (id : String) : ReservationSet where
  rMap := rs.rMap.erase id
  keyed other r h := by
    rw [FiniteMap.lookup_erase_eq] at h
    split at h
    · cases h
    · exact rs.keyed other r h

def unreserveAll (rs : ReservationSet) (ids : List String) : ReservationSet where
  rMap := rs.rMap.filterKeys (fun id => id ∉ ids)
  keyed other r h := by
    rw [FiniteMap.lookup_filterKeys] at h
    split at h
    · exact rs.keyed other r h
    · cases h

def items (rs : ReservationSet) : Multiset Reservation := FiniteMap.values rs.rMap

def getById (rs : ReservationSet) (id : String) : Option Reservation := rs.rMap.lookup id

@[simp] theorem getById_empty (id : String) : empty.getById id = none := rfl

theorem getById_reserve (rs : ReservationSet) (r : Reservation) (id : String) :
    (rs.reserve r).getById id = if id = r.id then some r else rs.getById id :=
  FiniteMap.lookup_insert_eq rs.rMap r.id id r

theorem getById_unreserve (rs : ReservationSet) (removed id : String) :
    (rs.unreserve removed).getById id = if id = removed then none else rs.getById id :=
  FiniteMap.lookup_erase_eq rs.rMap removed id

theorem getById_unreserveAll (rs : ReservationSet) (ids : List String) (id : String) :
    (rs.unreserveAll ids).getById id = if id ∉ ids then rs.getById id else none :=
  FiniteMap.lookup_filterKeys (fun id => id ∉ ids) rs.rMap id

theorem id_of_getById {rs : ReservationSet} {id : String} {r : Reservation}
    (h : rs.getById id = some r) : r.id = id :=
  rs.keyed id r h

theorem mem_items {rs : ReservationSet} {r : Reservation} :
    r ∈ rs.items ↔ rs.getById r.id = some r := by
  rw [items, FiniteMap.mem_values]
  constructor
  · rintro ⟨id, h⟩
    rwa [← rs.keyed id r h] at h
  · intro h
    exact ⟨r.id, h⟩

end ReservationSet

def getVolumeReservationID (vol : AntstorVolume) : String :=
  match vol.annotationAt reservationIDKey with
  | some resvId => resvId
  | none =>
    match vol.labels with
    | none => ""
    | some labels =>
      let pvcNS := (labels.lookup volumeContextKeyPvcNS).getD ""
      let pvcName := (labels.lookup volumeContextKeyPvcName).getD ""
      if pvcNS ≠ "" ∧ pvcName ≠ "" then pvcNS ++ "/" ++ pvcName else ""

structure Node where
  pool : StoragePool
  volumes : List AntstorVolume := []
  freeResource : ResourceList := ∅
  resvSet : ReservationSet := .empty
  deriving DecidableEq

namespace Node

/-- `Info` points into the pool. -/
def info (n : Node) : NodeInfo := n.pool.spec.nodeInfo

def hasStorage (n : Node) : Bool := (n.pool.status.capacity.lookup resourceDiskPoolByte).isSome

/-- The set `volResvIDs`, filled only when the pool has a storage capacity. -/
def volResvIDs (n : Node) : List String :=
  if n.hasStorage then n.volumes.map getVolumeReservationID else []

def toMunisBytes (n : Node) : ℤ :=
  let reserved := n.pool.spec.kernelLVM.reservedLVol.foldl
    (fun acc item => if n.hasStorage then addInt64 acc (int64 item.sizeByte) else acc) 0
  let volumes := n.volumes.foldl
    (fun acc vol => if n.hasStorage then addInt64 acc (int64 vol.getTotalSize) else acc) reserved
  ((n.resvSet.items.filter (fun r => r.id ∉ n.volResvIDs)).map Reservation.sizeByte).foldl addInt64 volumes

def getFreeResourceNonLock (n : Node) : ResourceList × Node :=
  let free := match n.pool.status.capacity.lookup resourceDiskPoolByte with
    | some q => n.pool.status.capacity.insert resourceDiskPoolByte (q - n.toMunisBytes)
    | none => n.pool.status.capacity
  (free, { n with resvSet := n.resvSet.unreserveAll n.volResvIDs })

def refresh (n : Node) : Node :=
  { n.getFreeResourceNonLock.2 with freeResource := n.getFreeResourceNonLock.1 }

def newNode (pool : StoragePool) : Node := refresh { pool := pool }

/-- How the scan over the bound volumes in `AddVolume` ends. -/
inductive Scan where
  | absent
  | replaced
  | sizeMismatch
  deriving DecidableEq

def replaceVolume (vol : AntstorVolume) : List AntstorVolume → List AntstorVolume × Scan
  | [] => ([], .absent)
  | item :: rest =>
    if item.name = vol.name then
      if item.spec.sizeByte ≠ vol.spec.sizeByte then (item :: rest, .sizeMismatch)
      else
        match replaceVolume vol rest with
        | (rest', .sizeMismatch) => (vol :: rest', .sizeMismatch)
        | (rest', _) => (vol :: rest', .replaced)
    else
      match replaceVolume vol rest with
      | (rest', scan) => (item :: rest', scan)

def dropReservation (n : Node) (vol : AntstorVolume) : Node :=
  if getVolumeReservationID vol ≠ "" then
    { n with resvSet := n.resvSet.unreserve (getVolumeReservationID vol) }
  else n

def resident (n : Node) (vol : AntstorVolume) : AntstorVolume :=
  { vol with spec := { vol.spec with targetNodeId := n.info.id } }

/-- The flag is true when `ErrDuplicateVolume` is returned, in which case the
reservation of the volume is already gone and the cache is not refreshed. -/
def addVolume (n : Node) (vol : AntstorVolume) : Node × Bool :=
  let dropped := n.dropReservation vol
  match replaceVolume (n.resident vol) n.volumes with
  | (volumes, .sizeMismatch) => ({ dropped with volumes := volumes }, true)
  | (volumes, .replaced) => (refresh { dropped with volumes := volumes }, false)
  | (_, .absent) => (refresh { dropped with volumes := n.volumes ++ [n.resident vol] }, false)

def removeVolumeByID (n : Node) (volID : String) : Node :=
  if n.volumes.any (fun item => item.spec.uuid = volID) then
    refresh { n with volumes := n.volumes.eraseP (fun item => item.spec.uuid = volID) }
  else n

def getVolumeByID (n : Node) (volID : String) : Option AntstorVolume :=
  n.volumes.find? (fun item => item.spec.uuid = volID)

def reserve (n : Node) (r : Reservation) : Node :=
  if n.volumes.any (fun vol => r.id = getVolumeReservationID vol) then n
  else if storage n.freeResource < r.sizeByte then n
  else refresh { n with resvSet := n.resvSet.reserve r }

def unreserve (n : Node) (id : String) : Node :=
  refresh { n with resvSet := n.resvSet.unreserve id }

def getReservation (n : Node) (id : String) : Option Reservation := n.resvSet.getById id

def remoteVolumesCount (n : Node) (ignoreAnnoSelector : StringMap) : ℕ :=
  n.volumes.countP fun item =>
    !((ignoreAnnoSelector.getD ∅).any fun key value => item.annotationAt key = some value) &&
      (item.spec.targetNodeId ≠ "" && match item.spec.hostNode with
        | some host => item.spec.targetNodeId ≠ host.id
        | none => false)

def getAllocatedLocalBytes (n : Node) : ℕ :=
  n.volumes.foldl (fun size item =>
    match item.spec.hostNode with
    | some host =>
      if item.spec.targetNodeId = host.id then uint64 (size + item.getTotalSize) else size
    | none => size) 0

def getAllocatedRemoteBytes (n : Node) : ℕ :=
  n.volumes.foldl (fun size item =>
    match item.spec.hostNode with
    | some host =>
      if item.spec.targetNodeId ≠ host.id then uint64 (size + item.getTotalSize) else size
    | none => size) 0

end Node

end Liteio
