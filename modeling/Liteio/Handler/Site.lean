import Liteio.Handler.Events
import Liteio.State.Room

/-! # The events of one node

Each pool, volume or claim event concerns one node. This is the machine that a
single node runs through, starting from the placeholder: what a list of events
leaves of the pool, the volumes and the cache is a function of the list, and
only the reservations depend on whether each was accepted when it came.
-/

namespace Liteio

open MachineInt

namespace Node

/-- No reservation is held for a bound volume, storage capacity or not. -/
def Unbound (n : Node) : Prop := ∀ id ∈ n.boundIDs, n.getReservation id = none

theorem Unbound.settled {n : Node} (h : n.Unbound) : n.Settled :=
  fun id hId => h id (n.volResvIDs_subset hId)

theorem Unbound.refresh_resvSet {n : Node} (h : n.Unbound) : n.refresh.resvSet = n.resvSet :=
  ReservationSet.unreserveAll_of_forall h.settled

theorem Unbound.refresh_getReservation {n : Node} (h : n.Unbound) (id : String) :
    n.refresh.getReservation id = n.getReservation id := by
  rw [getReservation, h.refresh_resvSet, getReservation]

theorem Unbound.refresh {n : Node} (h : n.Unbound) : n.refresh.Unbound := by
  intro id hId
  rw [h.refresh_getReservation]
  exact h id hId

theorem Unbound.charges_eq {n : Node} (h : n.Unbound) :
    n.charges = n.reservedBytes + n.volumeBytes + n.resvSet.total := by
  rw [charges, openBytes_eq_total, ReservationSet.unreserveAll_of_forall h]

theorem resident_eq {n : Node} {vol : AntstorVolume} (h : vol.spec.targetNodeId = n.info.id) :
    n.resident vol = vol := by
  rw [resident, ← h]

theorem dropReservation_getReservation {n : Node} (h : n.getReservation "" = none)
    (vol : AntstorVolume) (id : String) :
    (n.dropReservation vol).getReservation id =
      if id = getVolumeReservationID vol then none else n.getReservation id := by
  rw [getReservation_dropReservation]
  by_cases hEmpty : getVolumeReservationID vol = ""
  · rw [if_neg fun hNonempty => hNonempty.1 hEmpty, hEmpty]
    split
    · rename_i hId
      rw [hId, h]
    · rfl
  · simp only [ne_eq, hEmpty, not_false_eq_true, true_and]

end Node

namespace Handler

inductive Event where
  | pool (obj : StoragePool)
  | volume (obj : AntstorVolume)
  | pvc (obj : PersistentVolumeClaim)
  deriving DecidableEq

def nodeStep (K : Kube) (n : Node) : Event → Node
  | .pool obj => Node.refresh { n with pool := State.withCapacity K obj }
  | .volume obj => if obj.spec.uuid = "" then n else (n.addVolume obj).1
  | .pvc obj =>
    match newPvcReservation K obj with
    | some resv => n.reserve resv
    | none => n

def asPool : Event → Option StoragePool
  | .pool obj => some obj
  | _ => none

def asVolume : Event → Option AntstorVolume
  | .volume obj => if obj.spec.uuid = "" then none else some obj
  | _ => none

def asPvc : Event → Option PersistentVolumeClaim
  | .pvc obj => some obj
  | _ => none

@[simp] theorem asPool_pool (obj : StoragePool) : asPool (.pool obj) = some obj := rfl

@[simp] theorem asPool_volume (obj : AntstorVolume) : asPool (.volume obj) = none := rfl

@[simp] theorem asPool_pvc (obj : PersistentVolumeClaim) : asPool (.pvc obj) = none := rfl

@[simp] theorem asVolume_pool (obj : StoragePool) : asVolume (.pool obj) = none := rfl

@[simp] theorem asVolume_pvc (obj : PersistentVolumeClaim) : asVolume (.pvc obj) = none := rfl

@[simp] theorem asPvc_pool (obj : StoragePool) : asPvc (.pool obj) = none := rfl

@[simp] theorem asPvc_volume (obj : AntstorVolume) : asPvc (.volume obj) = none := rfl

@[simp] theorem asPvc_pvc (obj : PersistentVolumeClaim) : asPvc (.pvc obj) = some obj := rfl

def volumeNames (events : List Event) : List String :=
  (events.filterMap asVolume).map fun vol => vol.name

def poolAfter (K : Kube) (nodeID : String) (events : List Event) : StoragePool :=
  (((events.filterMap asPool).getLast?).map (State.withCapacity K)).getD (emptyPool nodeID)

structure Tracks (K : Kube) (nodeID : String) (done : List Event) (n : Node) : Prop where
  info : n.info.id = nodeID
  pool : n.pool = poolAfter K nodeID done
  volumes : n.volumes = done.filterMap asVolume
  cache : n.CacheExact
  unbound : n.Unbound
  origin : ∀ id r, n.getReservation id = some r →
    ∃ pvc ∈ done.filterMap asPvc, newPvcReservation K pvc = some r

theorem Tracks.origin_key {K : Kube} {nodeID : String} {done : List Event} {n : Node}
    (h : Tracks K nodeID done n) {id : String} {r : Reservation} (hr : n.getReservation id = some r) :
    ∃ pvc ∈ done.filterMap asPvc, newPvcReservation K pvc = some r ∧ pvc.namespacedName = id := by
  obtain ⟨pvc, hMem, hNew⟩ := h.origin id r hr
  refine ⟨pvc, hMem, hNew, ?_⟩
  rw [← newPvcReservation_id hNew]
  exact ReservationSet.id_of_getById hr

theorem Tracks.no_empty {K : Kube} {nodeID : String} {done : List Event} {n : Node}
    (h : Tracks K nodeID done n) : n.getReservation "" = none := by
  cases hr : n.getReservation "" with
  | none => rfl
  | some r =>
    obtain ⟨pvc, _, _, hKey⟩ := h.origin_key hr
    exact absurd hKey pvc.namespacedName_ne_empty

def At (nodeID : String) : Event → Prop
  | .pool obj => obj.spec.nodeInfo.id = nodeID
  | .volume obj => obj.spec.targetNodeId = nodeID
  | .pvc _ => True

section

variable {K : Kube} {nodeID : String} {done : List Event} {n : Node}

theorem nodeStep_pool_getReservation (h : Tracks K nodeID done n) (obj : StoragePool) (id : String) :
    (nodeStep K n (.pool obj)).getReservation id = n.getReservation id :=
  Node.Unbound.refresh_getReservation (n := { n with pool := State.withCapacity K obj }) h.unbound id

theorem Tracks.pool_step (h : Tracks K nodeID done n) {obj : StoragePool}
    (hAt : At nodeID (.pool obj)) : Tracks K nodeID (done ++ [.pool obj]) (nodeStep K n (.pool obj)) where
  info := by
    rw [nodeStep, Node.info, Node.refresh_pool, State.withCapacity_spec]
    exact hAt
  pool := by
    simp [nodeStep, poolAfter]
  volumes := by
    rw [List.filterMap_append]
    exact h.volumes.trans (List.append_nil _).symm
  cache := Node.cacheExact_refresh _
  unbound := Node.Unbound.refresh (n := { n with pool := State.withCapacity K obj }) h.unbound
  origin id r hr := by
    rw [nodeStep_pool_getReservation h] at hr
    simpa using h.origin id r hr

theorem addVolume_tracked (h : Tracks K nodeID done n) {vol : AntstorVolume}
    (hAt : At nodeID (.volume vol))
    (hAbsent : ∀ item ∈ done.filterMap asVolume, item.name ≠ vol.name) :
    (n.addVolume vol).1 = Node.refresh { n.dropReservation vol with volumes := n.volumes ++ [vol] } := by
  rw [← h.volumes] at hAbsent
  rw [Node.addVolume_of_absent hAbsent, Node.resident_eq (hAt.trans h.info.symm)]

theorem absent_of_nodup {vol : AntstorVolume} (hUuid : vol.spec.uuid ≠ "")
    (hNames : (volumeNames (done ++ [.volume vol])).Nodup) :
    ∀ item ∈ done.filterMap asVolume, item.name ≠ vol.name := by
  intro item hItem
  have hLast : [Event.volume vol].filterMap asVolume = [vol] := by simp [asVolume, hUuid]
  rw [volumeNames, List.filterMap_append, hLast, List.map_append, List.nodup_append] at hNames
  exact hNames.2.2 item.name (List.mem_map_of_mem hItem) vol.name (by simp)

theorem unbound_append (h : Tracks K nodeID done n) (vol : AntstorVolume) :
    Node.Unbound { n.dropReservation vol with volumes := n.volumes ++ [vol] } := by
  intro id hId
  change (n.dropReservation vol).getReservation id = none
  rw [Node.dropReservation_getReservation h.no_empty]
  split
  · rfl
  · rename_i hOther
    apply h.unbound
    rw [Node.boundIDs, List.map_append, List.mem_append, List.map_singleton, List.mem_singleton] at hId
    exact hId.resolve_right hOther

theorem nodeStep_volume_getReservation (h : Tracks K nodeID done n) {vol : AntstorVolume}
    (hAt : At nodeID (.volume vol))
    (hNames : (volumeNames (done ++ [.volume vol])).Nodup)
    (id : String) :
    (nodeStep K n (.volume vol)).getReservation id =
      if vol.spec.uuid ≠ "" ∧ id = getVolumeReservationID vol then none else n.getReservation id := by
  rw [nodeStep]
  by_cases hUuid : vol.spec.uuid = ""
  · simp [hUuid]
  · rw [if_neg hUuid, addVolume_tracked h hAt (absent_of_nodup hUuid hNames),
      (unbound_append h vol).refresh_getReservation]
    change (n.dropReservation vol).getReservation id = _
    rw [Node.dropReservation_getReservation h.no_empty]
    simp [hUuid]

theorem Tracks.volume_step (h : Tracks K nodeID done n) {vol : AntstorVolume}
    (hAt : At nodeID (.volume vol))
    (hNames : (volumeNames (done ++ [.volume vol])).Nodup) :
    Tracks K nodeID (done ++ [.volume vol]) (nodeStep K n (.volume vol)) := by
  have hPvc : (done ++ [Event.volume vol]).filterMap asPvc = done.filterMap asPvc := by
    simp
  have hPool : poolAfter K nodeID (done ++ [.volume vol]) = poolAfter K nodeID done := by
    simp [poolAfter]
  by_cases hUuid : vol.spec.uuid = ""
  · rw [nodeStep, if_pos hUuid]
    refine ⟨h.info, h.pool.trans hPool.symm, ?_, h.cache, h.unbound, ?_⟩
    · simpa [asVolume, hUuid] using h.volumes
    · rw [hPvc]
      exact h.origin
  · have hStep : nodeStep K n (.volume vol) =
        Node.refresh { n.dropReservation vol with volumes := n.volumes ++ [vol] } := by
      rw [nodeStep, if_neg hUuid, addVolume_tracked h hAt (absent_of_nodup hUuid hNames)]
    refine ⟨?_, ?_, ?_, ?_, ?_, ?_⟩
    · rw [hStep, Node.info, Node.refresh_pool, Node.dropReservation_pool]
      exact h.info
    · rw [hStep, hPool, Node.refresh_pool, Node.dropReservation_pool]
      exact h.pool
    · rw [hStep, Node.refresh_volumes, h.volumes]
      simp [asVolume, hUuid]
    · rw [hStep]
      exact Node.cacheExact_refresh _
    · rw [hStep]
      exact (unbound_append h vol).refresh
    · intro id r hr
      rw [nodeStep_volume_getReservation h hAt hNames] at hr
      rw [hPvc]
      split at hr
      · cases hr
      · exact h.origin id r hr

theorem unbound_reserve (h : Tracks K nodeID done n) {r : Reservation} (hAccepts : ¬ n.Refuses r) :
    Node.Unbound { n with resvSet := n.resvSet.reserve r } := by
  intro id hId
  change (n.resvSet.reserve r).getById id = none
  rw [ReservationSet.getById_reserve]
  split
  · rename_i hKey
    obtain ⟨vol, hVol, hVolID⟩ := List.mem_map.mp hId
    exact absurd (.inl ⟨vol, hVol, (hVolID.trans hKey).symm⟩) hAccepts
  · exact h.unbound id hId

theorem nodeStep_pvc_getReservation (h : Tracks K nodeID done n) {pvc : PersistentVolumeClaim}
    {r : Reservation} (hNew : newPvcReservation K pvc = some r) (id : String) :
    (nodeStep K n (.pvc pvc)).getReservation id =
      if id = pvc.namespacedName ∧ ¬ n.Refuses r then some r else n.getReservation id := by
  have hStep : nodeStep K n (.pvc pvc) = n.reserve r := by rw [nodeStep, hNew]
  rw [hStep]
  by_cases hRefuses : n.Refuses r
  · rw [Node.reserve_of_refuses hRefuses, if_neg fun hBoth => hBoth.2 hRefuses]
  · rw [Node.reserve_of_not_refuses hRefuses, (unbound_reserve h hRefuses).refresh_getReservation]
    change (n.resvSet.reserve r).getById id = _
    rw [ReservationSet.getById_reserve, newPvcReservation_id hNew]
    simp [hRefuses, Node.getReservation]

theorem Tracks.pvc_step (h : Tracks K nodeID done n) (pvc : PersistentVolumeClaim) :
    Tracks K nodeID (done ++ [.pvc pvc]) (nodeStep K n (.pvc pvc)) := by
  have hPool : poolAfter K nodeID (done ++ [.pvc pvc]) = poolAfter K nodeID done := by
    simp [poolAfter]
  have hVolumes : (done ++ [Event.pvc pvc]).filterMap asVolume = done.filterMap asVolume := by
    simp
  have hKept : Tracks K nodeID (done ++ [.pvc pvc]) n := by
    refine ⟨h.info, h.pool.trans hPool.symm, h.volumes.trans hVolumes.symm, h.cache, h.unbound, ?_⟩
    intro id r hr
    obtain ⟨found, hMem, hFound⟩ := h.origin id r hr
    exact ⟨found, by rw [List.filterMap_append]; exact List.mem_append_left _ hMem, hFound⟩
  cases hNew : newPvcReservation K pvc with
  | none =>
    rw [nodeStep, hNew]
    exact hKept
  | some r =>
    have hStep : nodeStep K n (.pvc pvc) = n.reserve r := by rw [nodeStep, hNew]
    by_cases hRefuses : n.Refuses r
    · rw [hStep, Node.reserve_of_refuses hRefuses]
      exact hKept
    · rw [hStep, Node.reserve_of_not_refuses hRefuses]
      refine ⟨h.info, hKept.pool, hKept.volumes, Node.cacheExact_refresh _,
        (unbound_reserve h hRefuses).refresh, ?_⟩
      intro id found hFound
      rw [← Node.reserve_of_not_refuses hRefuses, ← hStep, nodeStep_pvc_getReservation h hNew] at hFound
      split at hFound
      · cases hFound
        exact ⟨pvc, by simp, hNew⟩
      · exact hKept.origin id found hFound

theorem Tracks.step (h : Tracks K nodeID done n) {e : Event} (hAt : At nodeID e)
    (hNames : (volumeNames (done ++ [e])).Nodup) :
    Tracks K nodeID (done ++ [e]) (nodeStep K n e) := by
  cases e with
  | pool obj => exact h.pool_step hAt
  | pvc obj => exact h.pvc_step obj
  | volume obj => exact h.volume_step hAt hNames

end

end Handler

end Liteio
