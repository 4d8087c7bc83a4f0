import Liteio.Scheduler.Schedule

/-! # Scheduling a volume group

`ScheduleVolumeGroup` of pkg/controller/manager/scheduler: the nodes that pass
the filters, sorted by free storage, are given the entries of the group that
have no node yet and then new entries, one node per entry. Both loops share the
counters in `Cursor`. A list of entries stands for the slice the code updates in
place; after an error the code drops it.
-/

namespace Liteio

open MachineInt FilterChain

structure EntityIdentity where
  ns : String := ""
  name : String := ""
  uuid : String := ""
  deriving DecidableEq

inductive SymmetryValue where
  | asymmetric
  | symmetric
  | other (text : String)
  deriving DecidableEq

structure IntRange where
  min : ℤ := 0
  max : ℤ := 0
  deriving DecidableEq

structure QuantityRange where
  min : Quantity := 0
  max : Quantity := 0
  deriving DecidableEq

structure DesiredVolumeSpec where
  annotations : StringMap := none
  labels : StringMap := none
  desiredCount : ℤ := 0
  countRange : IntRange := {}
  sizeRange : QuantityRange := {}
  sizeSymmetry : SymmetryValue := .other ""
  deriving DecidableEq

structure VolumeGroupStrategy where
  name : String := ""
  allowEmptyNode : Bool := false
  deriving DecidableEq

structure VolumeMeta where
  volId : EntityIdentity := {}
  targetNodeName : String := ""
  size : ℤ := 0
  deriving DecidableEq

structure VolumeTargetStatus where
  uuid : String := ""
  spdkTarget : Option SpdkTarget := none
  status : VolumeStatus := .unset
  message : String := ""
  deriving DecidableEq

structure AntstorVolumeGroupSpec where
  uuid : String := ""
  totalSize : ℤ := 0
  desiredVolumeSpec : DesiredVolumeSpec := {}
  stragety : VolumeGroupStrategy := {}
  volumes : List VolumeMeta := []
  deriving DecidableEq

structure AntstorVolumeGroupStatus where
  volumeStatus : List VolumeTargetStatus := []
  status : VolumeStatus := .unset
  message : String := ""
  deriving DecidableEq

structure AntstorVolumeGroup extends ObjectMeta where
  spec : AntstorVolumeGroupSpec := {}
  status : AntstorVolumeGroupStatus := {}
  deriving DecidableEq

namespace AntstorVolumeGroup

def withVolumes (group : AntstorVolumeGroup) (volumes : List VolumeMeta) : AntstorVolumeGroup :=
  { group with spec := { group.spec with volumes := volumes } }

end AntstorVolumeGroup

def VolumeMeta.scheduled (vol : VolumeMeta) : Bool := 0 < vol.size && vol.targetNodeName ≠ ""

namespace VolumeGroup

def fourMiB : ℤ := 2 ^ 22

def pickSizeFn (K : Kube) (sizeRange : QuantityRange) (node : Node) (volSize : ℤ) : ℤ :=
  let free := storage node.freeResource
  let picked : Quantity := if (volSize : ℚ) < free then volSize else free
  if picked < sizeRange.min then 0
  else
    let picked := if sizeRange.max < picked then sizeRange.max else picked
    let bytes := ofFloat (K.asApproximateFloat64 picked)
    let result := bytes.tdiv fourMiB * fourMiB
    if 0 < bytes.tmod fourMiB then int64 (result + fourMiB) else result

def getAllocatableRemoteVolumeSize (K : Kube) (node : Node) (volSize minLocalStoragePct : ℤ) : ℤ :=
  if volSize = 0 then 0
  else
    let total := node.pool.getAvailableBytes K
    let localLine := ofFloat (K.roundFloat64
      (K.roundFloat64 (K.roundFloat64 total * K.roundFloat64 minLocalStoragePct) / 100))
    let maxResultSize := int64 (int64 (total - localLine) - int64 node.getAllocatedRemoteBytes)
    if maxResultSize < 0 then 0
    else
      let result := if maxResultSize < volSize then maxResultSize else volSize
      result.tdiv fourMiB * fourMiB

/-- The counters of both loops: entries with a node, bytes still to place, and
the nodes in use. -/
structure Cursor where
  cnt : ℕ
  leftSize : ℤ
  tgtNodeSet : Finset String
  deriving DecidableEq

def Cursor.add (c : Cursor) (nodeID : String) (size : ℤ) : Cursor where
  cnt := c.cnt + 1
  leftSize := int64 (c.leftSize - size)
  tgtNodeSet := insert nodeID c.tgtNodeSet

def needSchedNextFn (maxVolCnt : ℤ) (c : Cursor) : Bool := c.cnt < maxVolCnt && 0 < c.leftSize

def scanNodes (sizeOn : Node → ℤ) (tgtNodeSet : Finset String) : ℤ → List Node → ℤ × Option Node
  | result, [] => (result, none)
  | result, item :: nodes =>
    if item.info.id ∈ tgtNodeSet then scanNodes sizeOn tgtNodeSet result nodes
    else if 0 < sizeOn item then (sizeOn item, some item)
    else scanNodes sizeOn tgtNodeSet (sizeOn item) nodes

def consVolume (vol : VolumeMeta) (out : List VolumeMeta × Cursor) : List VolumeMeta × Cursor :=
  (vol :: out.1, out.2)

inductive Pick where
  | placed (nodeID : String) (size : ℤ)
  | failed
  | skipped
  deriving DecidableEq

section

variable (K : Kube) (cfg : SchedulerConfig) (nodes : List Node) (desired : DesiredVolumeSpec)

/-- The scan fails when the last size is zero. A negative last size is neither a
success nor an error. -/
def pickNode (c : Cursor) : Pick :=
  let sizeOn := fun item => getAllocatableRemoteVolumeSize K item
    (pickSizeFn K desired.sizeRange item c.leftSize) cfg.minLocalStoragePct
  match scanNodes sizeOn c.tgtNodeSet 0 nodes with
  | (result, some item) => .placed item.info.id result
  | (result, none) => if result = 0 then .failed else .skipped

def fillVolumes : Cursor → List VolumeMeta → Option (List VolumeMeta × Cursor)
  | c, [] => some ([], c)
  | c, vol :: vols =>
    if !vol.scheduled && needSchedNextFn desired.countRange.max c then
      match pickNode K cfg nodes desired c with
      | .placed nodeID size =>
        (fillVolumes (c.add nodeID size) vols).map
          (consVolume { vol with size := size, targetNodeName := nodeID })
      | .failed => none
      | .skipped => (fillVolumes c vols).map (consVolume vol)
    else (fillVolumes c vols).map (consVolume vol)

/-- The loop that appends entries, from pass `i` on. Its bound is read again
before every pass and never grows, so the bound before the first pass is enough
fuel. -/
def appendVolumes (newVolId : ℕ → EntityIdentity) : ℕ → ℕ → Cursor → Option (List VolumeMeta × Cursor)
  | 0, _, c => some ([], c)
  | fuel + 1, i, c =>
    if i < desired.countRange.max - c.cnt then
      if needSchedNextFn desired.countRange.max c then
        match pickNode K cfg nodes desired c with
        | .placed nodeID size =>
          (appendVolumes newVolId fuel (i + 1) (c.add nodeID size)).map
            (consVolume { volId := newVolId i, size := size, targetNodeName := nodeID })
        | .failed => none
        | .skipped => appendVolumes newVolId fuel (i + 1) c
      else appendVolumes newVolId fuel (i + 1) c
    else some ([], c)

end

structure Random where
  suffix : ℕ → String
  uuid : ℕ → String

def newVolId (rand : Random) (group : AntstorVolumeGroup) (i : ℕ) : EntityIdentity where
  ns := group.ns
  name := group.name ++ "-" ++ rand.suffix i
  uuid := rand.uuid i

def record (totalSize : ℤ) (volumes : List VolumeMeta) : Cursor :=
  volumes.foldl (fun c vol => if vol.scheduled then c.add vol.targetNodeName vol.size else c)
    ⟨0, totalSize, ∅⟩

def schedVolGroup (K : Kube) (rand : Random) (cfg : SchedulerConfig) (nodes : List Node)
    (group : AntstorVolumeGroup) : Except MergedError AntstorVolumeGroup :=
  let desired := group.spec.desiredVolumeSpec
  let start := record group.spec.totalSize group.spec.volumes
  match fillVolumes K cfg nodes desired start group.spec.volumes with
  | none => .error {}
  | some (filled, c) =>
    let fuel := (desired.countRange.max - c.cnt).toNat
    match appendVolumes K cfg nodes desired (newVolId rand group) fuel 0 c with
    | none => .error {}
    | some (added, _) => .ok (group.withVolumes ((filled ++ added).filter VolumeMeta.scheduled))

/-- The order of `sort.Reverse(SortByStorage(nodes))`: nodes without volumes
last, and more free storage first. -/
def moreStorage (a b : Node) : Bool :=
  let cmpStorage := storage b.freeResource < storage a.freeResource
  if b.volumes.isEmpty && !a.volumes.isEmpty then true
  else if !b.volumes.isEmpty && a.volumes.isEmpty then false
  else cmpStorage

def insertionByStorage : Sorter moreStorage :=
  .insertion (by unfold moreStorage; grind) (by unfold moreStorage; grind)

def notEmptyFilter (group : AntstorVolumeGroup) : PredicateFunc := fun _ _ node =>
  some (node, if !group.spec.stragety.allowEmptyNode && node.volumes.isEmpty then .reject none else .pass)

def fakeVolume (K : Kube) (group : AntstorVolumeGroup) : AntstorVolume :=
  { group.toObjectMeta with
    spec := {
      sizeByte := uint64 (ofFloat (roundFloat
        (K.asApproximateFloat64 group.spec.desiredVolumeSpec.sizeRange.min)))
      hostNode := some {}
      positionAdvice := .noPreference } }

def filterNodes (K : Kube) (cfg : SchedulerConfig) (allNodes : List Node) (group : AntstorVolumeGroup) :
    Option (List (Node × Verdict)) :=
  matchEach cfg (fakeVolume K group) (notEmptyFilter group :: loadFilterFromConfig K cfg) allNodes

def needSched (group : AntstorVolumeGroup) : Bool :=
  let scheduledSize := group.spec.volumes.foldl
    (fun size item => if item.targetNodeName ≠ "" then addInt64 size item.size else size) 0
  scheduledSize < group.spec.totalSize

structure ScheduledGroup where
  nodes : List Node
  result : Except MergedError AntstorVolumeGroup

def scheduleVolumeGroup (K : Kube) (rand : Random) (sorter : Sorter moreStorage) (cfg : SchedulerConfig)
    (allNodes : List Node) (group : AntstorVolumeGroup) : Option ScheduledGroup :=
  if !needSched group then some ⟨allNodes, .ok group⟩
  else
    (filterNodes K cfg allNodes group).map fun results =>
      { nodes := results.map Prod.fst
        result := match matchAll results with
          | .error err => .error err
          | .ok qualified => schedVolGroup K rand cfg (sorter.sort qualified) group }

end VolumeGroup

end Liteio
