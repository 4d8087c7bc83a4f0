import Liteio.VolumeGroup.Pinned

/-! # Reconciling a volume group

The passes of AntstorVolumeGroupReconcileHandler over the objects the API server
holds: one group and the volumes. `Update` writes the spec of the group and
`Status().Update` its status, so what a pass changes in memory and does not write
is lost. Which calls fail is an input of the pass. Between two passes the volume
controller schedules volumes, agents report on those that carry a node, and
volumes are removed.
-/

namespace Liteio

open MachineInt FilterChain

namespace VolumeGroup

def volumesFinalizer : String := "antstor.alipay.com/volumes"

abbrev Key := String × String

abbrev Volumes := FiniteMap Key AntstorVolume

structure Cluster where
  group : AntstorVolumeGroup
  volumes : Volumes := ∅

structure Calls where
  getFails : Key → Bool := fun _ => false
  createFails : Key → Bool := fun _ => false
  rollbackGetFails : Key → Bool := fun _ => false
  deleteFails : Key → Bool := fun _ => false
  updateFails : Bool := false
  statusUpdateFails : Bool := false
  now : ℕ := 0

end VolumeGroup

open VolumeGroup

def EntityIdentity.key (id : EntityIdentity) : Key := (id.ns, id.name)

def EntityIdentity.complete (id : EntityIdentity) : Bool := id.uuid ≠ "" && id.name ≠ "" && id.ns ≠ ""

def AntstorVolumeGroup.withStatus (group : AntstorVolumeGroup) (status : AntstorVolumeGroupStatus) :
    AntstorVolumeGroup :=
  { group with status := status }

namespace VolumeGroup

inductive InvalidGroup where
  | desiredCountZero
  | sizeRangeMaxZero
  | sizeRangeMinTooLarge (min : Quantity) (singleVolSize : ℤ)
  | desiredCountNotZero
  | sizeSymmetry (text : String)
  | uuidEmpty
  deriving DecidableEq

def validateAndMutate (group : AntstorVolumeGroup) : Except InvalidGroup Unit := do
  let desired := group.spec.desiredVolumeSpec
  match desired.sizeSymmetry with
  | .symmetric =>
    if desired.desiredCount = 0 then throw .desiredCountZero
    if desired.sizeRange.max = 0 then throw .sizeRangeMaxZero
    if desired.sizeRange.min ≠ 0 then
      let singleVolSize := int64 (group.spec.totalSize.tdiv desired.desiredCount)
      if (singleVolSize : ℚ) < desired.sizeRange.min then
        throw (.sizeRangeMinTooLarge desired.sizeRange.min singleVolSize)
  | .asymmetric => if desired.desiredCount ≠ 0 then throw .desiredCountNotZero
  | .other text => throw (.sizeSymmetry text)
  if group.spec.uuid = "" then throw .uuidEmpty

/-- What the readiness loop records for one entry, the volumes after it, and
whether the entry leaves the group ready. An entry with an incomplete identity
is passed over. -/
def syncEntry (calls : Calls) (group : AntstorVolumeGroup) (vols : Volumes) (item : VolumeMeta) :
    VolumeTargetStatus × Volumes × Bool :=
  let key := item.volId.key
  if item.volId.complete then
    match if calls.getFails key then none else vols.lookup key with
    | none =>
      let created := item.scheduled && !calls.getFails key && !calls.createFails key
      let newVol :=
        { newVolume group item.volId item.size item.targetNodeName with creationTimestamp := calls.now }
      ({ uuid := item.volId.uuid, status := .creating },
        if created then vols.insert key newVol else vols, false)
    | some vol =>
      ({ uuid := item.volId.uuid, spdkTarget := vol.spec.spdkTarget, status := vol.status.status,
         message := vol.status.message }, vols, vol.status.status = .ready)
  else ({}, vols, true)

def syncEntries (calls : Calls) (group : AntstorVolumeGroup) :
    Volumes → List VolumeMeta → List VolumeTargetStatus × Volumes × Bool
  | vols, [] => ([], vols, true)
  | vols, item :: items =>
    match syncEntry calls group vols item with
    | (status, vols, ready) =>
      match syncEntries calls group vols items with
      | (statuses, vols, restReady) => (status :: statuses, vols, ready && restReady)

def syncedStatus (group : AntstorVolumeGroup) (volumeStatus : List VolumeTargetStatus) (allReady : Bool) :
    AntstorVolumeGroupStatus :=
  let scheduledSize := group.spec.volumes.foldl (fun size item => addInt64 size item.size) 0
  { group.status with
    volumeStatus := volumeStatus
    status := if group.spec.totalSize ≤ scheduledSize ∧ allReady then .ready else .creating }

/-- The flag of a pass says that the later ones do not run. -/
def syncVolumes (calls : Calls) (s : Cluster) : Cluster × Bool :=
  let group := s.group
  if group.spec.volumes = [] then (s, false)
  else if group.status.status = .ready then (s, false)
  else
    match syncEntries calls group s.volumes group.spec.volumes with
    | (volumeStatus, vols, allReady) =>
      let status := syncedStatus group volumeStatus allReady
      if status = group.status then (⟨group, vols⟩, false)
      else if calls.statusUpdateFails then (⟨group, vols⟩, true)
      else (⟨group.withStatus status, vols⟩, true)

def deleteVolume (now : ℕ) (vols : Volumes) (key : Key) (vol : AntstorVolume) : Volumes :=
  if vol.finalizers = [] then vols.erase key
  else vols.insert key { vol with deletionTimestamp := some (vol.deletionTimestamp.getD now) }

/-- The volumes after the volume of a failed entry was deleted, unless it is too
young. A failed `Get` leaves an object without a name and with a zero creation
time, whose deletion fails; a failed deletion is only logged. -/
def rollbackVolume (calls : Calls) (vols : Volumes) (key : Key) : Option Volumes :=
  if calls.rollbackGetFails key then some vols
  else
    match vols.lookup key with
    | none => some vols
    | some vol =>
      if 60 < calls.now - vol.creationTimestamp then
        if calls.deleteFails key then some vols else some (deleteVolume calls.now vols key vol)
      else none

def schedulingFailed (item : VolumeTargetStatus) : Bool :=
  noStoragePoolAvailable.toList <:+: item.message.toList

structure Rollback where
  volumes : Volumes
  entries : List VolumeMeta
  rollback : Bool := false
  panics : Bool := false

/-- The loop over the recorded statuses, which indexes the entries. -/
def rollbackEntries (calls : Calls) : Volumes → List VolumeTargetStatus → List VolumeMeta → Rollback
  | vols, [], entries => ⟨vols, entries, false, false⟩
  | vols, item :: items, [] =>
    if schedulingFailed item then ⟨vols, [], false, true⟩ else rollbackEntries calls vols items []
  | vols, item :: items, entry :: entries =>
    match if schedulingFailed item then rollbackVolume calls vols entry.volId.key else none with
    | none =>
      let rest := rollbackEntries calls vols items entries
      { rest with entries := entry :: rest.entries }
    | some vols =>
      let rest := rollbackEntries calls vols items entries
      { rest with entries := { entry with targetNodeName := "", size := 0 } :: rest.entries, rollback := true }

def rollbackUnrecoverable (calls : Calls) (s : Cluster) : Cluster × Bool :=
  if s.group.status.status = .ready then (s, false)
  else
    let out := rollbackEntries calls s.volumes s.group.status.volumeStatus s.group.spec.volumes
    if out.panics then (⟨s.group, out.volumes⟩, true)
    else if out.rollback then
      (⟨if calls.updateFails then s.group else s.group.withVolumes out.entries, out.volumes⟩, true)
    else (⟨s.group, out.volumes⟩, false)

/-- The inputs of a pass. The text of an error lists the reasons in the order of
a map iteration. -/
structure Pass where
  calls : Calls := {}
  rand : Random
  allNodes : List Node
  errorText : MergedError → String

section

variable (K : Kube) (sorter : Sorter Priority.better) (byStorage : Sorter moreStorage) (cfg : SchedulerConfig)

/-- The scheduler always returns a slice, which differs from a nil one even when
it is empty. -/
def volumesChanged (group scheduled : AntstorVolumeGroup) : Bool :=
  scheduled.spec.volumes ≠ group.spec.volumes || (group.spec.volumes.isEmpty && needSched group)

def scheduleVolGroup (pass : Pass) (s : Cluster) : Cluster × Bool :=
  if s.group.status.status = .ready then (s, false)
  else
    match scheduleVolumeGroup K pass.rand byStorage cfg pass.allNodes s.group with
    | none => (s, true)
    | some ⟨_, .error err⟩ =>
      let status := { s.group.status with message := pass.errorText err }
      (⟨if pass.calls.statusUpdateFails then s.group else s.group.withStatus status, s.volumes⟩, true)
    | some ⟨_, .ok group⟩ =>
      if volumesChanged s.group group then
        let finalizers := if volumesFinalizer ∈ s.group.finalizers then s.group.finalizers
          else s.group.finalizers ++ [volumesFinalizer]
        (⟨if pass.calls.updateFails then s.group else { group with finalizers := finalizers }, s.volumes⟩, true)
      else (s, false)

def handleReconcile (pass : Pass) (s : Cluster) : Cluster :=
  match validateAndMutate s.group with
  | .error _ => s
  | .ok _ =>
    match syncVolumes pass.calls s with
    | (s, true) => s
    | (s, false) =>
      match rollbackUnrecoverable pass.calls s with
      | (s, true) => s
      | (s, false) => (scheduleVolGroup K byStorage cfg pass s).1

inductive Event where
  | reconcile (pass : Pass)
  | schedule (key : Key) (allNodes : List Node)
  | report (key : Key) (status : AntstorVolumeStatus) (spdkTarget : Option SpdkTarget)
      (finalizers : List String)
  | remove (key : Key)

def onVolume (s : Cluster) (key : Key) (f : AntstorVolume → AntstorVolume) : Cluster :=
  match s.volumes.lookup key with
  | some vol => { s with volumes := s.volumes.insert key (f vol) }
  | none => s

def scheduled (allNodes : List Node) (vol : AntstorVolume) : AntstorVolume :=
  if vol.spec.targetNodeId ≠ "" then vol
  else
    match scheduleVolume K sorter cfg allNodes vol with
    | some ⟨_, _, .ok info⟩ =>
      { vol with
        spec := { vol.spec with targetNodeId := info.id }
        status := { vol.status with status := .creating } }
    | _ => vol

/-- A status is reported by the controller or by an agent. Only the agent of the
node of a volume finds the volume ready. -/
def reported (status : AntstorVolumeStatus) (spdkTarget : Option SpdkTarget) (finalizers : List String)
    (vol : AntstorVolume) : AntstorVolume :=
  if status.status = .ready ∧ vol.spec.targetNodeId = "" then vol
  else
    { vol with
      status := status
      finalizers := finalizers
      spec := { vol.spec with spdkTarget := spdkTarget } }

def step (s : Cluster) : Event → Cluster
  | .reconcile pass => handleReconcile K byStorage cfg pass s
  | .schedule key allNodes => onVolume s key (scheduled K sorter cfg allNodes)
  | .report key status spdkTarget finalizers => onVolume s key (reported status spdkTarget finalizers)
  | .remove key => { s with volumes := s.volumes.erase key }

end

end VolumeGroup

end Liteio
