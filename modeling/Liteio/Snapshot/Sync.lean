import Liteio.Api.Objects

/-! # Snapshots in the controller and on the agent

`SnapshotReconciler.Reconcile` and `syncOneSnapshot`, each from the snapshot it
read and the answers it gets. The reconciler first decides whether it gets as far
as listing the snapshots of the origin volume, and what it does then depends on
that list. A write leaves the status, or nothing but the status, as the API
server has it, and removes the object once its last finalizer is gone.
-/

namespace Liteio.Snapshot

open MachineInt Strconv

def originVolumeNameLabelKey : String := "obnmvf/origin-antstorvol-name"
def originVolumeNamespaceLabelKey : String := "obnmvf/origin-antstorvol-ns"
def mergeStartTimestampLabelKey : String := "obnmvf/merge-start-timestamp"
def mergeFinishTimestampLabelKey : String := "obnmvf/merge-finish-timestamp"
def snapshotFinalizer : String := "antstor.alipay.com/snapshot"

inductive Write where
  | update (snap : AntstorSnapshot)
  | updateStatus (snap : AntstorSnapshot)

def finalize (snap : AntstorSnapshot) : Option AntstorSnapshot :=
  if snap.deletionTimestamp.isSome ∧ snap.finalizers = [] then none else some snap

def Write.apply : Write → AntstorSnapshot → Option AntstorSnapshot
  | .update snap, current => finalize
      { snap with name := current.name, deletionTimestamp := current.deletionTimestamp, status := current.status }
  | .updateStatus snap, current => finalize { current with status := snap.status }

def setLabel (snap : AntstorSnapshot) (key value : String) : AntstorSnapshot :=
  { snap with labels := some ((snap.labels.getD ∅).insert key value) }

namespace Controller

inductive Failure where
  | sizeTooSmall
  | onlyOneSnapshot
  | cannotFindOrigin (ns name : String)
  | originNotScheduled (ns name : String)
  | noReservedBytes
  | invalidReserved (text : String)
  | sizeTooLarge (size reserved : ℤ)
  deriving DecidableEq

structure Outcome where
  failure : Option Failure := none
  requeueMinutes : Option ℕ := none
  write : Option Write := none

structure Answers where
  targetPool : GetResult StoragePool := .error ""
  originVol : GetResult AntstorVolume := .error ""

inductive Admission where
  | done (out : Outcome)
  | list

def reconcileUnmerged (obj : AntstorSnapshot) : Admission :=
  if obj.status = .merged then .done {}
  else if obj.labels.getD ∅ = ∅ then
    .done { write := some (.update (setLabel (setLabel obj originVolumeNameLabelKey obj.spec.originVolName)
      originVolumeNamespaceLabelKey obj.spec.originVolNamespace)) }
  else if obj.spec.size < fourMiB then .done { failure := some .sizeTooSmall }
  else if 0 < obj.spec.size % fourMiB then
    .done { write := some (.update { obj with
      spec := { obj.spec with size := obj.spec.size / fourMiB * fourMiB } }) }
  else .list

def reconcileUnlisted (ans : Answers) (obj : AntstorSnapshot) : Admission :=
  if obj.deletionTimestamp.isSome then
    if obj.status = .merged then .done { write := some (.update { obj with finalizers := [] }) }
    else
      match ans.targetPool with
      | .error _ => .done {}
      | .notFound _ => .done { write := some (.update { obj with finalizers := [] }) }
      | .found _ => reconcileUnmerged obj
  else reconcileUnmerged obj

def onlySnapshot (obj : AntstorSnapshot) (snapList : List AntstorSnapshot) : Bool :=
  snapList.all fun item => (item.name = obj.name && item.ns = obj.ns) || item.status = .merged

def advance (obj : AntstorSnapshot) (originVol : AntstorVolume) : Outcome :=
  if obj.spec.originVolTargetNodeID = "" then
    { write := some (.update { setLabel obj targetNodeIdLabelKey originVol.spec.targetNodeId with
        spec := { obj.spec with originVolTargetNodeID := originVol.spec.targetNodeId } }) }
  else if obj.status = .unset then
    { write := some (.updateStatus { obj with status := .creating }) }
  else if (obj.label mergeStartTimestampLabelKey).getD "" ≠ "" ∧ obj.status ≠ .merging then
    { write := some (.updateStatus { obj with status := .merging }) }
  else {}

def reconcileListed (ans : Answers) (obj : AntstorSnapshot) (snapList : List AntstorSnapshot) : Outcome :=
  let ns := obj.spec.originVolNamespace
  let name := obj.spec.originVolName
  if !onlySnapshot obj snapList then { failure := some .onlyOneSnapshot, requeueMinutes := some 3 }
  else
    match ans.originVol with
    | .error _ => {}
    | .notFound _ => { failure := some (.cannotFindOrigin ns name) }
    | .found originVol =>
      if originVol.spec.targetNodeId = "" then
        { failure := some (.originNotScheduled ns name), requeueMinutes := some 1 }
      else if originVol.annotations = none then
        { failure := some .noReservedBytes, requeueMinutes := some 3 }
      else
        let text := (originVol.annotationAt snapshotReservedSpaceAnnotationKey).getD ""
        match atoi text with
        | (_, some _) => { failure := some (.invalidReserved text), requeueMinutes := some 3 }
        | (reserved, none) =>
          if reserved < obj.spec.size then
            { failure := some (.sizeTooLarge obj.spec.size reserved), requeueMinutes := some 3 }
          else advance obj originVol

inductive Prepares (obj : AntstorSnapshot) : Write → Prop
  | release (hDeleting : obj.deletionTimestamp.isSome) : Prepares obj (.update { obj with finalizers := [] })
  | labelOrigin : Prepares obj (.update (setLabel (setLabel obj originVolumeNameLabelKey obj.spec.originVolName)
      originVolumeNamespaceLabelKey obj.spec.originVolNamespace))
  | roundSize : Prepares obj (.update { obj with
      spec := { obj.spec with size := obj.spec.size / fourMiB * fourMiB } })

inductive Advances (obj : AntstorSnapshot) : Write → Prop
  | schedule (targetNodeId : String) : Advances obj (.update { setLabel obj targetNodeIdLabelKey targetNodeId with
      spec := { obj.spec with originVolTargetNodeID := targetNodeId } })
  | start (hStatus : obj.status = .unset) : Advances obj (.updateStatus { obj with status := .creating })
  | merge (hStatus : obj.status ≠ .unset) (hLabel : (obj.label mergeStartTimestampLabelKey).getD "" ≠ "") :
      Advances obj (.updateStatus { obj with status := .merging })

section

variable {ans : Answers} {obj : AntstorSnapshot} {snapList : List AntstorSnapshot} {out : Outcome} {w : Write}

theorem reconcileUnmerged_prepares (hDone : reconcileUnmerged obj = .done out) (hWrite : out.write = some w) :
    Prepares obj w := by
  unfold reconcileUnmerged at hDone
  split at hDone
  · cases hDone
    cases hWrite
  split at hDone
  · cases hDone
    cases hWrite
    exact .labelOrigin
  split at hDone
  · cases hDone
    cases hWrite
  split at hDone
  · cases hDone
    cases hWrite
    exact .roundSize
  · cases hDone

theorem reconcileUnlisted_prepares (hDone : reconcileUnlisted ans obj = .done out) (hWrite : out.write = some w) :
    Prepares obj w := by
  unfold reconcileUnlisted at hDone
  split at hDone
  · rename_i hDeleting
    split at hDone
    · cases hDone
      cases hWrite
      exact .release hDeleting
    split at hDone
    · cases hDone
      cases hWrite
    · cases hDone
      cases hWrite
      exact .release hDeleting
    · exact reconcileUnmerged_prepares hDone hWrite
  · exact reconcileUnmerged_prepares hDone hWrite

theorem advance_advances {originVol : AntstorVolume} (hWrite : (advance obj originVol).write = some w) :
    Advances obj w := by
  unfold advance at hWrite
  split at hWrite
  · cases hWrite
    exact .schedule originVol.spec.targetNodeId
  split at hWrite
  · rename_i hStatus
    cases hWrite
    exact .start hStatus
  split at hWrite
  · rename_i hStatus hMerge
    cases hWrite
    exact .merge hStatus hMerge.1
  · cases hWrite

theorem reconcileListed_advances (hWrite : (reconcileListed ans obj snapList).write = some w) :
    onlySnapshot obj snapList ∧ Advances obj w := by
  unfold reconcileListed at hWrite
  dsimp only at hWrite
  split at hWrite
  · cases hWrite
  · rename_i hOnly
    refine ⟨by simpa using hOnly, ?_⟩
    repeat' split at hWrite
    all_goals first
      | exact advance_advances hWrite
      | cases hWrite

end

end Controller

namespace Agent

inductive Call where
  | deleteVolume (volName : String)
  | createSnapshot (snapshotName originName : String) (sizeByte : ℕ)
  | restoreSnapshot (snapshotName : String)
  deriving DecidableEq

structure Answers where
  succeeds : Call → Bool := fun _ => true
  mode : PoolMode := .kernelLVM
  pool : StoragePool := {}
  now : String := "0"

structure Outcome where
  calls : List Call := []
  write : Option Write := none

def Outcome.after (ans : Answers) (call : Call) (w : Write) : Outcome :=
  { calls := [call], write := if ans.succeeds call then some w else none }

def deleteSnapshot (ans : Answers) (snap : AntstorSnapshot) : Outcome :=
  if snapshotFinalizer ∈ snap.finalizers then
    let volName := match snap.spec.volType with
      | .kernelLVol => snap.spec.kernelLvol.name
      | .spdkLVol => snap.spec.spdkLvol.name
      | _ => ""
    .after ans (.deleteVolume volName)
      (.update { snap with finalizers := snap.finalizers.filter fun item => item ≠ snapshotFinalizer })
  else {}

def createSnapshot (ans : Answers) (snap : AntstorSnapshot) : Outcome :=
  if snapshotFinalizer ∈ snap.finalizers then
    { write := some (.updateStatus { snap with status := .ready }) }
  else
    let snapName := snap.spec.originVolName ++ "_snap"
    let finalizers := snap.finalizers ++ [snapshotFinalizer]
    match ans.mode with
    | .kernelLVM =>
      let devPath := "/dev/" ++ ans.pool.spec.kernelLVM.name ++ "/" ++ snapName
      .after ans (.createSnapshot snapName snap.spec.originVolName (uint64 snap.spec.size))
        (.update { snap with
          finalizers := finalizers
          spec := { snap.spec with
            kernelLvol := { snap.spec.kernelLvol with name := snapName, devPath := devPath }
            volType := .kernelLVol } })
    | .spdkLVStore =>
      let lvsName := ans.pool.spec.spdkLVStore.name
      .after ans (.createSnapshot snapName (lvsName ++ "/" ++ snap.spec.originVolName)
          (uint64 snap.spec.size))
        (.update { snap with
          finalizers := finalizers
          spec := { snap.spec with
            spdkLvol := { snap.spec.spdkLvol with name := snapName, lvsName := lvsName }
            volType := .spdkLVol } })

/-- Without any labels the write panics after the call. -/
def mergeSnapshot (ans : Answers) (snap : AntstorSnapshot) : Outcome :=
  if (snap.label mergeFinishTimestampLabelKey).isSome then
    { write := some (.updateStatus { snap with status := .merged }) }
  else if snap.labels = none then { calls := [.restoreSnapshot snap.spec.kernelLvol.name] }
  else
    .after ans (.restoreSnapshot snap.spec.kernelLvol.name)
      (.update { setLabel snap mergeFinishTimestampLabelKey ans.now with status := .merged })

def syncOneSnapshot (ans : Answers) (snap : AntstorSnapshot) : Outcome :=
  if snap.deletionTimestamp.isSome then deleteSnapshot ans snap
  else if snap.status = .ready ∨ snap.status = .merged then {}
  else if snap.status = .creating then createSnapshot ans snap
  else if snap.spec.volType = .kernelLVol ∧ snap.status = .merging then mergeSnapshot ans snap
  else {}

inductive Syncs (ans : Answers) (snap : AntstorSnapshot) : Outcome → Prop
  | idle : Syncs ans snap {}
  | delete (volName : String) (hDeleting : snap.deletionTimestamp.isSome) :
      Syncs ans snap (.after ans (.deleteVolume volName)
        (.update { snap with finalizers := snap.finalizers.filter fun item => item ≠ snapshotFinalizer }))
  | ready (hStatus : snap.status = .creating) (hFinalizer : snapshotFinalizer ∈ snap.finalizers) :
      Syncs ans snap { write := some (.updateStatus { snap with status := .ready }) }
  | create (originName : String) (spec : AntstorSnapshotSpec) (hStatus : snap.status = .creating)
      (hName : spec.originVolName = snap.spec.originVolName)
      (hNamespace : spec.originVolNamespace = snap.spec.originVolNamespace)
      (hVolume : spec.volType = .kernelLVol → spec.kernelLvol.name = snap.spec.originVolName ++ "_snap") :
      Syncs ans snap (.after ans
        (.createSnapshot (snap.spec.originVolName ++ "_snap") originName (uint64 snap.spec.size))
        (.update { snap with finalizers := snap.finalizers ++ [snapshotFinalizer], spec := spec }))
  | finish (hStatus : snap.status = .merging) :
      Syncs ans snap { write := some (.updateStatus { snap with status := .merged }) }
  | restore (w : Option Write) (hStatus : snap.status = .merging) (hType : snap.spec.volType = .kernelLVol)
      (hWrite : ∀ w' ∈ w, w' = .update
        { setLabel snap mergeFinishTimestampLabelKey ans.now with status := .merged }) :
      Syncs ans snap { calls := [.restoreSnapshot snap.spec.kernelLvol.name], write := w }

section

variable {ans : Answers} {snap : AntstorSnapshot} {call : Call} {w w' : Write}

theorem after_write (h : (Outcome.after ans call w').write = some w) : w = w' := by
  unfold Outcome.after at h
  dsimp only at h
  split at h
  · exact (Option.some.inj h).symm
  · cases h

theorem createSnapshot_syncs (hStatus : snap.status = .creating) : Syncs ans snap (createSnapshot ans snap) := by
  unfold createSnapshot
  split
  · rename_i hFinalizer
    exact .ready hStatus hFinalizer
  · dsimp only
    split
    · exact .create _ _ hStatus rfl rfl fun _ => rfl
    · exact .create _ _ hStatus rfl rfl nofun

theorem mergeSnapshot_syncs (hType : snap.spec.volType = .kernelLVol) (hStatus : snap.status = .merging) :
    Syncs ans snap (mergeSnapshot ans snap) := by
  unfold mergeSnapshot
  split
  · exact .finish hStatus
  split
  · exact .restore none hStatus hType fun w hWrite => absurd hWrite (Option.not_mem_none w)
  · exact .restore _ hStatus hType fun _ hWrite => after_write hWrite

theorem syncOneSnapshot_syncs : Syncs ans snap (syncOneSnapshot ans snap) := by
  unfold syncOneSnapshot
  split
  · rename_i hDeleting
    unfold deleteSnapshot
    split
    · exact .delete _ hDeleting
    · exact .idle
  split
  · exact .idle
  split
  · rename_i hStatus
    exact createSnapshot_syncs hStatus
  split
  · rename_i hMerging
    exact mergeSnapshot_syncs hMerging.1 hMerging.2
  · exact .idle

end

end Agent

end Liteio.Snapshot
