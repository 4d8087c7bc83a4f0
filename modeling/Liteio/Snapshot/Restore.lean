import Liteio.Agent.Engine
import Liteio.Library.Runs
import Liteio.Snapshot.Exclusion

/-! # Merges whose record is lost

`mergeSnapshot` of the LVM engine, and repeated syncs of one snapshot whose
writes the API server may refuse. `lvconvert --merge` consumes the volume of the
snapshot at once; the agent then records the merge in a label, and a later sync
moves the status. Where the label is refused the next sync looks for the volume
again and fails, and so does every sync after it.
-/

namespace Liteio.Lvm

def lvDeviceOpen : String := "open"

structure SnapshotLV extends LV where
  lvDeviceOpen : String := ""
  origin : String := ""
  deriving DecidableEq

inductive MergeError where
  | listLV
  | notSnapshot (snapName : String)
  | originOpen (origin snapName : String)
  | notExists (snapName : String)
  | command
  deriving DecidableEq

structure MergeAnswers where
  listSnapFails : Bool := false
  listOriginFails : Bool := false
  mergeFails : Bool := false

/-- The volume that `isVolumeExistent` returns. -/
def findLV (lvName : String) (lvs : List SnapshotLV) : Option SnapshotLV :=
  lvs.find? fun lv => lv.name = lvName

/-- `lvconvert --merge` on a closed origin. -/
def lvconvertMerge (lvs : List SnapshotLV) (snapName : String) : List SnapshotLV :=
  lvs.filter fun lv => lv.name ≠ snapName

def mergeSnapshot (ans : MergeAnswers) (lvs : List SnapshotLV) (snapName : String) :
    Except MergeError (List SnapshotLV) :=
  let snapVol := findLV snapName lvs
  let origin := (snapVol.map SnapshotLV.origin).getD ""
  let originVol := findLV origin lvs
  if ans.listSnapFails then .error .listLV
  else if origin = "" then .error (.notSnapshot snapName)
  else if ans.listOriginFails then .error .listLV
  else if (originVol.map SnapshotLV.lvDeviceOpen).getD "" = lvDeviceOpen then .error (.originOpen origin snapName)
  else if snapVol.isNone then .error (.notExists snapName)
  else if ans.mergeFails then .error .command
  else .ok (lvconvertMerge lvs snapName)

def Mergeable (lvs : List SnapshotLV) (snapName : String) : Prop :=
  ∃ snapVol, findLV snapName lvs = some snapVol ∧ snapVol.origin ≠ "" ∧
    ∀ originVol, findLV snapVol.origin lvs = some originVol → originVol.lvDeviceOpen ≠ lvDeviceOpen

section

variable {lvs : List SnapshotLV} {snapName : String}

theorem isVolumeExistent_toLV (lvName : String) (lvs : List SnapshotLV) :
    (isVolumeExistent lvName (lvs.map SnapshotLV.toLV)).2 = (findLV lvName lvs).map SnapshotLV.toLV := by
  rw [isVolumeExistent_snd, List.find?_map]
  rfl

theorem findLV_lvconvertMerge : findLV snapName (lvconvertMerge lvs snapName) = none := by
  rw [findLV, List.find?_eq_none]
  intro lv hLv
  simpa using List.of_mem_filter hLv

theorem mergeSnapshot_of_mergeable (h : Mergeable lvs snapName) :
    mergeSnapshot {} lvs snapName = .ok (lvconvertMerge lvs snapName) := by
  obtain ⟨snapVol, hFind, hOrigin, hClosed⟩ := h
  have hNotOpen : ((findLV snapVol.origin lvs).map SnapshotLV.lvDeviceOpen).getD "" ≠ lvDeviceOpen := by
    cases hOriginVol : findLV snapVol.origin lvs with
    | none => decide
    | some originVol => exact hClosed originVol hOriginVol
  simp [mergeSnapshot, hFind, hOrigin, hNotOpen]

theorem mergeSnapshot_of_gone (h : findLV snapName lvs = none) :
    mergeSnapshot {} lvs snapName = .error (.notSnapshot snapName) := by
  simp [mergeSnapshot, h]

end

end Liteio.Lvm

namespace Liteio.Snapshot

open Lvm

structure Node where
  snap : Option AntstorSnapshot
  lvs : List SnapshotLV

structure Sync where
  accepted : Bool
  ans : Agent.Answers := {}

section

-- the calls of the engine other than a merge: the volumes they leave, if they succeed
variable (others : Agent.Call → List SnapshotLV → Option (List SnapshotLV))

def perform (call : Agent.Call) (lvs : List SnapshotLV) : Option (List SnapshotLV) :=
  match call with
  | .restoreSnapshot snapshotName => (Lvm.mergeSnapshot {} lvs snapshotName).toOption
  | call => others call lvs

def syncOutcome (ans : Agent.Answers) (lvs : List SnapshotLV) (snap : AntstorSnapshot) : Agent.Outcome :=
  Agent.syncOneSnapshot { ans with succeeds := fun call => (perform others call lvs).isSome } snap

/-- A refused write changes nothing. -/
def record (accepted : Bool) (snap : AntstorSnapshot) : Option Write → Option AntstorSnapshot
  | some w => if accepted then w.apply snap else some snap
  | none => some snap

def sync (s : Node) (a : Sync) : Node :=
  match s.snap with
  | none => s
  | some snap =>
    let out := syncOutcome others a.ans s.lvs snap
    { snap := record a.accepted snap out.write
      lvs := out.calls.foldl (fun lvs call => (perform others call lvs).getD lvs) s.lvs }

def Node.Merged (s : Node) : Prop := s.snap.map AntstorSnapshot.status = some .merged

/-- From some number of syncs without failures on the snapshot is merged. -/
def Completes (s : Node) : Prop :=
  ∃ n, ∀ more : List Sync, n ≤ more.length → (∀ a ∈ more, a.accepted) → (Runs.run (sync others) s more).Merged

end

structure IsMerging (snap : AntstorSnapshot) : Prop where
  status : snap.status = .merging
  volType : snap.spec.volType = .kernelLVol
  kept : snap.deletionTimestamp = none

def Finished (snap : AntstorSnapshot) : Prop := (snap.label mergeFinishTimestampLabelKey).isSome

section

variable {others : Agent.Call → List SnapshotLV → Option (List SnapshotLV)} {snap : AntstorSnapshot}
  {lvs : List SnapshotLV} {a : Sync}

theorem finalize_of_kept (hKept : snap.deletionTimestamp = none) : finalize snap = some snap :=
  if_neg fun hGone => absurd hGone.1 (by simp [hKept])

theorem sync_some : sync others ⟨some snap, lvs⟩ a =
    ⟨record a.accepted snap (syncOutcome others a.ans lvs snap).write,
      (syncOutcome others a.ans lvs snap).calls.foldl (fun lvs call => (perform others call lvs).getD lvs) lvs⟩ :=
  rfl

theorem perform_mergeable {name : String} (h : Mergeable lvs name) :
    perform others (.restoreSnapshot name) lvs = some (lvconvertMerge lvs name) := by
  rw [perform, mergeSnapshot_of_mergeable h]
  rfl

theorem perform_gone {name : String} (h : findLV name lvs = none) :
    perform others (.restoreSnapshot name) lvs = none := by
  rw [perform, mergeSnapshot_of_gone h]
  rfl

theorem syncOutcome_merging (h : IsMerging snap) (ans : Agent.Answers) :
    syncOutcome others ans lvs snap =
      Agent.mergeSnapshot { ans with succeeds := fun call => (perform others call lvs).isSome } snap := by
  simp [syncOutcome, Agent.syncOneSnapshot, h.status, h.volType, h.kept]

theorem syncOutcome_unlabelled (h : IsMerging snap) (hLabels : snap.labels = none) (ans : Agent.Answers) :
    syncOutcome others ans lvs snap = { calls := [.restoreSnapshot snap.spec.kernelLvol.name] } := by
  have hFinished : ¬ Finished snap := by simp [Finished, ObjectMeta.label, FiniteMap.find, hLabels]
  exact (syncOutcome_merging h ans).trans ((if_neg hFinished).trans (if_pos hLabels))

theorem syncOutcome_labelled (h : IsMerging snap) (hFinished : ¬ Finished snap) (hLabels : snap.labels ≠ none)
    (ans : Agent.Answers) :
    syncOutcome others ans lvs snap =
      { calls := [.restoreSnapshot snap.spec.kernelLvol.name]
        write := if (perform others (.restoreSnapshot snap.spec.kernelLvol.name) lvs).isSome then
            some (.update { setLabel snap mergeFinishTimestampLabelKey ans.now with status := .merged })
          else none } :=
  (syncOutcome_merging h ans).trans ((if_neg hFinished).trans (if_neg hLabels))

theorem sync_deleting {new : AntstorSnapshot} (hDeleting : snap.deletionTimestamp ≠ none)
    (h : (sync others ⟨some snap, lvs⟩ a).snap = some new) :
    new.status = snap.status ∧ new.deletionTimestamp = snap.deletionTimestamp := by
  rw [sync_some, syncOutcome, Agent.syncOneSnapshot, if_pos (Option.isSome_iff_ne_none.mpr hDeleting)] at h
  dsimp only at h
  cases hWrite : (Agent.deleteSnapshot _ snap).write with
  | none =>
    rw [hWrite] at h
    cases h
    exact ⟨rfl, rfl⟩
  | some w =>
    rw [hWrite, record] at h
    unfold Agent.deleteSnapshot at hWrite
    split at hWrite
    · obtain rfl := Agent.after_write hWrite
      split at h
      · rw [eq_of_finalize h]
        exact ⟨rfl, rfl⟩
      · cases h
        exact ⟨rfl, rfl⟩
    · cases hWrite

theorem sync_unlabelled (h : IsMerging snap) (hLabels : snap.labels = none) :
    (sync others ⟨some snap, lvs⟩ a).snap = some snap := by
  rw [sync_some, syncOutcome_unlabelled h hLabels]
  rfl

theorem sync_gone (h : IsMerging snap) (hFinished : ¬ Finished snap) (hLabels : snap.labels ≠ none)
    (hGone : findLV snap.spec.kernelLvol.name lvs = none) :
    sync others ⟨some snap, lvs⟩ a = ⟨some snap, lvs⟩ := by
  rw [sync_some, syncOutcome_labelled h hFinished hLabels, perform_gone hGone]
  simp [perform_gone hGone, record]

theorem sync_finished (h : IsMerging snap) (hFinished : Finished snap) :
    sync others ⟨some snap, lvs⟩ a = ⟨some (if a.accepted then { snap with status := .merged } else snap), lvs⟩ := by
  have hOut : syncOutcome others a.ans lvs snap =
      { write := some (.updateStatus { snap with status := .merged }) } :=
    (syncOutcome_merging h a.ans).trans (if_pos hFinished)
  rw [sync_some, hOut]
  cases a.accepted with
  | false => rfl
  | true => exact congrArg (fun snap => Node.mk snap lvs) (finalize_of_kept h.kept)

/-- The volume is consumed, also when the label is refused. -/
theorem sync_mergeable (h : IsMerging snap) (hFinished : ¬ Finished snap) (hLabels : snap.labels ≠ none)
    (hVolume : Mergeable lvs snap.spec.kernelLvol.name) :
    sync others ⟨some snap, lvs⟩ a =
      ⟨some (if a.accepted then setLabel snap mergeFinishTimestampLabelKey a.ans.now else snap),
        lvconvertMerge lvs snap.spec.kernelLvol.name⟩ := by
  rw [sync_some, syncOutcome_labelled h hFinished hLabels, perform_mergeable hVolume]
  simp only [List.foldl_cons, List.foldl_nil, perform_mergeable hVolume, Option.getD_some, Option.isSome_some,
    if_true]
  cases a.accepted with
  | false => rfl
  | true =>
    exact congrArg (fun snap' => Node.mk snap' (lvconvertMerge lvs snap.spec.kernelLvol.name))
      (finalize_of_kept h.kept)

end

def Never (s : Node) : Prop :=
  ∀ snap, s.snap = some snap → snap.status = .merging ∧ (snap.deletionTimestamp ≠ none ∨
    IsMerging snap ∧ (snap.labels = none ∨ ¬ Finished snap ∧ findLV snap.spec.kernelLvol.name s.lvs = none))

section

variable {others : Agent.Call → List SnapshotLV → Option (List SnapshotLV)} {s : Node}

theorem Never.not_merged (h : Never s) : ¬ s.Merged := by
  intro hMerged
  obtain ⟨snap, hSnap, hStatus⟩ := Option.map_eq_some_iff.mp hMerged
  exact absurd ((h snap hSnap).1.symm.trans hStatus) (by decide)

theorem Never.sync (h : Never s) (a : Sync) : Never (sync others s a) := by
  obtain ⟨snap, lvs⟩ := s
  cases snap with
  | none => exact h
  | some snap =>
    obtain ⟨hStatus, hDeleting | ⟨hMerging, hWhy⟩⟩ := h snap rfl
    · intro new hNew
      obtain ⟨hSame, hStill⟩ := sync_deleting hDeleting hNew
      exact ⟨hSame.trans hStatus, .inl (hStill ▸ hDeleting)⟩
    by_cases hLabels : snap.labels = none
    · intro new hNew
      rw [sync_unlabelled hMerging hLabels] at hNew
      cases hNew
      exact ⟨hStatus, .inr ⟨hMerging, .inl hLabels⟩⟩
    · obtain ⟨hFinished, hGone⟩ := hWhy.resolve_left hLabels
      rw [sync_gone hMerging hFinished hLabels hGone]
      exact h

def Recorded (s : Node) : Prop :=
  ∃ snap, s.snap = some snap ∧
    (IsMerging snap ∧ Finished snap ∨ snap.status = .merged ∧ snap.deletionTimestamp = none)

theorem sync_merged {snap : AntstorSnapshot} {lvs : List SnapshotLV} (hStatus : snap.status = .merged)
    (hKept : snap.deletionTimestamp = none) (a : Sync) :
    Snapshot.sync others ⟨some snap, lvs⟩ a = ⟨some snap, lvs⟩ := by
  have hOut : syncOutcome others a.ans lvs snap = {} := by
    simp [syncOutcome, Agent.syncOneSnapshot, hStatus, hKept]
  rw [sync_some, hOut]
  rfl

theorem Recorded.sync (h : Recorded s) (a : Sync) :
    Recorded (Snapshot.sync others s a) ∧ (a.accepted → (Snapshot.sync others s a).Merged) := by
  obtain ⟨snap, lvs⟩ := s
  obtain ⟨snap, rfl, ⟨hMerging, hFinished⟩ | ⟨hStatus, hKept⟩⟩ := h
  · rw [sync_finished hMerging hFinished]
    refine ⟨⟨_, rfl, ?_⟩, fun hAccepted => ?_⟩
    · split
      · exact .inr ⟨rfl, hMerging.kept⟩
      · exact .inl ⟨hMerging, hFinished⟩
    · rw [if_pos hAccepted]
      rfl
  · rw [sync_merged hStatus hKept]
    exact ⟨⟨snap, rfl, .inr ⟨hStatus, hKept⟩⟩, fun _ => congrArg some hStatus⟩

theorem Recorded.merged (h : Recorded s) {more : List Sync} (hSome : more ≠ []) (hAccepted : ∀ a ∈ more, a.accepted) :
    (Runs.run (Snapshot.sync others) s more).Merged := by
  obtain ⟨first, last, rfl⟩ := (List.eq_nil_or_concat more).resolve_left hSome
  rw [List.concat_eq_append, Runs.run_append]
  have hFirst : Recorded (Runs.run (Snapshot.sync others) s first) :=
    Runs.run_induction h fun s a hs => (hs.sync a).1
  exact (hFirst.sync last).2 (hAccepted last (by simp))

theorem Recorded.completes (h : Recorded s) : Completes others s :=
  ⟨1, fun _ hMore hAccepted => h.merged (List.ne_nil_of_length_pos hMore) hAccepted⟩

theorem Never.not_completes (h : Never s) : ¬ Completes others s := by
  rintro ⟨n, hMerged⟩
  have hNever : Never (Runs.run (Snapshot.sync others) s (List.replicate n { accepted := true })) :=
    Runs.run_induction h fun s a hs => hs.sync a
  refine hNever.not_merged (hMerged _ (by simp) ?_)
  intro a ha
  rw [List.eq_of_mem_replicate ha]

end

section

variable {others : Agent.Call → List SnapshotLV → Option (List SnapshotLV)} {snap : AntstorSnapshot}
  {lvs : List SnapshotLV}

theorem recorded_of_accepted (h : IsMerging snap) (hFinished : ¬ Finished snap) (hLabels : snap.labels ≠ none)
    (hVolume : Mergeable lvs snap.spec.kernelLvol.name) {a : Sync} (hAccepted : a.accepted) :
    Recorded (sync others ⟨some snap, lvs⟩ a) := by
  rw [sync_mergeable h hFinished hLabels hVolume, if_pos hAccepted]
  refine ⟨_, rfl, .inl ⟨⟨h.status, h.volType, h.kept⟩, ?_⟩⟩
  rw [Finished, label_setLabel_self]
  rfl

theorem never_of_refused (h : IsMerging snap) (hFinished : ¬ Finished snap) (hLabels : snap.labels ≠ none)
    (hVolume : Mergeable lvs snap.spec.kernelLvol.name) {a : Sync} (hRefused : ¬ a.accepted) :
    Never (sync others ⟨some snap, lvs⟩ a) := by
  rw [sync_mergeable h hFinished hLabels hVolume, if_neg hRefused]
  intro new hNew
  obtain rfl : snap = new := Option.some.inj hNew
  exact ⟨h.status, .inr ⟨h, .inr ⟨hFinished, findLV_lvconvertMerge⟩⟩⟩

theorem completes_of_mergeable (h : IsMerging snap) (hFinished : ¬ Finished snap) (hLabels : snap.labels ≠ none)
    (hVolume : Mergeable lvs snap.spec.kernelLvol.name) : Completes others ⟨some snap, lvs⟩ := by
  refine ⟨2, fun more hMore hAccepted => ?_⟩
  match more with
  | a :: b :: more =>
    rw [List.forall_mem_cons] at hAccepted
    have hRecorded := @recorded_of_accepted others _ _ h hFinished hLabels hVolume _ hAccepted.1
    exact hRecorded.merged (List.cons_ne_nil b more) hAccepted.2

/-- Whatever number of syncs has been made, a merge completes precisely if its
snapshot is not being deleted, and the record of the merge is there already or
the first of the syncs has it accepted. -/
theorem merge_completes_iff (hStatus : snap.status = .merging) (hType : snap.spec.volType = .kernelLVol)
    (hVolume : Mergeable lvs snap.spec.kernelLvol.name) (syncs : List Sync) :
    Completes others (Runs.run (sync others) ⟨some snap, lvs⟩ syncs) ↔
      snap.deletionTimestamp = none ∧
        (Finished snap ∨ snap.labels ≠ none ∧ ∀ first ∈ syncs.head?, first.accepted) := by
  have hStuck : ∀ {s syncs}, Never s → ¬ Completes others (Runs.run (sync others) s syncs) := fun hNever =>
    Never.not_completes (Runs.run_induction hNever fun s a hs => hs.sync a)
  have hDone : ∀ {s syncs}, Recorded s → Completes others (Runs.run (sync others) s syncs) := fun hRecorded =>
    Recorded.completes (Runs.run_induction hRecorded fun s a hs => (hs.sync a).1)
  by_cases hKept : snap.deletionTimestamp = none
  swap
  · refine iff_of_false (hStuck ?_) fun h => hKept h.1
    rintro new ⟨⟩
    exact ⟨hStatus, .inl hKept⟩
  have hMerging : IsMerging snap := ⟨hStatus, hType, hKept⟩
  by_cases hFinished : Finished snap
  · exact iff_of_true (hDone ⟨snap, rfl, .inl ⟨hMerging, hFinished⟩⟩) ⟨hKept, .inl hFinished⟩
  by_cases hLabels : snap.labels = none
  · refine iff_of_false (hStuck ?_) fun h => h.2.elim hFinished fun hLabelled => hLabelled.1 hLabels
    rintro new ⟨⟩
    exact ⟨hStatus, .inr ⟨hMerging, .inl hLabels⟩⟩
  -- what is left has its volume, and the first sync consumes it
  cases syncs with
  | nil =>
    have hCompletes := @completes_of_mergeable others _ _ hMerging hFinished hLabels hVolume
    exact iff_of_true hCompletes ⟨hKept, .inr ⟨hLabels, fun first => (absurd · (Option.not_mem_none first))⟩⟩
  | cons a syncs =>
    rw [Runs.run_cons]
    by_cases hAccepted : a.accepted
    · have hRecorded := @recorded_of_accepted others _ _ hMerging hFinished hLabels hVolume _ hAccepted
      refine iff_of_true (hDone hRecorded) ⟨hKept, .inr ⟨hLabels, ?_⟩⟩
      rintro first ⟨⟩
      exact hAccepted
    · have hNever := @never_of_refused others _ _ hMerging hFinished hLabels hVolume _ hAccepted
      refine iff_of_false (hStuck hNever) ?_
      rintro ⟨-, hRecorded | ⟨-, hFirst⟩⟩
      · exact hFinished hRecorded
      · exact hAccepted (hFirst a rfl)

end

def mergingSnap : AntstorSnapshot where
  name := "s"
  labels := some ((∅ : Finmap fun _ : String => String).insert mergeStartTimestampLabelKey "1")
  spec := { volType := .kernelLVol, kernelLvol := { name := "v_snap" }, originVolName := "v" }
  status := .merging

def withSnapshot : List SnapshotLV :=
  [{ name := "v", sizeByte := fourMiB }, { name := "v_snap", sizeByte := fourMiB, origin := "v" }]

theorem mergeable_withSnapshot : Mergeable withSnapshot "v_snap" := by
  refine ⟨_, rfl, by decide, ?_⟩
  rintro originVol ⟨⟩
  decide

/-- Refusals after the first sync only delay the merge. -/
theorem statusRefused_completes : Completes (fun _ _ => none)
    (Runs.run (sync fun _ _ => none) ⟨some mergingSnap, withSnapshot⟩ [⟨true, {}⟩, ⟨false, {}⟩]) := by
  refine (merge_completes_iff rfl rfl mergeable_withSnapshot _).mpr ⟨rfl, .inr ⟨nofun, ?_⟩⟩
  rintro first ⟨⟩
  rfl

/-- The volume is merged and gone, and its snapshot stays Merging. -/
theorem labelRefused_not_completes : ¬ Completes (fun _ _ => none)
    (Runs.run (sync fun _ _ => none) ⟨some mergingSnap, withSnapshot⟩ [⟨false, {}⟩]) := by
  have hFinished : ¬ Finished mergingSnap := by
    unfold Finished
    decide
  have hMerging : IsMerging mergingSnap := ⟨rfl, rfl, rfl⟩
  rw [Runs.run_cons, Runs.run_nil]
  exact Never.not_completes
    (never_of_refused hMerging hFinished nofun mergeable_withSnapshot Bool.false_ne_true)

end Liteio.Snapshot
