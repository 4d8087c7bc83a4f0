import Liteio.Library.Runs
import Liteio.Migration.Protocol

/-! # Passes over a finished migration

The agent and the host look at the phase before they act, and leave a finished
migration alone. The controller first validates the source volume and completes
what the spec says of both volumes, whatever the phase; deleting the source, or
the destination, therefore changes a migration that had come to its end.
-/

namespace Liteio.Migration

@[mk_iff]
structure Quiet (m : VolumeMigration) (out : Outcome) : Prop where
  unchanged : ∀ w, out.write = some w → (w.apply m).spec = m.spec ∧ (w.apply m).status = m.status
  creates : ∀ vol, Call.createVolume vol ∉ out.calls

section

variable {m : VolumeMigration}

theorem quiet_nothing : Quiet m {} := by
  constructor
  · intro w h
    cases h
  · intro vol h
    cases h

theorem quiet_update_iff {m' : VolumeMigration} : Quiet m (.update m') ↔ m'.spec = m.spec := by
  constructor
  · intro h
    exact (h.unchanged _ rfl).1
  · intro h
    constructor
    · intro w hWrite
      cases hWrite
      exact ⟨h, rfl⟩
    · intro vol hCall
      cases hCall

theorem quiet_updateStatus_iff {status : VolumeMigrationStatus} :
    Quiet m (.updateStatus status) ↔ status = m.status := by
  constructor
  · intro h
    exact (h.unchanged _ rfl).2
  · intro h
    constructor
    · intro w hWrite
      cases hWrite
      exact ⟨rfl, h⟩
    · intro vol hCall
      cases hCall

theorem not_quiet_create {vol : AntstorVolume} : ¬ Quiet m { calls := [.createVolume vol] } :=
  fun h => h.creates vol List.mem_cons_self

end

def SourceRecorded (m : VolumeMigration) : Prop :=
  m.spec.sourceVolume.targetNodeId ≠ "" ∧ m.spec.sourceVolume.spdk.subsysNQN ≠ "" ∧
    m.spec.sourceVolume.hostNodeId ≠ ""

theorem not_sourceRecorded_iff {m : VolumeMigration} :
    ¬ SourceRecorded m ↔ m.spec.sourceVolume.targetNodeId = "" ∨ m.spec.sourceVolume.spdk.subsysNQN = "" ∨
      m.spec.sourceVolume.hostNodeId = "" := by
  simp only [SourceRecorded, not_and_or, not_not, ne_eq]

def DestRecorded (m : VolumeMigration) : Prop :=
  m.spec.destVolume.targetNodeId ≠ "" ∧ m.spec.destVolume.spdk.address ≠ ""

def SourceLabelled (m : VolumeMigration) : Prop :=
  (m.label migrationLabelKeySourceNodeId).getD "" ≠ ""

/-- The destinations a pass over a finished migration may find without
consequence; a pass that meets a nil host or target ends there. -/
@[mk_iff]
structure LeavesDest (ans : Answers) (m : VolumeMigration) (srcVol : AntstorVolume) : Prop where
  named : m.spec.destVolume.name = "" → srcVol.spec.hostNode = none
  exist : m.spec.destVolume.name ≠ "" → ∀ text, ans.destVol = .notFound text → srcVol.spec.spdkTarget = none
  recorded : m.spec.destVolume.name ≠ "" → ¬ DestRecorded m → ∀ destVol, ans.destVol = .found destVol →
    destVol.status.status = .ready → ∀ target, destVol.spec.spdkTarget = some target →
      destVol.spec.targetNodeId = m.spec.destVolume.targetNodeId ∧ target = m.spec.destVolume.spdk

@[mk_iff]
structure LeavesSource (ans : Answers) (m : VolumeMigration) (srcVol : AntstorVolume) : Prop where
  type : srcVol.spec.type = .spdkLVol
  position : srcVol.spec.positionAdvice ≠ .mustLocal
  waiting : srcVol.status.status ≠ .ready → m.status.message = .notReady srcVol.status
  recorded : srcVol.status.status = .ready → ¬ SourceRecorded m → ∀ host, srcVol.spec.hostNode = some host →
    ∀ target, srcVol.spec.spdkTarget = some target →
      srcVol.spec.targetNodeId = m.spec.sourceVolume.targetNodeId ∧ host.id = m.spec.sourceVolume.hostNodeId ∧
        target = m.spec.sourceVolume.spdk
  dest : srcVol.status.status = .ready → SourceRecorded m → SourceLabelled m → LeavesDest ans m srcVol

section

variable {ans : Answers} {m : VolumeMigration}

theorem advance_quiet (hPhase : m.status.phase = .finished) : Quiet m (Controller.advance m) := by
  unfold Controller.advance
  rw [hPhase]
  exact quiet_nothing

theorem fillSource_spec_iff {srcVol : AntstorVolume} {host : NodeInfo} {target : SpdkTarget} :
    (Controller.fillSource m srcVol host target).spec = m.spec ↔
      srcVol.spec.targetNodeId = m.spec.sourceVolume.targetNodeId ∧ host.id = m.spec.sourceVolume.hostNodeId ∧
        target = m.spec.sourceVolume.spdk := by
  simp [Controller.fillSource, VolumeMigrationSpec.ext_iff, VolumeInfo.ext_iff]

theorem fillDest_spec_iff {destVol : AntstorVolume} {target : SpdkTarget} :
    (Controller.fillDest m destVol target).spec = m.spec ↔
      destVol.spec.targetNodeId = m.spec.destVolume.targetNodeId ∧ target = m.spec.destVolume.spdk := by
  simp [Controller.fillDest, VolumeMigrationSpec.ext_iff, VolumeInfo.ext_iff]

theorem nameDest_not_quiet {srcVol : AntstorVolume} {host : NodeInfo} (hName : m.spec.destVolume.name = "") :
    ¬ Quiet m (.update (Controller.nameDest m srcVol host ans.uuid)) := by
  rw [quiet_update_iff]
  intro hSpec
  have hNamed : "mig-" ++ ans.uuid = "" := (congrArg (fun spec => spec.destVolume.name) hSpec).trans hName
  exact absurd hNamed (by simp [String.append_eq_empty_iff])

theorem reconcileDest_quiet_iff (hPhase : m.status.phase = .finished) {srcVol : AntstorVolume} :
    Quiet m (Controller.reconcileDest ans m srcVol) ↔ LeavesDest ans m srcVol := by
  rw [leavesDest_iff]
  unfold Controller.reconcileDest
  by_cases hName : m.spec.destVolume.name = ""
  · rw [if_pos hName]
    cases hHost : srcVol.spec.hostNode with
    | none => simp [hName, quiet_nothing]
    | some host => simp [hName, nameDest_not_quiet hName]
  · rw [if_neg hName]
    cases hDest : ans.destVol with
    | error text => simp [hName, quiet_nothing]
    | notFound text =>
      cases hTarget : srcVol.spec.spdkTarget with
      | none => simp [hName, quiet_nothing]
      | some target => simp [hName, not_quiet_create]
    | found destVol =>
      by_cases hReady : destVol.status.status = .ready
      · by_cases hRecorded : DestRecorded m
        · simp [hName, hReady, hRecorded, hRecorded.1, hRecorded.2, advance_quiet hPhase]
        · have hFill : m.spec.destVolume.targetNodeId = "" ∨ m.spec.destVolume.spdk.address = "" := by
            by_contra hNeither
            exact hRecorded (not_or.mp hNeither)
          simp only [hReady, ne_eq, not_true_eq_false, if_false, if_pos hFill]
          cases hTarget : destVol.spec.spdkTarget with
          | none => simp [hName, hTarget, quiet_nothing]
          | some target => simp [hName, hRecorded, hReady, hTarget, quiet_update_iff, fillDest_spec_iff]
      · simp [hName, hReady, quiet_nothing]

theorem error_not_quiet (hStatus : m.status.status = .finished) {message : MigrationMessage} :
    ¬ Quiet m (.updateStatus { m.status with message := message, status := .error }) := by
  rw [quiet_updateStatus_iff]
  intro hSame
  have hError : MigrationStatus.error = .finished := (congrArg (·.status) hSame).trans hStatus
  cases hError

theorem message_quiet_iff {message : MigrationMessage} :
    Quiet m (.updateStatus { m.status with message := message }) ↔ m.status.message = message := by
  rw [quiet_updateStatus_iff]
  constructor
  · intro hSame
    exact (congrArg (·.message) hSame).symm
  · rintro rfl
    rfl

theorem reconcileSource_quiet_iff (hPhase : m.status.phase = .finished) (hStatus : m.status.status = .finished)
    {srcVol : AntstorVolume} :
    Quiet m (Controller.reconcileSource ans m srcVol) ↔ LeavesSource ans m srcVol := by
  rw [leavesSource_iff]
  unfold Controller.reconcileSource
  -- one case for each check of the code, in its order
  by_cases hType : srcVol.spec.type = .spdkLVol
  swap
  · simp [hType, error_not_quiet hStatus]
  by_cases hPosition : srcVol.spec.positionAdvice = .mustLocal
  · simp [hType, hPosition, error_not_quiet hStatus]
  by_cases hReady : srcVol.status.status = .ready
  swap
  · simp [hType, hPosition, hReady, message_quiet_iff]
  rw [if_neg (not_not.mpr hType), if_neg hPosition, if_neg (not_not.mpr hReady)]
  by_cases hRecorded : SourceRecorded m
  · rw [if_neg (fun hFill => not_sourceRecorded_iff.mpr hFill hRecorded)]
    by_cases hLabel : SourceLabelled m
    · rw [if_neg hLabel, if_neg (hPhase ▸ nofun), reconcileDest_quiet_iff hPhase]
      simp [hType, hPosition, hReady, hRecorded, hLabel]
    · rw [if_pos (not_not.mp hLabel)]
      cases hHost : srcVol.spec.hostNode with
      | none => simp [hType, hPosition, hReady, hRecorded, hLabel, quiet_nothing]
      | some host =>
        have hAdd : Quiet m (.update (Controller.addLabels m srcVol host)) := quiet_update_iff.mpr rfl
        simp [hType, hPosition, hReady, hRecorded, hLabel, hAdd]
  · rw [if_pos (not_sourceRecorded_iff.mp hRecorded)]
    cases hHost : srcVol.spec.hostNode with
    | none => simp [hType, hPosition, hReady, hRecorded, quiet_nothing]
    | some host =>
      cases hTarget : srcVol.spec.spdkTarget with
      | none => simp [hType, hPosition, hReady, hRecorded, quiet_nothing]
      | some target => simp [hType, hPosition, hReady, hRecorded, quiet_update_iff, fillSource_spec_iff]

def LeavesFinished (i : Process) (ans : Answers) (m : VolumeMigration) : Prop :=
  match i with
  | .controller _ => m.deletionTimestamp.isSome ∨ ∃ srcVol, ans.srcVol = .found srcVol ∧ LeavesSource ans m srcVol
  | .agent | .host => True

theorem reconcile_quiet_iff (hPhase : m.status.phase = .finished) (hStatus : m.status.status = .finished)
    {i : Process} : Quiet m (reconcile i ans m) ↔ LeavesFinished i ans m := by
  cases i with
  | controller pass =>
    change Quiet m (Controller.reconcile ans m) ↔ _
    unfold Controller.reconcile LeavesFinished
    by_cases hDeleted : m.deletionTimestamp.isSome
    · simp [hDeleted, quiet_nothing]
    · rw [if_neg hDeleted, if_neg (hStatus ▸ nofun), if_neg (hPhase ▸ nofun)]
      cases hSource : ans.srcVol with
      | found srcVol => simp [hDeleted, reconcileSource_quiet_iff hPhase hStatus]
      | notFound text => simp [hDeleted, error_not_quiet hStatus]
      | error text => simp [hDeleted, error_not_quiet hStatus]
  | agent =>
    refine iff_of_true ?_ trivial
    change Quiet m (Agent.reconcile ans m)
    unfold Agent.reconcile
    rw [hPhase]
    split <;> exact quiet_nothing
  | host =>
    refine iff_of_true ?_ trivial
    change Quiet m (Host.reconcile ans m)
    unfold Host.reconcile
    rw [hPhase]
    split <;> exact quiet_nothing

end

def Outcome.apply (out : Outcome) (m : VolumeMigration) : VolumeMigration :=
  match out.write with
  | some w => w.apply m
  | none => m

def passOver (s : VolumeMigration × List Call) (a : Process × Answers) : VolumeMigration × List Call :=
  ((reconcile a.1 a.2 s.1).apply s.1, s.2 ++ (reconcile a.1 a.2 s.1).calls)

structure Stays (m : VolumeMigration) (s : VolumeMigration × List Call) : Prop where
  spec : s.1.spec = m.spec
  status : s.1.status = m.status
  creates : ∀ vol, Call.createVolume vol ∉ s.2

theorem quiet_iff_apply {m : VolumeMigration} {out : Outcome} :
    Quiet m out ↔ (out.apply m).spec = m.spec ∧ (out.apply m).status = m.status ∧
      ∀ vol, Call.createVolume vol ∉ out.calls := by
  unfold Outcome.apply
  cases hWrite : out.write with
  | none => simp [quiet_iff, hWrite]
  | some w => simp [quiet_iff, hWrite, and_assoc]

theorem stays_pass_iff {m : VolumeMigration} {s : VolumeMigration × List Call} (hs : Stays m s)
    (a : Process × Answers) : Stays m (passOver s a) ↔ Quiet s.1 (reconcile a.1 a.2 s.1) := by
  rw [quiet_iff_apply]
  constructor
  · intro hStays
    exact ⟨hStays.spec.trans hs.spec.symm, hStays.status.trans hs.status.symm,
      fun vol hCall => hStays.creates vol (List.mem_append_right _ hCall)⟩
  · rintro ⟨hSpec, hStatus, hCreates⟩
    exact ⟨hSpec.trans hs.spec, hStatus.trans hs.status,
      fun vol hCall => (List.mem_append.mp hCall).elim (hs.creates vol) (hCreates vol)⟩

/-- A finished migration keeps spec and status, and gets no further volume,
precisely if every pass finds the volumes as `LeavesFinished` allows. -/
theorem finished_stays_iff {m : VolumeMigration} (hPhase : m.status.phase = .finished)
    (hStatus : m.status.status = .finished) (passes : List (Process × Answers)) :
    Runs.Always passOver (Stays m) (m, []) passes ↔
      Runs.Guarded passOver (fun s a => LeavesFinished a.1 a.2 s.1) (m, []) passes := by
  have hStart : Stays m (m, []) := ⟨rfl, rfl, fun _ => List.not_mem_nil⟩
  refine @Runs.always_iff_guarded _ _ passOver _ _ (fun _ => True) _ _ trivial hStart (fun _ _ _ => trivial) ?_
  intro s a _ hs
  -- a state that stays is still finished, and the pass is judged there
  rw [stays_pass_iff hs]
  exact reconcile_quiet_iff ((congrArg (·.phase) hs.status).trans hPhase)
    ((congrArg (·.status) hs.status).trans hStatus)

def moved : VolumeMigration where
  name := "m"
  labels := some ((∅ : Finmap fun _ : String => String).insert migrationLabelKeySourceNodeId "n1")
  spec := {
    sourceVolume := { name := "v", targetNodeId := "n1", hostNodeId := "n0", spdk := { subsysNQN := "nqn.v" } }
    destVolume := { ns := "obnvmf", name := "mig-u", targetNodeId := "n2", spdk := { address := "10.0.0.2" } } }
  status := { phase := .finished, status := .finished }

def readyLvol (name : String) : AntstorVolume where
  name := name
  spec := { type := .spdkLVol }
  status := { status := .ready }

def bothKept : Answers where
  srcVol := .found (readyLvol "v")
  destVol := .found (readyLvol "mig-u")

theorem moved_stays : Runs.Always passOver (Stays moved) (moved, [])
    [(.controller 0, bothKept), (.agent, bothKept), (.host, bothKept)] := by
  have hSource : SourceRecorded moved := ⟨by decide, by decide, by decide⟩
  have hDest : DestRecorded moved := ⟨by decide, by decide⟩
  have hLeaves : LeavesSource bothKept moved (readyLvol "v") :=
    { type := rfl
      position := by decide
      waiting := fun hWaiting => absurd rfl hWaiting
      recorded := fun _ hMissing => absurd hSource hMissing
      dest := fun _ _ _ => ⟨fun _ => rfl, fun _ _ _ => rfl, fun _ hMissing => absurd hDest hMissing⟩ }
  exact (finished_stays_iff rfl rfl _).mpr ⟨.inr ⟨_, rfl, hLeaves⟩, trivial, trivial, trivial⟩

/-- The old volume is deleted after the migration; the next pass of the
controller reports an error. -/
theorem sourceDeleted_not_finished : ¬ Runs.Always passOver (Stays moved) (moved, [])
    [(.controller 0, { bothKept with srcVol := .notFound "not found" })] := by
  intro hAlways
  exact absurd hAlways.2.status (by decide)

end Liteio.Migration
