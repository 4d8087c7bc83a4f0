import Liteio.Library.Tasks
import Liteio.Migration.Cleaning
import Liteio.Migration.Recorded

/-! # The stages of a migration

A migration goes through eighteen stages, each reached by a pass of one of the
three processes. Passes that are left alone lose no stage: volumes are found, calls
succeed, the copy job makes its round and the kernel shows the paths. Each lemma at
the end says that the pass of a process reaches the next stage that is its own.
-/

namespace Liteio.Migration

open Nvme

variable {E : Setting}

abbrev Account := VolumeMigration × List Call

def Created (s : Account) : Prop := ∃ vol, .createVolume vol ∈ s.2 ∧ vol.name = s.1.spec.destVolume.name

def Copying (s : Account) : Prop := ∃ srcBdev dstBdev, .startMigrationTask srcBdev dstBdev ∈ s.2

inductive Stage where
  | started
  | source
  | labelled
  | creating
  | named
  | created
  | dest
  | piping
  | pipe
  | host
  | syncing
  | copying
  | enabled
  | switched
  | cleaning
  | unpiped
  | unhosted
  | finished
  deriving DecidableEq

namespace Stage

def all : List Stage :=
  [started, source, labelled, creating, named, created, dest, piping, pipe, host, syncing, copying, enabled,
    switched, cleaning, unpiped, unhosted, finished]

instance : Fintype Stage := ⟨all.toFinset, fun t => by cases t <;> decide⟩

def order (t : Stage) : ℕ := all.idxOf t

def Mine : Stage → Process × Answers → Prop
  | .pipe, a | .copying, a | .enabled, a | .unpiped, a => a.1 = .agent
  | .host, a | .switched, a | .unhosted, a => a.1 = .host
  | _, a => ∃ pass, a.1 = .controller pass

end Stage

def Reached (s : Account) : Stage → Prop
  | .started => 1 ≤ phaseRank s.1.status.phase
  | .source => SourceRecorded s.1
  | .labelled => SourceLabelled s.1
  | .creating => 2 ≤ phaseRank s.1.status.phase
  | .named => s.1.spec.destVolume.name ≠ ""
  | .created => s.1.spec.destVolume.name ≠ "" ∧ (Created s ∨ DestRecorded s.1)
  | .dest => DestRecorded s.1
  | .piping => 3 ≤ phaseRank s.1.status.phase
  | .pipe => Established s.1.spec.migrationInfo.migrationPipe.status
  | .host => Established s.1.spec.migrationInfo.hostConnectStatus
  | .syncing => 4 ≤ phaseRank s.1.status.phase
  | .copying => Copying s ∨ s.1.spec.migrationInfo.autoSwitch.enabled = true
  | .enabled => s.1.spec.migrationInfo.autoSwitch.enabled = true
  | .switched => Switched s.1
  | .cleaning => 5 ≤ phaseRank s.1.status.phase
  | .unpiped => s.1.spec.migrationInfo.migrationPipe.status = .disconnected
  | .unhosted => s.1.spec.migrationInfo.hostConnectStatus = .disconnected
  | .finished => 6 ≤ phaseRank s.1.status.phase

section keeps

variable {i : Process} {m : VolumeMigration} {w : Write} {calls : List Call}

theorem keeps_calls (m : VolumeMigration) (calls more : List Call) :
    Tasks.Keeps Reached (m, calls) (m, calls ++ more) := by
  intro t hReached
  cases t
  case created =>
    refine ⟨hReached.1, hReached.2.imp_left ?_⟩
    rintro ⟨vol, hCall, hName⟩
    exact ⟨vol, List.mem_append_left _ hCall, hName⟩
  case copying =>
    refine Or.imp_left ?_ hReached
    rintro ⟨srcBdev, dstBdev, hCall⟩
    exact ⟨srcBdev, dstBdev, List.mem_append_left _ hCall⟩
  all_goals exact hReached

theorem sourceLabelled_addLabels {vol : AntstorVolume} {host : NodeInfo} (hNode : vol.spec.targetNodeId ≠ "") :
    SourceLabelled (Controller.addLabels m vol host) := by
  have hOther : migrationLabelKeySourceNodeId ≠ migrationLabelKeyHostNodeId := by decide
  have hLabel : (Controller.addLabels m vol host).label migrationLabelKeySourceNodeId =
      some vol.spec.targetNodeId := by
    change Finmap.lookup _ (Finmap.insert _ _ (Finmap.insert _ _ _)) = _
    rw [Finmap.lookup_insert_of_ne _ hOther, Finmap.lookup_insert]
  rw [SourceLabelled, hLabel]
  exact hNode

theorem Moves.keeps (h : Moves E m w) : Tasks.Keeps Reached (m, calls) (w.apply m, calls) := by
  intro t hReached
  cases h with
  | advance hAdvances _ _ =>
    have hLater := Nat.le_of_lt (Nat.lt_of_succ_le hAdvances.rank.ge)
    cases t
    case started | creating | piping | syncing | cleaning | finished => exact Nat.le_trans hReached hLater
    all_goals exact hReached
  | source hVol hHost =>
    cases t
    case source => exact ⟨hVol.node, E.nqn, hHost⟩
    all_goals exact hReached
  | label hVol =>
    cases t
    case labelled => exact sourceLabelled_addLabels hVol.node
    all_goals exact hReached
  | name _ hName =>
    cases t
    case named => exact absurd hName hReached
    case created => exact absurd hName hReached.1
    all_goals exact hReached
  | dest hVol =>
    cases t
    case created => exact ⟨hReached.1, .inr ⟨hVol.node, E.address⟩⟩
    case dest => exact ⟨hVol.node, E.address⟩
    all_goals exact hReached

theorem mergeField_current {α : Type*} [DecidableEq α] (old new : α) : mergeField old new old = new := by
  unfold mergeField
  split
  · exact Eq.symm ‹_›
  · rfl

theorem patch_current (new : MigrationInfo) :
    Write.apply (.patch m.spec.migrationInfo new) m = setInfo m new := by
  rw [Write.apply]
  congr 1
  simp only [mergeInfo, mergeField_current]

theorem Writes.keeps (h : Writes m i w) (hWorker : ∀ pass, i ≠ .controller pass) (hSafe : Safe m calls) :
    Tasks.Keeps Reached (m, calls) (w.apply m, calls) := by
  intro t hReached
  cases h with
  | status | advance | fill => exact absurd rfl (hWorker _)
  | pipe hPhase =>
    cases t
    case pipe => exact .inl rfl
    case unpiped => exact absurd hReached (hSafe.pipe_ne (not_cleansUp_of_phase hPhase nofun nofun))
    all_goals exact hReached
  | progress =>
    rw [patch_current]
    cases t <;> exact hReached
  | enable hDisabled =>
    rw [patch_current]
    cases t
    case copying => exact .inr rfl
    case enabled => rfl
    case switched =>
      rw [hSafe.enabled hReached] at hDisabled
      cases hDisabled
    all_goals exact hReached
  | unpipe =>
    cases t
    case pipe => exact .inr rfl
    case unpiped => rfl
    all_goals exact hReached
  | connect hPhase =>
    cases t
    case host => exact .inl rfl
    case unhosted => exact absurd hReached (hSafe.host_ne (not_cleansUp_of_phase hPhase nofun nofun))
    all_goals exact hReached
  | switch =>
    cases t
    case switched => rfl
    all_goals exact hReached
  | disconnect =>
    cases t
    case host => exact .inr rfl
    case unhosted => rfl
    all_goals exact hReached

end keeps

/-- The kernel lists a working path to the destination, and a path to the source
only as degraded. -/
structure Shows (E : Setting) (list : List SubsystemItem) : Prop where
  present : ∃ item ∈ list, item.nqn = E.dest.subsysNQN ∧ item.paths ≠ []
  working : ∀ item ∈ list, item.nqn = E.dest.subsysNQN → item.paths ≠ [] →
    ∃ path ∈ item.paths, path.pathState = "working" ∧ Host.isPathTo E.dest path = true
  degraded : ∀ item ∈ list, item.nqn = E.dest.subsysNQN → ∀ path ∈ item.paths,
    Host.isPathTo E.source path = true → path.pathState = "degraded"

structure Reports (s : Account) (task : MigrateTask) : Prop where
  round : 0 < task.roundPassed
  due : task.status = migrateTaskStatusCompleted ∨
    s.1.spec.migrationInfo.jobProgress.elapsedTimeMs + 10 * 1000 ≤ task.timeElapsedMS

/-- The destination is there from its creation on, the job from its start on, and
the paths once the switch is enabled; calls succeed. -/
structure Undisturbed (E : Setting) (s : Account) (a : Process × Answers) : Prop where
  source : a.1 ≠ .host → ∃ vol, a.2.srcVol = .found vol ∧ E.Source vol ∧ vol.status.status = .ready
  twice : a.1 = .host → a.2.srcVol = a.2.destVol
  dest : (∃ vol, a.2.destVol = .found vol ∧ E.Dest vol ∧ vol.status.status = .ready) ∨
    (¬ Created s ∧ ¬ DestRecorded s.1) ∧ ∃ text, a.2.destVol = .notFound text
  succeeds : ∀ call, a.2.succeeds call = true
  job : a.1 = .agent → s.1.status.phase = .syncing →
    (∃ task rest, a.2.migrationTasks = some (task :: rest) ∧ Reports s task) ∨
      ¬ Copying s ∧ a.2.migrationTasks = some []
  paths : a.1 = .host → ∃ list, a.2.listSubsystems = some list ∧
    (s.1.spec.migrationInfo.autoSwitch.enabled = true → Shows E list)

structure Steady (E : Setting) (s : Account) : Prop where
  safe : Safe s.1 s.2
  recorded : Recorded E s.1
  status : s.1.status.status ≠ .error

section passes

variable {s : Account} {a : Process × Answers} {i : Process} {pass : ℕ} {ans : Answers}

theorem Undisturbed.truthful (h : Undisturbed E s a) : Truthful E a.1 a.2 := by
  constructor
  · intro hHost vol hFound
    obtain ⟨_, hSource, hVol, _⟩ := h.source hHost
    cases hSource.symm.trans hFound
    exact hVol
  · intro vol hFound _
    rcases h.dest with ⟨_, hDest, hVol, _⟩ | ⟨_, _, hDest⟩
    · cases hDest.symm.trans hFound
      exact hVol
    · cases hDest.symm.trans hFound

theorem Undisturbed.found (ha : Undisturbed E s a) (h : Created s ∨ DestRecorded s.1) :
    ∃ vol, a.2.destVol = .found vol ∧ E.Dest vol ∧ vol.status.status = .ready := by
  rcases ha.dest with hFound | ⟨⟨hCreated, hDest⟩, _⟩
  · exact hFound
  · exact (h.elim hCreated hDest).elim

theorem Undisturbed.after_eq (ha : Undisturbed E s (i, ans)) (call : Call) (rest : Outcome) :
    Outcome.after ans call rest = { rest with calls := call :: rest.calls } :=
  if_pos (ha.succeeds call)

theorem passOver_eq (i : Process) {out : Outcome} (h : reconcile i ans s.1 = out) :
    passOver s (i, ans) = (out.apply s.1, s.2 ++ out.calls) := by
  rw [← h]
  rfl

theorem phaseRank_inj {p q : MigrationPhase} (h : phaseRank p = phaseRank q) : p = q := by
  cases p <;> cases q <;> first | rfl | cases h

/-- The phase is known from the stages reached and not reached. -/
theorem phase_eq {p : MigrationPhase} (hReached : phaseRank p ≤ phaseRank s.1.status.phase)
    (hNot : ¬ phaseRank p + 1 ≤ phaseRank s.1.status.phase) : s.1.status.phase = p :=
  phaseRank_inj (by omega)

theorem cleansUp_of_rank {m : VolumeMigration} (h : 5 ≤ phaseRank m.status.phase) : CleansUp m := by
  cases hPhase : m.status.phase <;> rw [hPhase] at h
  case cleaning => exact .inl hPhase
  case finished => exact .inr hPhase
  all_goals exact absurd h (by decide)

theorem Established.connected {status : ConnectStatus} (h : Established status) (hNot : status ≠ .disconnected) :
    status = .connected :=
  h.resolve_right hNot

def Before (s : Account) (t : Stage) : Prop := ∀ u, Stage.order u < Stage.order t → Reached s u

theorem Before.mono {t u : Stage} (h : Before s t) (hu : Stage.order u ≤ Stage.order t) : Before s u :=
  fun v hv => h v (Nat.lt_of_lt_of_le hv hu)

/-! ## The controller -/

section controller

variable (ha : Undisturbed E s (.controller pass, ans)) (hs : Steady E s)

include hs in
theorem Steady.reconcile_eq (hPhase : s.1.status.phase = .unset) :
    Controller.reconcile ans s.1 = .updateStatus { s.1.status with phase := .pending, status := .working } := by
  unfold Controller.reconcile
  rw [hs.recorded.live, if_neg nofun, if_neg hs.status, if_pos hPhase]

include ha hs

theorem Undisturbed.reconcile_eq (hStarted : 1 ≤ phaseRank s.1.status.phase) :
    ∃ vol, E.Source vol ∧ vol.status.status = .ready ∧
      Controller.reconcile ans s.1 = Controller.reconcileSource ans s.1 vol := by
  obtain ⟨vol, hFound, hVol, hReady⟩ := ha.source nofun
  have hPhase : s.1.status.phase ≠ .unset := by
    intro hUnset
    rw [hUnset] at hStarted
    exact absurd hStarted (by decide)
  refine ⟨vol, hVol, hReady, ?_⟩
  unfold Controller.reconcile
  rw [hs.recorded.live, if_neg nofun, if_neg hs.status, if_neg hPhase, show ans.srcVol = _ from hFound]

theorem Undisturbed.moves {w : Write} (h : (Controller.reconcile ans s.1).write = some w) : Moves E s.1 w := by
  by_cases hStarted : 1 ≤ phaseRank s.1.status.phase
  · obtain ⟨vol, hVol, hReady, hEq⟩ := ha.reconcile_eq hs hStarted
    rw [hEq] at h
    exact reconcileSource_moves hs.status hVol hReady ha.truthful.dest h
  · have hPhase : s.1.status.phase = .unset := phaseRank_inj (Nat.lt_one_iff.mp (Nat.not_le.mp hStarted))
    rw [hs.reconcile_eq hPhase] at h
    cases h
    exact .advance (.pending hPhase) nofun nofun

theorem Undisturbed.source_eq (hStarted : 1 ≤ phaseRank s.1.status.phase) :
    ∃ vol host, E.Source vol ∧ vol.spec.hostNode = some host ∧ host.id ≠ "" ∧ Controller.reconcile ans s.1 =
      if s.1.spec.sourceVolume.targetNodeId = "" ∨ s.1.spec.sourceVolume.spdk.subsysNQN = "" ∨
          s.1.spec.sourceVolume.hostNodeId = "" then .update (Controller.fillSource s.1 vol host E.source)
      else if (s.1.label migrationLabelKeySourceNodeId).getD "" = "" then
        .update (Controller.addLabels s.1 vol host)
      else if s.1.status.phase = .pending then
        .updateStatus { s.1.status with phase := .creatingVolume, status := .working }
      else Controller.reconcileDest ans s.1 vol := by
  obtain ⟨vol, hVol, hReady, hEq⟩ := ha.reconcile_eq hs hStarted
  obtain ⟨host, hHost, hId⟩ := hVol.host
  refine ⟨vol, host, hVol, hHost, hId, hEq.trans ?_⟩
  unfold Controller.reconcileSource
  rw [if_neg (not_not.mpr hVol.type), if_neg hVol.position, if_neg (not_not.mpr hReady), hHost, hVol.target]

theorem Undisturbed.source_reached {t : Stage} (ht : t = .source ∨ t = .labelled ∨ t = .creating)
    (h : Before s t) (hNot : ¬ Reached s t) : Reached (passOver s (.controller pass, ans)) t := by
  have hStarted : 1 ≤ phaseRank s.1.status.phase :=
    h .started (by rcases ht with rfl | rfl | rfl <;> decide)
  obtain ⟨vol, host, hVol, -, hId, hEq⟩ := ha.source_eq hs hStarted
  rcases ht with rfl | rfl | rfl
  · rw [if_pos (not_sourceRecorded_iff.mp hNot)] at hEq
    rw [passOver_eq (.controller pass) hEq]
    exact ⟨hVol.node, E.nqn, hId⟩
  · have hSource : SourceRecorded s.1 := h .source (by decide)
    rw [if_neg fun hFill => not_sourceRecorded_iff.mpr hFill hSource, if_pos (not_not.mp hNot)] at hEq
    rw [passOver_eq (.controller pass) hEq]
    exact sourceLabelled_addLabels hVol.node
  · have hSource : SourceRecorded s.1 := h .source (by decide)
    have hLabel : SourceLabelled s.1 := h .labelled (by decide)
    rw [if_neg fun hFill => not_sourceRecorded_iff.mpr hFill hSource, if_neg hLabel,
      if_pos (phase_eq (p := .pending) hStarted hNot)] at hEq
    rw [passOver_eq (.controller pass) hEq]
    exact Nat.le_refl 2

theorem Undisturbed.dest_eq (h : Before s .named) : ∃ vol host, E.Source vol ∧ vol.spec.hostNode = some host ∧
    Controller.reconcile ans s.1 = Controller.reconcileDest ans s.1 vol := by
  have hPhase : 2 ≤ phaseRank s.1.status.phase := h .creating (by decide)
  have hSource : SourceRecorded s.1 := h .source (by decide)
  have hLabel : SourceLabelled s.1 := h .labelled (by decide)
  have hPending : s.1.status.phase ≠ .pending := by
    intro hPending
    rw [hPending] at hPhase
    exact absurd hPhase (by decide)
  obtain ⟨vol, host, hVol, hHost, -, hEq⟩ := ha.source_eq hs (by omega)
  rw [if_neg fun hFill => not_sourceRecorded_iff.mpr hFill hSource, if_neg hLabel, if_neg hPending] at hEq
  exact ⟨vol, host, hVol, hHost, hEq⟩

omit ha hs in
theorem fillDest_eq {vol destVol : AntstorVolume} (hName : s.1.spec.destVolume.name ≠ "")
    (hFound : ans.destVol = .found destVol) (hDest : E.Dest destVol) (hReady : destVol.status.status = .ready)
    (hMissing : ¬ DestRecorded s.1) :
    Controller.reconcileDest ans s.1 vol = .update (Controller.fillDest s.1 destVol E.dest) := by
  have hFill : s.1.spec.destVolume.targetNodeId = "" ∨ s.1.spec.destVolume.spdk.address = "" := by
    by_contra hNeither
    exact hMissing (not_or.mp hNeither)
  unfold Controller.reconcileDest
  rw [if_neg hName, hFound]
  dsimp only
  rw [if_neg (not_not.mpr hReady), if_pos hFill, hDest.target]

theorem Undisturbed.dest_reached {t : Stage} (ht : t = .named ∨ t = .created ∨ t = .dest) (h : Before s t)
    (hNot : ¬ Reached s t) : Reached (passOver s (.controller pass, ans)) t := by
  obtain ⟨vol, host, hVol, hHost, hEq⟩ :=
    ha.dest_eq hs (h.mono (by rcases ht with rfl | rfl | rfl <;> decide))
  rcases ht with rfl | rfl | rfl
  · have hName : Controller.reconcileDest ans s.1 vol = .update (Controller.nameDest s.1 vol host ans.uuid) := by
      unfold Controller.reconcileDest
      rw [if_pos (not_not.mp hNot), hHost]
    rw [passOver_eq (.controller pass) (hEq.trans hName)]
    change "mig-" ++ ans.uuid ≠ ""
    rw [Ne, String.append_eq_empty_iff]
    exact fun hEmpty => absurd hEmpty.1 (by decide)
  · have hNamed : s.1.spec.destVolume.name ≠ "" := h .named (by decide)
    have hMissing : ¬ DestRecorded s.1 := fun hDest => hNot ⟨hNamed, .inr hDest⟩
    rcases ha.dest with ⟨destVol, hFound, hDestVol, hDestReady⟩ | ⟨_, text, hGone⟩
    · rw [passOver_eq (.controller pass) (hEq.trans (fillDest_eq hNamed hFound hDestVol hDestReady hMissing))]
      exact ⟨hNamed, .inr ⟨hDestVol.node, E.address⟩⟩
    · have hCreate : Controller.reconcileDest ans s.1 vol =
          { calls := [.createVolume (Controller.newDestVolume s.1 vol E.source)] } := by
        unfold Controller.reconcileDest
        rw [if_neg hNamed, show ans.destVol = _ from hGone, hVol.target]
      rw [passOver_eq (.controller pass) (hEq.trans hCreate)]
      exact ⟨hNamed, .inl ⟨_, List.mem_append_right _ List.mem_cons_self, rfl⟩⟩
  · obtain ⟨hNamed, hCreated⟩ : Reached s .created := h .created (by decide)
    obtain ⟨destVol, hFound, hDestVol, hDestReady⟩ := ha.found hCreated
    rw [passOver_eq (.controller pass) (hEq.trans (fillDest_eq hNamed hFound hDestVol hDestReady hNot))]
    exact ⟨hDestVol.node, E.address⟩

theorem Undisturbed.advance_eq (h : Before s .piping) :
    Controller.reconcile ans s.1 = Controller.advance s.1 := by
  obtain ⟨vol, host, -, -, hEq⟩ := ha.dest_eq hs (h.mono (by decide))
  have hDest : DestRecorded s.1 := h .dest (by decide)
  have hNamed : s.1.spec.destVolume.name ≠ "" := h .named (by decide)
  obtain ⟨destVol, hFound, _, hReady⟩ := ha.found (.inr hDest)
  rw [hEq]
  unfold Controller.reconcileDest
  rw [if_neg hNamed, show ans.destVol = _ from hFound]
  dsimp only
  rw [if_neg (not_not.mpr hReady), if_neg (not_or.mpr hDest)]

theorem Undisturbed.phase_reached {t : Stage} (ht : t = .piping ∨ t = .syncing ∨ t = .cleaning ∨ t = .finished)
    (h : Before s t) (hNot : ¬ Reached s t) : Reached (passOver s (.controller pass, ans)) t := by
  have hEq := ha.advance_eq hs (h.mono (by rcases ht with rfl | rfl | rfl | rfl <;> decide))
  unfold Controller.advance at hEq
  rcases ht with rfl | rfl | rfl | rfl
  · rw [phase_eq (p := .creatingVolume) (h .creating (by decide)) hNot] at hEq
    rw [passOver_eq (.controller pass) hEq]
    exact Nat.le_refl 3
  · have hPhase : s.1.status.phase = .setupPipe := phase_eq (h .piping (by decide)) hNot
    have hEarly := not_cleansUp_of_phase hPhase nofun nofun
    have hPipe : Established s.1.spec.migrationInfo.migrationPipe.status := h .pipe (by decide)
    have hHost : Established s.1.spec.migrationInfo.hostConnectStatus := h .host (by decide)
    rw [hPhase] at hEq
    dsimp only at hEq
    rw [if_neg (not_or.mpr ⟨not_not.mpr (hPipe.connected (hs.safe.pipe_ne hEarly)),
      not_not.mpr (hHost.connected (hs.safe.host_ne hEarly))⟩)] at hEq
    rw [passOver_eq (.controller pass) hEq]
    exact Nat.le_refl 4
  · have hSwitched : s.1.spec.migrationInfo.autoSwitch.status = .success := h .switched (by decide)
    rw [phase_eq (p := .syncing) (h .syncing (by decide)) hNot] at hEq
    dsimp only at hEq
    rw [if_neg (not_not.mpr hSwitched)] at hEq
    rw [passOver_eq (.controller pass) hEq]
    exact Nat.le_refl 5
  · have hPipe : s.1.spec.migrationInfo.migrationPipe.status = .disconnected := h .unpiped (by decide)
    have hHost : s.1.spec.migrationInfo.hostConnectStatus = .disconnected := h .unhosted (by decide)
    rw [phase_eq (p := .cleaning) (h .cleaning (by decide)) hNot] at hEq
    dsimp only at hEq
    rw [if_neg (not_or.mpr ⟨not_not.mpr hPipe, not_not.mpr hHost⟩)] at hEq
    rw [passOver_eq (.controller pass) hEq]
    exact Nat.le_refl 6

end controller

theorem passOver_keeps (hs : Steady E s) (ha : Undisturbed E s a) :
    Steady E (passOver s a) ∧ Tasks.Keeps Reached s (passOver s a) := by
  have hAssumes : Assumes a.1 s.1 s.1 := knowledge_sound.read a.1 s.1 s.2 hs.safe
  have hSafe : Safe s.1 (passOver s a).2 := hs.safe.calls hAssumes
  have hCalls := keeps_calls s.1 s.2 (reconcile a.1 a.2 s.1).calls
  cases hWrite : (reconcile a.1 a.2 s.1).write with
  | none =>
    have hPass : passOver s a = (s.1, (passOver s a).2) := by rw [passOver, Outcome.apply, hWrite]
    rw [hPass]
    exact ⟨⟨hSafe, hs.recorded, hs.status⟩, hCalls⟩
  | some w =>
    have hPass : passOver s a = (w.apply s.1, (passOver s a).2) := by rw [passOver, Outcome.apply, hWrite]
    have hWrites := reconcile_writes hWrite
    have hAnswered : Answered E a.1 s.1 w := ⟨a.2, ha.truthful, hWrite⟩
    have hRest : (w.apply s.1).status.status ≠ .error ∧
        Tasks.Keeps Reached (s.1, (passOver s a).2) (w.apply s.1, (passOver s a).2) := by
      obtain ⟨i, ans⟩ := a
      cases i with
      | controller pass =>
        have hMoves := ha.moves hs hWrite
        refine ⟨?_, hMoves.keeps⟩
        cases hMoves with
        | advance _ hStatus _ => exact hStatus
        | source | label | name | dest => exact hs.status
      | agent =>
        refine ⟨?_, hWrites.keeps nofun hSafe⟩
        cases hWrites <;> exact hs.status
      | host =>
        refine ⟨?_, hWrites.keeps nofun hSafe⟩
        cases hWrites <;> exact hs.status
    rw [hPass]
    exact ⟨⟨hWrites.safe hSafe hAssumes fun _ => rfl, hAnswered.recorded hs.recorded fun _ => rfl, hRest.1⟩,
      hCalls.trans hRest.2⟩

/-! ## The agent -/

theorem Undisturbed.readVolumes_eq {srcVol : AntstorVolume} (ha : Undisturbed E s a) (hs : Steady E s)
    (h : Before s .piping) (hSource : a.2.srcVol = .found srcVol) :
    ∃ destVol, readVolumes a.2 s.1 = some (srcVol, destVol) ∧ E.Dest destVol := by
  obtain ⟨destVol, hFound, hDestVol, hReady⟩ := ha.found (.inr (h .dest (by decide)))
  have hNamed : s.1.spec.destVolume.name ≠ "" := h .named (by decide)
  refine ⟨destVol, ?_, hDestVol⟩
  unfold readVolumes
  rw [hs.recorded.live, if_neg nofun, if_neg (not_or.mpr ⟨hNamed, hs.recorded.named hNamed⟩), hSource, hFound]
  dsimp only
  rw [if_neg (not_not.mpr hReady), if_neg (not_not.mpr hDestVol.type)]

section agent

variable (ha : Undisturbed E s (.agent, ans)) (hs : Steady E s)
include ha hs

theorem Undisturbed.agent_reads (h : Before s .piping) :
    ∃ srcVol destVol, readVolumes ans s.1 = some (srcVol, destVol) ∧ E.Source srcVol ∧ E.Dest destVol := by
  obtain ⟨srcVol, hSource, hSrcVol, _⟩ := ha.source nofun
  obtain ⟨destVol, hRead, hDestVol⟩ := ha.readVolumes_eq hs h hSource
  exact ⟨srcVol, destVol, hRead, hSrcVol, hDestVol⟩

theorem Undisturbed.pipe_reached (h : Before s .pipe) (hNot : ¬ Reached s .pipe) :
    Reached (passOver s (.agent, ans)) .pipe := by
  obtain ⟨srcVol, destVol, hRead, _, hDest⟩ := ha.agent_reads hs (h.mono (by decide))
  have hPhase : s.1.status.phase = .setupPipe :=
    phase_eq (h .piping (by decide)) fun hLater => hNot (hs.recorded.syncing hLater).1
  have hFree : s.1.spec.migrationInfo.migrationPipe.destBdevName = "" :=
    of_not_not fun hTaken => hNot (hs.recorded.pipe hTaken)
  have hEq : Agent.reconcile ans s.1 = Agent.setupPipe ans s.1 destVol := by
    unfold Agent.reconcile
    rw [hRead, hPhase]
    exact if_pos hFree
  rw [Agent.setupPipe, hDest.target] at hEq
  dsimp only at hEq
  rw [ha.after_eq] at hEq
  rw [passOver_eq .agent hEq]
  exact .inl rfl

theorem Undisturbed.job_reached {t : Stage} (ht : t = .copying ∨ t = .enabled) (h : Before s t)
    (hNot : ¬ Reached s t) : Reached (passOver s (.agent, ans)) t := by
  have hBefore : Before s .copying := h.mono (by rcases ht with rfl | rfl <;> decide)
  have hDisabled : s.1.spec.migrationInfo.autoSwitch.enabled ≠ true := by
    rcases ht with rfl | rfl
    · exact fun hEnabled => hNot (.inr hEnabled)
    · exact hNot
  have hPhase : s.1.status.phase = .syncing := by
    refine phase_eq (hBefore .syncing (by decide)) fun hLater => hDisabled ?_
    exact hs.safe.enabled (hs.safe.cleansUp (cleansUp_of_rank hLater))
  obtain ⟨srcVol, destVol, hRead, hSource, _⟩ := ha.agent_reads hs (hBefore.mono (by decide))
  obtain ⟨lvol, hLvol⟩ := hSource.lvol
  have hEq : Agent.reconcile ans s.1 = Agent.syncing ans s.1 srcVol := by
    unfold Agent.reconcile
    rw [hRead, hPhase]
  rw [Agent.syncing, hLvol] at hEq
  rcases ha.job rfl hPhase with ⟨task, rest, hTasks, hReports⟩ | ⟨hIdle, hTasks⟩
  · rw [show ans.migrationTasks = _ from hTasks] at hEq
    dsimp only at hEq
    have hDue : ¬ (task.status ≠ migrateTaskStatusCompleted ∧
        task.timeElapsedMS - s.1.spec.migrationInfo.jobProgress.elapsedTimeMs < 10 * 1000) := by
      rintro ⟨hRunning, hSoon⟩
      have := hReports.due.resolve_left hRunning
      omega
    rw [Agent.followTask] at hEq
    dsimp only at hEq
    rw [if_neg hDue, if_neg hDisabled, if_pos hReports.round, ha.after_eq] at hEq
    have hEnabled : (passOver s (.agent, ans)).1.spec.migrationInfo.autoSwitch.enabled = true := by
      rw [passOver_eq .agent hEq]
      dsimp only [Outcome.apply]
      rw [patch_current]
      rfl
    rcases ht with rfl | rfl
    · exact .inr hEnabled
    · exact hEnabled
  · rcases ht with rfl | rfl
    · rw [show ans.migrationTasks = _ from hTasks] at hEq
      rw [passOver_eq .agent hEq]
      exact .inl ⟨_, _, List.mem_append_right _ List.mem_cons_self⟩
    · exact absurd ((h .copying (by decide)).resolve_right hDisabled) hIdle

theorem Undisturbed.unpiped_reached (h : Before s .unpiped) (hNot : ¬ Reached s .unpiped) :
    Reached (passOver s (.agent, ans)) .unpiped := by
  obtain ⟨srcVol, destVol, hRead, hSource, _⟩ := ha.agent_reads hs (h.mono (by decide))
  have hPhase : s.1.status.phase = .cleaning :=
    (cleansUp_of_rank (h .cleaning (by decide))).resolve_right fun hEnd => hNot (hs.safe.finished hEnd).1
  have hPipe : s.1.spec.migrationInfo.migrationPipe.status = .connected :=
    Established.connected (h .pipe (by decide)) hNot
  obtain ⟨lvol, hLvol⟩ := hSource.lvol
  have hEq : Agent.reconcile ans s.1 = Agent.cleaning ans s.1 srcVol destVol := by
    unfold Agent.reconcile
    rw [hRead, hPhase]
  rw [Agent.cleaning] at hEq
  dsimp only at hEq
  rw [if_pos hPipe, hLvol] at hEq
  dsimp only at hEq
  rw [ha.after_eq, ha.after_eq] at hEq
  rw [passOver_eq .agent hEq]
  rfl

end agent

/-! ## The host -/

section host

variable (ha : Undisturbed E s (.host, ans)) (hs : Steady E s)
include ha hs

theorem Undisturbed.host_reads (h : Before s .piping) :
    ∃ srcVol destVol, readVolumes ans s.1 = some (srcVol, destVol) ∧ E.Dest destVol := by
  obtain ⟨vol, hFound, _, _⟩ := ha.found (.inr (h .dest (by decide)))
  obtain ⟨destVol, hRead, hDestVol⟩ := ha.readVolumes_eq hs h ((ha.twice rfl).trans hFound)
  exact ⟨vol, destVol, hRead, hDestVol⟩

theorem Undisturbed.host_reached (h : Before s .host) (hNot : ¬ Reached s .host) :
    Reached (passOver s (.host, ans)) .host := by
  obtain ⟨srcVol, destVol, hRead, hDest⟩ := ha.host_reads hs (h.mono (by decide))
  have hPhase : s.1.status.phase = .setupPipe :=
    phase_eq (h .piping (by decide)) fun hLater => hNot (hs.recorded.syncing hLater).2
  have hFree : s.1.spec.migrationInfo.hostConnectStatus ≠ .connected := fun hTaken => hNot (.inl hTaken)
  obtain ⟨list, hList, _⟩ := ha.paths rfl
  have hEq : Host.reconcile ans s.1 = Host.setupPipe ans s.1 destVol := by
    unfold Host.reconcile
    rw [hRead, hPhase]
    exact if_pos hFree
  rw [Host.setupPipe, show ans.listSubsystems = _ from hList, hDest.target] at hEq
  dsimp only at hEq
  rw [ha.after_eq] at hEq
  -- connected already or just now
  split at hEq
  all_goals
    rw [passOver_eq .host hEq]
    exact .inl rfl

omit ha hs in
theorem scanPaths_eq_true {nqn : String} {matched : Path → Bool} {list : List SubsystemItem}
    (hPresent : ∃ item ∈ list, item.nqn = nqn ∧ item.paths ≠ [])
    (hMatched : ∀ item ∈ list, item.nqn = nqn → item.paths ≠ [] → item.paths.any matched = true) :
    Host.scanPaths nqn matched list = true := by
  have hLoop : ∀ found, (found = true ∨ ∃ item ∈ list, item.nqn = nqn ∧ item.paths ≠ []) →
      list.foldl (fun found item => if item.nqn = nqn ∧ item.paths ≠ [] then item.paths.any matched else found)
        found = true := by
    clear hPresent
    induction list with
    | nil => exact fun found hFound => hFound.resolve_right fun ⟨_, hItem, _⟩ => absurd hItem List.not_mem_nil
    | cons item list ih =>
      intro found hFound
      rw [List.foldl_cons]
      refine ih (fun later hLater => hMatched later (List.mem_cons_of_mem _ hLater)) _ ?_
      by_cases hItem : item.nqn = nqn ∧ item.paths ≠ []
      · rw [if_pos hItem]
        exact .inl (hMatched item List.mem_cons_self hItem.1 hItem.2)
      · rw [if_neg hItem]
        refine hFound.imp_right ?_
        rintro ⟨later, hLater, hSome⟩
        rcases List.mem_cons.mp hLater with rfl | hLater
        · exact absurd hSome hItem
        · exact ⟨later, hLater, hSome⟩
  exact hLoop false (.inr hPresent)

theorem Undisturbed.switched_reached (h : Before s .switched) (hNot : ¬ Reached s .switched) :
    Reached (passOver s (.host, ans)) .switched := by
  obtain ⟨srcVol, destVol, hRead, _⟩ := ha.host_reads hs (h.mono (by decide))
  have hPhase : s.1.status.phase = .syncing :=
    phase_eq (h .syncing (by decide)) fun hLater => hNot (hs.safe.cleansUp (cleansUp_of_rank hLater))
  have hEnabled : s.1.spec.migrationInfo.autoSwitch.enabled = true := h .enabled (by decide)
  obtain ⟨list, hList, hShows⟩ := ha.paths rfl
  have hShows := hShows hEnabled
  have hDest := hs.recorded.dest (h .dest (by decide))
  have hEq : Host.reconcile ans s.1 = Host.syncing ans s.1 := by
    unfold Host.reconcile
    rw [hRead, hPhase]
  have hScan : Host.scanPaths E.dest.subsysNQN
      (fun path => path.pathState = "working" && Host.isPathTo E.dest path) list = true := by
    refine scanPaths_eq_true hShows.present fun item hItem hName hSome => List.any_eq_true.mpr ?_
    obtain ⟨path, hPath, hWorking, hTo⟩ := hShows.working item hItem hName hSome
    refine ⟨path, hPath, ?_⟩
    rw [hTo, hWorking]
    rfl
  rw [Host.syncing] at hEq
  dsimp only at hEq
  rw [if_pos ⟨hNot, hEnabled⟩, show ans.listSubsystems = _ from hList] at hEq
  dsimp only at hEq
  rw [hDest, if_pos hScan] at hEq
  rw [passOver_eq .host hEq]
  rfl

theorem Undisturbed.unhosted_reached (h : Before s .unhosted) (hNot : ¬ Reached s .unhosted) :
    Reached (passOver s (.host, ans)) .unhosted := by
  obtain ⟨srcVol, destVol, hRead, _⟩ := ha.host_reads hs (h.mono (by decide))
  have hPhase : s.1.status.phase = .cleaning :=
    (cleansUp_of_rank (h .cleaning (by decide))).resolve_right fun hEnd => hNot (hs.safe.finished hEnd).2
  have hHost : s.1.spec.migrationInfo.hostConnectStatus = .connected :=
    Established.connected (h .host (by decide)) hNot
  obtain ⟨list, hList, hShows⟩ := ha.paths rfl
  have hShows := hShows (h .enabled (by decide))
  have hDest := hs.recorded.dest (h .dest (by decide))
  have hSource := hs.recorded.source (h .source (by decide))
  have hEq : Host.reconcile ans s.1 = Host.cleaning ans s.1 := by
    unfold Host.reconcile
    rw [hRead, hPhase]
  rw [Host.cleaning] at hEq
  dsimp only at hEq
  rw [if_pos hHost, show ans.listSubsystems = _ from hList] at hEq
  dsimp only at hEq
  cases hPath : Host.sourcePath s.1 list with
  | none =>
    rw [hPath] at hEq
    rw [passOver_eq .host hEq]
    rfl
  | some path =>
    have hDegraded : path.pathState = "degraded" := by
      rw [Host.sourcePath_eq] at hPath
      obtain ⟨item, hItem, hMem⟩ := List.mem_flatMap.mp (List.mem_of_getLast? hPath)
      split at hMem
      · rename_i hName
        obtain ⟨hMem, hTo⟩ := List.mem_filter.mp hMem
        rw [hDest] at hName
        rw [hSource] at hTo
        exact hShows.degraded item hItem hName.1 path hMem hTo
      · exact absurd hMem List.not_mem_nil
    rw [hPath] at hEq
    dsimp only at hEq
    rw [if_neg (not_not.mpr hDegraded), hSource, if_neg E.nqn, ha.after_eq] at hEq
    rw [passOver_eq .host hEq]
    rfl

end host

end passes

end Liteio.Migration
