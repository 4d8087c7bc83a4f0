import Liteio.Migration.Protocol

/-! # Safety of the migration protocol

The invariant ties the phase, the two connections, the result of the switch and
the finalizers together. The agent alone enables the switch, so what it read of
it stays true until it writes; the host may disconnect the source because a
migration it saw cleaning has switched, and no write takes that back.
-/

namespace Liteio.Migration

open Optimistic Nvme

def Switched (m : VolumeMigration) : Prop := m.spec.migrationInfo.autoSwitch.status = .success

instance (m : VolumeMigration) : Decidable (Switched m) :=
  inferInstanceAs (Decidable (m.spec.migrationInfo.autoSwitch.status = .success))

def CleansUp (m : VolumeMigration) : Prop := m.status.phase = .cleaning ∨ m.status.phase = .finished

structure Safe (m : VolumeMigration) (calls : List Call) : Prop where
  enabled : Switched m → m.spec.migrationInfo.autoSwitch.enabled = true
  cleansUp : CleansUp m → Switched m
  pipe : m.spec.migrationInfo.migrationPipe.status = .disconnected →
    CleansUp m ∧ migrationFinalizerPipeConnected ∉ m.finalizers
  host : m.spec.migrationInfo.hostConnectStatus = .disconnected →
    CleansUp m ∧ migrationFinalizerHostConnected ∉ m.finalizers
  finished : m.status.phase = .finished → m.spec.migrationInfo.migrationPipe.status = .disconnected ∧
    m.spec.migrationInfo.hostConnectStatus = .disconnected
  source : ∀ nqn trAddr svcID, Call.disconnectTarget nqn trAddr svcID ∈ calls → Switched m

def Assumes : Process → VolumeMigration → VolumeMigration → Prop
  | .controller _, _, _ => True
  | .agent, copy, m =>
    m.spec.migrationInfo.autoSwitch.enabled = copy.spec.migrationInfo.autoSwitch.enabled
  | .host, copy, m => CleansUp copy → Switched m

def knowledge : Annotation Process VolumeMigration (List Call) Write Unit where
  inv := Safe
  held i copy _ m _ := Assumes i copy m
  pending i copy w rest m _ := Assumes i copy m ∧ Writes copy i w ∧ rest = none

structure Fresh (m : VolumeMigration) : Prop where
  phase : m.status.phase = .unset ∨ m.status.phase = .pending
  pipe : m.spec.migrationInfo.migrationPipe.status ≠ .disconnected
  host : m.spec.migrationInfo.hostConnectStatus ≠ .disconnected
  switch : ¬ Switched m

theorem Fresh.safe {m : VolumeMigration} (h : Fresh m) : Safe m [] := by
  have hClean : ¬ CleansUp m := by
    rintro (hPhase | hPhase) <;> rcases h.phase with hFresh | hFresh <;> rw [hFresh] at hPhase <;> cases hPhase
  refine ⟨fun hSwitch => absurd hSwitch h.switch, fun hPhase => absurd hPhase hClean,
    fun hPipe => absurd hPipe h.pipe, fun hHost => absurd hHost h.host, fun hPhase => ?_, ?_⟩
  · exact absurd (.inr hPhase) hClean
  · intro nqn trAddr svcID hCall
    cases hCall

structure Respects (i : Process) (m m' : VolumeMigration) : Prop where
  switched : Switched m → Switched m'
  enabled : i ≠ .agent →
    m'.spec.migrationInfo.autoSwitch.enabled = m.spec.migrationInfo.autoSwitch.enabled

theorem Respects.keeps {i j : Process} {m m' : VolumeMigration} {calls : List Call} (h : Respects i m m')
    (hj : j ≠ i) : knowledge.Keeps j m calls m' calls := by
  have hAssumes : ∀ copy, Assumes j copy m → Assumes j copy m' := by
    intro copy hCopy
    cases j with
    | controller pass => trivial
    | agent => exact (h.enabled (Ne.symm hj)).trans hCopy
    | host => exact fun hClean => h.switched (hCopy hClean)
  exact ⟨fun copy _ => hAssumes copy, fun copy w rest hPending => ⟨hAssumes copy hPending.1, hPending.2⟩⟩

theorem not_mem_removeFinalizer (m : VolumeMigration) (finalizer : String) :
    finalizer ∉ removeFinalizer m finalizer := by
  simp [removeFinalizer]

theorem mem_removeFinalizer {m : VolumeMigration} {finalizer other : String}
    (h : other ∈ removeFinalizer m finalizer) : other ∈ m.finalizers :=
  List.mem_of_mem_filter h

theorem not_cleansUp_of_phase {m : VolumeMigration} {phase : MigrationPhase} (h : m.status.phase = phase)
    (hCleaning : phase ≠ .cleaning) (hFinished : phase ≠ .finished) : ¬ CleansUp m := by
  rintro (hPhase | hPhase)
  · exact hCleaning (h.symm.trans hPhase)
  · exact hFinished (h.symm.trans hPhase)

/-- Before the clean-up it is enough that nothing is recorded as disconnected
and that the switch stays as it is. -/
theorem Safe.early {m m' : VolumeMigration} {calls : List Call} (h : Safe m calls)
    (hPhase : ¬ CleansUp m') (hPipe : m'.spec.migrationInfo.migrationPipe.status ≠ .disconnected)
    (hHost : m'.spec.migrationInfo.hostConnectStatus ≠ .disconnected)
    (hSwitch : m'.spec.migrationInfo.autoSwitch = m.spec.migrationInfo.autoSwitch) : Safe m' calls where
  enabled hSwitched := by
    rw [Switched, hSwitch] at hSwitched
    rw [hSwitch]
    exact h.enabled hSwitched
  cleansUp hClean := absurd hClean hPhase
  pipe hDisconnected := absurd hDisconnected hPipe
  host hDisconnected := absurd hDisconnected hHost
  finished hFinished := absurd (.inr hFinished) hPhase
  source nqn trAddr svcID hCall := by
    rw [Switched, hSwitch]
    exact h.source nqn trAddr svcID hCall

/-- Once the clean-up runs the switch is done and stays, and a connection that
is recorded as disconnected has no finalizer. -/
theorem Safe.late {m m' : VolumeMigration} {calls : List Call} (h : Safe m calls) (hSwitched : Switched m)
    (hSwitch : m'.spec.migrationInfo.autoSwitch = m.spec.migrationInfo.autoSwitch)
    (hPhase : CleansUp m')
    (hPipe : m'.spec.migrationInfo.migrationPipe.status = .disconnected →
      migrationFinalizerPipeConnected ∉ m'.finalizers)
    (hHost : m'.spec.migrationInfo.hostConnectStatus = .disconnected →
      migrationFinalizerHostConnected ∉ m'.finalizers)
    (hFinished : m'.status.phase = .finished → m'.spec.migrationInfo.migrationPipe.status = .disconnected ∧
      m'.spec.migrationInfo.hostConnectStatus = .disconnected) : Safe m' calls := by
  have hAfter : Switched m' := by
    rw [Switched, hSwitch]
    exact hSwitched
  refine ⟨fun _ => ?_, fun _ => hAfter, fun hDisconnected => ⟨hPhase, hPipe hDisconnected⟩,
    fun hDisconnected => ⟨hPhase, hHost hDisconnected⟩, hFinished, fun _ _ _ _ => hAfter⟩
  rw [hSwitch]
  exact h.enabled hSwitched

theorem Safe.pipe_ne {m : VolumeMigration} {calls : List Call} (h : Safe m calls) (hPhase : ¬ CleansUp m) :
    m.spec.migrationInfo.migrationPipe.status ≠ .disconnected :=
  fun hDisconnected => hPhase (h.pipe hDisconnected).1

theorem Safe.host_ne {m : VolumeMigration} {calls : List Call} (h : Safe m calls) (hPhase : ¬ CleansUp m) :
    m.spec.migrationInfo.hostConnectStatus ≠ .disconnected :=
  fun hDisconnected => hPhase (h.host hDisconnected).1

theorem Safe.congr {m m' : VolumeMigration} {calls : List Call} (h : Safe m calls)
    (hPhase : m'.status.phase = m.status.phase)
    (hPipe : m'.spec.migrationInfo.migrationPipe.status = m.spec.migrationInfo.migrationPipe.status)
    (hHost : m'.spec.migrationInfo.hostConnectStatus = m.spec.migrationInfo.hostConnectStatus)
    (hSwitch : m'.spec.migrationInfo.autoSwitch = m.spec.migrationInfo.autoSwitch)
    (hFinalizers : m'.finalizers = m.finalizers) : Safe m' calls := by
  obtain ⟨hEnabled, hCleansUp, hPipeOf, hHostOf, hFinished, hSource⟩ := h
  rw [Switched, ← hSwitch] at hEnabled
  rw [CleansUp, Switched, ← hPhase, ← hSwitch] at hCleansUp
  rw [CleansUp, ← hPhase, ← hPipe, ← hFinalizers] at hPipeOf
  rw [CleansUp, ← hPhase, ← hHost, ← hFinalizers] at hHostOf
  rw [← hPhase, ← hPipe, ← hHost] at hFinished
  simp only [Switched, ← hSwitch] at hSource
  exact ⟨hEnabled, hCleansUp, hPipeOf, hHostOf, hFinished, hSource⟩

theorem Safe.advance {m : VolumeMigration} {calls : List Call} {status : VolumeMigrationStatus}
    (h : Safe m calls) (hAdvances : Advances m status.phase) : Safe { m with status := status } calls := by
  have hEarly : ¬ CleansUp m → ¬ CleansUp { m with status := status } → Safe { m with status := status } calls :=
    fun hBefore hAfter => h.early hAfter (h.pipe_ne hBefore) (h.host_ne hBefore) rfl
  generalize hPhase : status.phase = phase at hAdvances
  cases hAdvances with
  | pending hBefore =>
    exact hEarly (not_cleansUp_of_phase hBefore nofun nofun) (not_cleansUp_of_phase hPhase nofun nofun)
  | creatingVolume hBefore =>
    exact hEarly (not_cleansUp_of_phase hBefore nofun nofun) (not_cleansUp_of_phase hPhase nofun nofun)
  | setupPipe hBefore =>
    exact hEarly (not_cleansUp_of_phase hBefore nofun nofun) (not_cleansUp_of_phase hPhase nofun nofun)
  | syncing hBefore _ _ =>
    exact hEarly (not_cleansUp_of_phase hBefore nofun nofun) (not_cleansUp_of_phase hPhase nofun nofun)
  | cleaning hBefore hSwitch =>
    refine h.late hSwitch rfl (.inl hPhase) (fun hPipe => (h.pipe hPipe).2) (fun hHost => (h.host hHost).2) ?_
    intro hFinished
    cases hPhase.symm.trans hFinished
  | finished hBefore hPipe hHost =>
    exact h.late (h.cleansUp (.inl hBefore)) rfl (.inr hPhase) (fun hPipe => (h.pipe hPipe).2)
      (fun hHost => (h.host hHost).2) fun _ => ⟨hPipe, hHost⟩

/-- The switch is not done while the agent holds a copy in which it is not
enabled. -/
theorem Safe.not_switched {m copy : VolumeMigration} {calls : List Call} (h : Safe m calls)
    (hCopy : Assumes .agent copy m) (hDisabled : copy.spec.migrationInfo.autoSwitch.enabled = false) :
    ¬ Switched m := by
  intro hSwitched
  have hEnabled := h.enabled hSwitched
  rw [hCopy, hDisabled] at hEnabled
  cases hEnabled

@[simp] theorem mergeField_self {α : Type*} [DecidableEq α] (old current : α) :
    mergeField old old current = current :=
  if_pos rfl

theorem enable_not_switched {m copy : VolumeMigration} {job : JobProgress} (h : ¬ Switched m) :
    ¬ Switched (Write.apply (.patch copy.spec.migrationInfo { copy.spec.migrationInfo with
      jobProgress := job, autoSwitch := { enabled := true, status := .unknown } }) m) := by
  intro hSwitched
  change mergeField _ ResultStatus.unknown _ = ResultStatus.success at hSwitched
  unfold mergeField at hSwitched
  split at hSwitched
  · exact h hSwitched
  · cases hSwitched

section writes

variable {i : Process} {copy m : VolumeMigration} {w : Write} {calls : List Call}

theorem Writes.respects (h : Writes copy i w) (hSafe : Safe m calls) (hAssumes : Assumes i copy m)
    (hCurrent : w.guarded = true → copy = m) : Respects i m (w.apply m) := by
  cases h with
  | status _ => exact ⟨fun hSwitched => hSwitched, fun _ => rfl⟩
  | advance _ => exact ⟨fun hSwitched => hSwitched, fun _ => rfl⟩
  | fill hInfo _ =>
    cases hCurrent rfl
    refine ⟨fun hSwitched => ?_, fun _ => ?_⟩
    · rw [Switched, Write.apply, hInfo]
      exact hSwitched
    · rw [Write.apply, hInfo]
  | pipe _ =>
    cases hCurrent rfl
    exact ⟨fun hSwitched => hSwitched, fun _ => rfl⟩
  | progress => exact ⟨fun hSwitched => (mergeField_self _ _).trans hSwitched, fun hAgent => absurd rfl hAgent⟩
  | enable hDisabled =>
    exact ⟨fun hSwitched => absurd hSwitched (hSafe.not_switched hAssumes hDisabled),
      fun hAgent => absurd rfl hAgent⟩
  | unpipe _ =>
    cases hCurrent rfl
    exact ⟨fun hSwitched => hSwitched, fun _ => rfl⟩
  | connect _ =>
    cases hCurrent rfl
    exact ⟨fun hSwitched => hSwitched, fun _ => rfl⟩
  | switch _ =>
    cases hCurrent rfl
    exact ⟨fun _ => rfl, fun _ => rfl⟩
  | disconnect _ =>
    cases hCurrent rfl
    exact ⟨fun hSwitched => hSwitched, fun _ => rfl⟩

theorem Writes.safe (h : Writes copy i w) (hSafe : Safe m calls) (hAssumes : Assumes i copy m)
    (hCurrent : w.guarded = true → copy = m) : Safe (w.apply m) calls := by
  cases h with
  | status hPhase =>
    cases hCurrent rfl
    exact hSafe.congr hPhase rfl rfl rfl rfl
  | advance hAdvances =>
    cases hCurrent rfl
    exact hSafe.advance hAdvances
  | fill hInfo hFinalizers =>
    cases hCurrent rfl
    exact hSafe.congr rfl (by rw [Write.apply, hInfo]) (by rw [Write.apply, hInfo]) (by rw [Write.apply, hInfo])
      hFinalizers
  | pipe hPhase =>
    cases hCurrent rfl
    have hEarly := not_cleansUp_of_phase hPhase nofun nofun
    exact hSafe.early hEarly nofun (hSafe.host_ne hEarly) rfl
  | progress =>
    refine hSafe.congr rfl (mergeField_self _ _) (mergeField_self _ _) ?_ rfl
    simp [Write.apply, setInfo, mergeInfo]
  | enable hDisabled =>
    have hBefore := hSafe.not_switched hAssumes hDisabled
    have hEarly : ¬ CleansUp m := fun hClean => hBefore (hSafe.cleansUp hClean)
    refine ⟨fun hSwitched => absurd hSwitched (enable_not_switched hBefore),
      fun hClean => absurd hClean hEarly, ?_, ?_, ?_, ?_⟩
    · exact fun hPipe => absurd ((mergeField_self _ _).symm.trans hPipe) (hSafe.pipe_ne hEarly)
    · exact fun hHost => absurd ((mergeField_self _ _).symm.trans hHost) (hSafe.host_ne hEarly)
    · exact fun hFinished => absurd (.inr hFinished) hEarly
    · exact fun nqn trAddr svcID hCall => absurd (hSafe.source nqn trAddr svcID hCall) hBefore
  | unpipe hPhase =>
    cases hCurrent rfl
    refine hSafe.late (hSafe.cleansUp (.inl hPhase)) rfl (.inl hPhase) (fun _ => not_mem_removeFinalizer _ _) ?_ ?_
    · exact fun hHost hMem => (hSafe.host hHost).2 (mem_removeFinalizer hMem)
    · intro hFinished
      cases hPhase.symm.trans hFinished
  | connect hPhase =>
    cases hCurrent rfl
    have hEarly := not_cleansUp_of_phase hPhase nofun nofun
    exact hSafe.early hEarly (hSafe.pipe_ne hEarly) nofun rfl
  | switch hEnabled =>
    cases hCurrent rfl
    exact ⟨fun _ => hEnabled, fun _ => rfl, hSafe.pipe, hSafe.host, hSafe.finished, fun _ _ _ _ => rfl⟩
  | disconnect hPhase =>
    cases hCurrent rfl
    refine hSafe.late (hSafe.cleansUp (.inl hPhase)) rfl (.inl hPhase) ?_ (fun _ => not_mem_removeFinalizer _ _) ?_
    · exact fun hPipe hMem => (hSafe.pipe hPipe).2 (mem_removeFinalizer hMem)
    · intro hFinished
      cases hPhase.symm.trans hFinished

end writes

theorem Safe.calls {i : Process} {ans : Answers} {copy m : VolumeMigration} {calls : List Call}
    (h : Safe m calls) (hAssumes : Assumes i copy m) : Safe m (calls ++ (reconcile i ans copy).calls) := by
  refine ⟨h.enabled, h.cleansUp, h.pipe, h.host, h.finished, ?_⟩
  intro nqn trAddr svcID hCall
  rcases List.mem_append.mp hCall with hOld | hNew
  · exact h.source nqn trAddr svcID hOld
  · obtain ⟨rfl, hPhase⟩ := reconcile_disconnects hNew
    exact hAssumes (.inl hPhase)

theorem knowledge_sound : knowledge.Sound protocol where
  read i m calls hSafe := by
    cases i with
    | controller pass => trivial
    | agent => rfl
    | host => exact hSafe.cleansUp
  act i ans copy _ m calls hSafe hAssumes := by
    refine ⟨hSafe.calls hAssumes, ?_, fun j _ => ⟨fun _ _ h => h, fun _ _ _ h => h⟩⟩
    rw [protocol]
    dsimp only
    cases hWrite : (reconcile i ans copy).write with
    | none => trivial
    | some w => exact ⟨hAssumes, reconcile_writes hWrite, rfl⟩
  write i copy w rest m calls hSafe hPending hCurrent := by
    obtain ⟨hAssumes, hWrites, rfl⟩ := hPending
    exact ⟨hWrites.safe hSafe hAssumes hCurrent, nofun,
      fun j hj => (hWrites.respects hSafe hAssumes hCurrent).keeps hj⟩

def MigrationPhase.next : MigrationPhase → MigrationPhase
  | .unset => .pending
  | .pending => .creatingVolume
  | .creatingVolume => .setupPipe
  | .setupPipe => .syncing
  | .syncing => .cleaning
  | .cleaning | .finished => .finished

theorem Writes.phase {i : Process} {copy m : VolumeMigration} {w : Write} (h : Writes copy i w)
    (hCurrent : w.guarded = true → copy = m) :
    (w.apply m).status.phase = m.status.phase ∨
      Advances m (w.apply m).status.phase ∧ (w.apply m).spec = m.spec := by
  cases h with
  | status hPhase =>
    cases hCurrent rfl
    exact .inl hPhase
  | advance hAdvances =>
    cases hCurrent rfl
    exact .inr ⟨hAdvances, rfl⟩
  | fill _ _ => exact .inl rfl
  | pipe _ => exact .inl rfl
  | progress => exact .inl rfl
  | enable _ => exact .inl rfl
  | unpipe _ => exact .inl rfl
  | connect _ => exact .inl rfl
  | switch _ => exact .inl rfl
  | disconnect _ => exact .inl rfl

theorem Advances.eq_next {m : VolumeMigration} {phase : MigrationPhase} (h : Advances m phase) :
    phase = MigrationPhase.next m.status.phase := by
  cases h with
  | pending h => rw [h]; rfl
  | creatingVolume h => rw [h]; rfl
  | setupPipe h => rw [h]; rfl
  | syncing h _ _ => rw [h]; rfl
  | cleaning h _ => rw [h]; rfl
  | finished h _ _ => rw [h]; rfl

structure SafeStep (m m' : VolumeMigration) (calls : List Call) : Prop where
  phase : m'.status.phase = m.status.phase ∨ m'.status.phase = MigrationPhase.next m.status.phase
  syncing : m'.status.phase = .syncing → m.status.phase ≠ .syncing →
    m'.spec.migrationInfo.migrationPipe.status = .connected ∧
      m'.spec.migrationInfo.hostConnectStatus = .connected
  switched : Switched m → Switched m'
  disconnected : m'.spec.migrationInfo.migrationPipe.status = .disconnected ∨
    m'.spec.migrationInfo.hostConnectStatus = .disconnected → Switched m'
  source : ∀ nqn trAddr svcID, Call.disconnectTarget nqn trAddr svcID ∈ calls → Switched m'
  finished : m'.status.phase = .finished → migrationFinalizerPipeConnected ∉ m'.finalizers ∧
    migrationFinalizerHostConnected ∉ m'.finalizers

theorem Safe.safeStep {m m' : VolumeMigration} {calls : List Call} (h : Safe m' calls)
    (hPhase : m'.status.phase = m.status.phase ∨ Advances m m'.status.phase ∧ m'.spec = m.spec)
    (hSwitched : Switched m → Switched m') : SafeStep m m' calls where
  phase := hPhase.imp_right fun hAdvances => hAdvances.1.eq_next
  syncing hSyncing hBefore := by
    rcases hPhase with hSame | ⟨hAdvances, hSpec⟩
    · exact absurd (hSame.symm.trans hSyncing) hBefore
    · rw [hSyncing] at hAdvances
      rw [hSpec]
      cases hAdvances with
      | syncing _ hPipe hHost => exact ⟨hPipe, hHost⟩
  switched := hSwitched
  disconnected hEither := by
    rcases hEither with hPipe | hHost
    · exact h.cleansUp (h.pipe hPipe).1
    · exact h.cleansUp (h.host hHost).1
  source := h.source
  finished hFinished := ⟨(h.pipe (h.finished hFinished).1).2, (h.host (h.finished hFinished).2).2⟩

/-- Every event of every run of the protocol on a fresh migration is safe. -/
theorem protocol_safe {m : VolumeMigration} (h : Fresh m) (events : List (Event Process Answers))
    (e : Event Process Answers) :
    let s := Runs.run protocol.step (System.init m []) events
    SafeStep s.object.value (protocol.step s e).object.value (protocol.step s e).world := by
  intro s
  have hGood : knowledge.Good s := knowledge_sound.run h.safe events
  have hSafe : Safe (protocol.step s e).object.value (protocol.step s e).world :=
    (knowledge_sound.good_step hGood e).inv
  rcases step_object hGood e with hSame | ⟨i, copy, w, rest, ⟨hAssumes, hWrites, _⟩, hCurrent, hApply⟩
  · exact hSafe.safeStep (.inl (by rw [hSame])) (by rw [hSame]; exact fun hSwitched => hSwitched)
  · have hPhase := hWrites.phase hCurrent
    have hSwitched := (hWrites.respects hGood.inv hAssumes hCurrent).switched
    rw [← show _ = w.apply s.object.value from hApply] at hPhase hSwitched
    exact hSafe.safeStep hPhase hSwitched

def pass (i : Process) (ans : Answers) : List (Event Process Answers) := [.read i, .act i ans, .write i]

def spdkVolume (name addr : String) : AntstorVolume :=
  { ns := "obnvmf", name := name,
    spec := { type := .spdkLVol, targetNodeId := name, hostNode := some { id := "h" },
              spdkLvol := some { name := name, lvsName := "lvs" },
              spdkTarget := some { subsysNQN := "nqn", address := addr, svcID := "1" } },
    status := { status := .ready } }

def answers : Answers where
  srcVol := .found (spdkVolume "src" "a")
  destVol := .found (spdkVolume "dst" "b")
  migrationTasks := some [{ status := migrateTaskStatusCompleted, roundPassed := 1 }]
  listSubsystems := some [{ nqn := "nqn", paths := [
    { address := "traddr=a trsvcid=1", pathState := "degraded" },
    { address := "traddr=b trsvcid=1", pathState := "working" }] }]

def wholeRun : List (Event Process Answers) :=
  [.read (.controller 1)] ++
  (List.replicate 7 (pass (.controller 0) answers)).flatten ++ pass .agent answers ++ pass .host answers ++
  pass (.controller 0) answers ++ pass .agent answers ++ pass .host answers ++
  [.act (.controller 1) answers, .write (.controller 1)] ++
  pass (.controller 0) answers ++ pass .agent answers ++ pass .host answers ++ pass (.controller 0) answers

def createdMigration : VolumeMigration :=
  { ns := "obnvmf", name := "m", spec := { sourceVolume := { ns := "obnvmf", name := "src" } } }

/-- A migration that was worked on to its end stays safe. -/
theorem wholeRun_safe :
    let s := Runs.run protocol.step (System.init createdMigration []) wholeRun
    s.object.value.status.phase = .finished ∧
      SafeStep s.object.value (protocol.step s (.read .host)).object.value (protocol.step s (.read .host)).world :=
  ⟨by decide +kernel, protocol_safe ⟨by decide, by decide, by decide, by decide⟩ wholeRun (.read .host)⟩

end Liteio.Migration
