import Liteio.Library.Optimistic
import Liteio.Migration.Reconcile

/-! # The migration protocol

The controller, the agent of the source node and the host as processes that
share one migration. The controller reads through a cache, so that any number
of its passes may be under way with copies of different age; the agent and the
host read the object itself and work on one pass at a time. The world keeps the
calls made outside so far. `Writes` lists everything a pass can write.
-/

namespace Liteio.Migration

inductive Process where
  | controller (pass : ℕ)
  | agent
  | host
  deriving DecidableEq

def reconcile : Process → Answers → VolumeMigration → Outcome
  | .controller _ => Controller.reconcile
  | .agent => Agent.reconcile
  | .host => Host.reconcile

def protocol : Optimistic.Protocol Process VolumeMigration (List Call) Answers Write Unit where
  start _ := ()
  act i ans m _ calls :=
    (calls ++ (reconcile i ans m).calls,
      match (reconcile i ans m).write with
      | some w => .write w none
      | none => .stop)
  guarded := Write.guarded
  apply := Write.apply

inductive Advances (m : VolumeMigration) : MigrationPhase → Prop where
  | pending (h : m.status.phase = .unset) : Advances m .pending
  | creatingVolume (h : m.status.phase = .pending) : Advances m .creatingVolume
  | setupPipe (h : m.status.phase = .creatingVolume) : Advances m .setupPipe
  | syncing (h : m.status.phase = .setupPipe) (hPipe : m.spec.migrationInfo.migrationPipe.status = .connected)
      (hHost : m.spec.migrationInfo.hostConnectStatus = .connected) : Advances m .syncing
  | cleaning (h : m.status.phase = .syncing) (hSwitch : m.spec.migrationInfo.autoSwitch.status = .success) :
      Advances m .cleaning
  | finished (h : m.status.phase = .cleaning)
      (hPipe : m.spec.migrationInfo.migrationPipe.status = .disconnected)
      (hHost : m.spec.migrationInfo.hostConnectStatus = .disconnected) : Advances m .finished

inductive Writes (m : VolumeMigration) : Process → Write → Prop where
  | status {pass status} (h : status.phase = m.status.phase) :
      Writes m (.controller pass) (.updateStatus status)
  | advance {pass status} (h : Advances m status.phase) : Writes m (.controller pass) (.updateStatus status)
  | fill {pass m'} (hInfo : m'.spec.migrationInfo = m.spec.migrationInfo)
      (hFinalizers : m'.finalizers = m.finalizers) : Writes m (.controller pass) (.update m')
  | pipe {bdevName} (h : m.status.phase = .setupPipe) : Writes m .agent
      (.update { setInfo m { m.spec.migrationInfo with
          migrationPipe := { destBdevName := bdevName, status := .connected } } with
        finalizers := m.finalizers ++ [migrationFinalizerPipeConnected] })
  | progress {job} : Writes m .agent
      (.patch m.spec.migrationInfo { m.spec.migrationInfo with jobProgress := job })
  | enable {job} (h : m.spec.migrationInfo.autoSwitch.enabled = false) : Writes m .agent
      (.patch m.spec.migrationInfo { m.spec.migrationInfo with
        jobProgress := job, autoSwitch := { enabled := true, status := .unknown } })
  | unpipe (h : m.status.phase = .cleaning) : Writes m .agent
      (.update { setInfo m { m.spec.migrationInfo with
          migrationPipe := { m.spec.migrationInfo.migrationPipe with status := .disconnected } } with
        finalizers := removeFinalizer m migrationFinalizerPipeConnected })
  | connect (h : m.status.phase = .setupPipe) : Writes m .host
      (.update { setInfo m { m.spec.migrationInfo with hostConnectStatus := .connected } with
        finalizers := m.finalizers ++ [migrationFinalizerHostConnected] })
  | switch (h : m.spec.migrationInfo.autoSwitch.enabled = true) : Writes m .host
      (.update (setInfo m { m.spec.migrationInfo with
        autoSwitch := { m.spec.migrationInfo.autoSwitch with status := .success } }))
  | disconnect (h : m.status.phase = .cleaning) : Writes m .host
      (.update { setInfo m { m.spec.migrationInfo with hostConnectStatus := .disconnected } with
        finalizers := removeFinalizer m migrationFinalizerHostConnected })

section outcomes

variable {ans : Answers} {m : VolumeMigration} {w : Write}

@[simp] theorem update_write (m' : VolumeMigration) : (Outcome.update m').write = some (.update m') := rfl

@[simp] theorem updateStatus_write (status : VolumeMigrationStatus) :
    (Outcome.updateStatus status).write = some (.updateStatus status) := rfl

theorem after_write {call : Call} {rest : Outcome} (h : (Outcome.after ans call rest).write = some w) :
    rest.write = some w := by
  unfold Outcome.after at h
  split at h
  · exact h
  · cases h

theorem mem_after_calls {call other : Call} {rest : Outcome} (h : other ∈ (Outcome.after ans call rest).calls) :
    other = call ∨ other ∈ rest.calls := by
  unfold Outcome.after at h
  split at h
  · exact List.mem_cons.mp h
  · exact .inl (List.mem_singleton.mp h)

theorem advance_writes {pass : ℕ} (h : (Controller.advance m).write = some w) :
    Writes m (.controller pass) w := by
  unfold Controller.advance at h
  dsimp only at h
  split at h
  · rename_i hPhase
    cases h
    exact .advance (.setupPipe hPhase)
  · rename_i hPhase
    split at h
    · cases h
    · rename_i hConnected
      cases h
      rw [not_or, not_not, not_not] at hConnected
      exact .advance (.syncing hPhase hConnected.1 hConnected.2)
  · rename_i hPhase
    split at h
    · cases h
    · rename_i hSwitch
      cases h
      exact .advance (.cleaning hPhase (not_not.mp hSwitch))
  · rename_i hPhase
    split at h
    · cases h
    · rename_i hDisconnected
      cases h
      rw [not_or, not_not, not_not] at hDisconnected
      exact .advance (.finished hPhase hDisconnected.1 hDisconnected.2)
  · cases h

theorem reconcileDest_writes {pass : ℕ} {srcVol : AntstorVolume}
    (h : (Controller.reconcileDest ans m srcVol).write = some w) : Writes m (.controller pass) w := by
  unfold Controller.reconcileDest at h
  split at h
  · split at h
    · cases h
      exact .fill rfl rfl
    · cases h
  · split at h
    · cases h
    · split at h <;> cases h
    · split at h
      · cases h
      · split at h
        · split at h
          · cases h
            exact .fill rfl rfl
          · cases h
        · exact advance_writes h

theorem reconcileSource_writes {pass : ℕ} {srcVol : AntstorVolume}
    (h : (Controller.reconcileSource ans m srcVol).write = some w) : Writes m (.controller pass) w := by
  unfold Controller.reconcileSource at h
  split at h
  · cases h
    exact .status rfl
  split at h
  · cases h
    exact .status rfl
  split at h
  · cases h
    exact .status rfl
  split at h
  · split at h
    · cases h
      exact .fill rfl rfl
    · cases h
  split at h
  · split at h
    · cases h
      exact .fill rfl rfl
    · cases h
  split at h
  · rename_i hPhase
    cases h
    exact .advance (.creatingVolume hPhase)
  · exact reconcileDest_writes h

theorem controller_writes {pass : ℕ} (h : (Controller.reconcile ans m).write = some w) :
    Writes m (.controller pass) w := by
  unfold Controller.reconcile at h
  split at h
  · cases h
  split at h
  · cases h
  split at h
  · rename_i hPhase
    cases h
    exact .advance (.pending hPhase)
  split at h
  · exact reconcileSource_writes h
  · cases h
    exact .status rfl
  · cases h
    exact .status rfl

theorem agent_writes (h : (Agent.reconcile ans m).write = some w) : Writes m .agent w := by
  unfold Agent.reconcile at h
  split at h
  · cases h
  split at h
  · rename_i hPhase
    unfold Agent.setupPipe at h
    split at h
    · split at h
      · cases h
      · cases after_write h
        exact .pipe hPhase
    · cases h
  · unfold Agent.syncing Agent.followTask at h
    split at h
    · cases h
    · split at h
      · cases h
      · cases h
      · dsimp only at h
        split at h
        · cases h
        split at h
        · cases h
          exact .progress
        · rename_i hEnabled
          split at h
          · cases after_write h
            exact .enable (by simpa using hEnabled)
          · cases h
  · rename_i hPhase
    unfold Agent.cleaning at h
    dsimp only at h
    split at h
    · split at h
      · cases h
      · cases after_write (after_write h)
        exact .unpipe hPhase
    · cases h
  · cases h

theorem host_writes (h : (Host.reconcile ans m).write = some w) : Writes m .host w := by
  unfold Host.reconcile at h
  split at h
  · cases h
  split at h
  · rename_i hPhase
    unfold Host.setupPipe at h
    split at h
    · split at h
      · cases h
      · split at h
        · cases h
        · split at h
          · cases h
            exact .connect hPhase
          · cases after_write h
            exact .connect hPhase
    · cases h
  · unfold Host.syncing at h
    dsimp only at h
    split at h
    · rename_i hSwitch
      split at h
      · cases h
      · split at h
        · cases h
          exact .switch hSwitch.2
        · cases h
    · cases h
  · rename_i hPhase
    unfold Host.cleaning at h
    dsimp only at h
    split at h
    · split at h
      · cases h
      · split at h
        · cases h
          exact .disconnect hPhase
        · split at h
          · cases h
          split at h
          · cases h
          · cases after_write h
            exact .disconnect hPhase
    · cases h
  · cases h

theorem reconcile_writes {i : Process} (h : (reconcile i ans m).write = some w) : Writes m i w := by
  cases i with
  | controller pass => exact controller_writes h
  | agent => exact agent_writes h
  | host => exact host_writes h

@[simp] theorem update_calls (m' : VolumeMigration) : (Outcome.update m').calls = [] := rfl

@[simp] theorem updateStatus_calls (status : VolumeMigrationStatus) :
    (Outcome.updateStatus status).calls = [] := rfl

theorem advance_calls : (Controller.advance m).calls = [] := by
  unfold Controller.advance
  dsimp only
  split <;> (try split) <;> rfl

theorem reconcileDest_calls {srcVol : AntstorVolume} {call : Call}
    (h : call ∈ (Controller.reconcileDest ans m srcVol).calls) :
    ∃ target, call = .createVolume (Controller.newDestVolume m srcVol target) := by
  unfold Controller.reconcileDest at h
  repeat' split at h
  all_goals first
    | exact ⟨_, List.mem_singleton.mp h⟩
    | cases h
    | exact absurd (advance_calls ▸ h) List.not_mem_nil

theorem reconcileSource_calls {srcVol : AntstorVolume} {call : Call}
    (h : call ∈ (Controller.reconcileSource ans m srcVol).calls) :
    srcVol.status.status = .ready ∧
      ∃ target, call = .createVolume (Controller.newDestVolume m srcVol target) := by
  unfold Controller.reconcileSource at h
  split at h
  · cases h
  split at h
  · cases h
  split at h
  · cases h
  · rename_i hReady
    refine ⟨not_not.mp hReady, ?_⟩
    repeat' split at h
    all_goals first
      | exact reconcileDest_calls h
      | cases h

theorem controller_calls {call : Call} (h : call ∈ (Controller.reconcile ans m).calls) :
    ∃ srcVol target, ans.srcVol = .found srcVol ∧ srcVol.status.status = .ready ∧
      call = .createVolume (Controller.newDestVolume m srcVol target) := by
  unfold Controller.reconcile at h
  split at h
  · cases h
  split at h
  · cases h
  split at h
  · cases h
  split at h
  · rename_i srcVol hSource
    obtain ⟨hReady, target, hCall⟩ := reconcileSource_calls h
    exact ⟨srcVol, target, hSource, hReady, hCall⟩
  · cases h
  · cases h

theorem followTask_calls {srcBdev : String} {task : MigrateTask} {call : Call}
    (h : call ∈ (Agent.followTask ans m srcBdev task).calls) :
    call = .setMigrationConfig srcBdev m.spec.migrationInfo.migrationPipe.destBdevName := by
  unfold Agent.followTask at h
  dsimp only at h
  split at h
  · cases h
  split at h
  · cases h
  split at h
  · exact (mem_after_calls h).resolve_right List.not_mem_nil
  · cases h

theorem agent_calls {nqn trAddr svcID : String} :
    Call.disconnectTarget nqn trAddr svcID ∉ (Agent.reconcile ans m).calls := by
  intro h
  unfold Agent.reconcile at h
  split at h
  · cases h
  split at h
  · unfold Agent.setupPipe at h
    split at h
    · split at h
      · cases h
      · rcases mem_after_calls h with hEnsure | hUpdate
        · cases hEnsure
        · cases hUpdate
    · cases h
  · unfold Agent.syncing at h
    repeat' split at h
    all_goals first
      | cases followTask_calls h
      | cases List.mem_singleton.mp h
      | cases h
  · unfold Agent.cleaning at h
    dsimp only at h
    split at h
    · split at h
      · cases h
      · rcases mem_after_calls h with hClean | h
        · cases hClean
        · rcases mem_after_calls h with hDetach | h
          · cases hDetach
          · cases h
    · cases h
  · cases h

theorem host_calls {nqn trAddr svcID : String}
    (h : Call.disconnectTarget nqn trAddr svcID ∈ (Host.reconcile ans m).calls) :
    m.status.phase = .cleaning := by
  unfold Host.reconcile at h
  split at h
  · cases h
  split at h
  · unfold Host.setupPipe at h
    repeat' split at h
    all_goals first
      | cases h
      | rcases mem_after_calls h with hConnect | hUpdate
        · cases hConnect
        · cases hUpdate
  · unfold Host.syncing at h
    dsimp only at h
    repeat' split at h
    all_goals cases h
  · rename_i hPhase
    exact hPhase
  · cases h

theorem reconcile_disconnects {i : Process} {nqn trAddr svcID : String}
    (h : Call.disconnectTarget nqn trAddr svcID ∈ (reconcile i ans m).calls) :
    i = .host ∧ m.status.phase = .cleaning := by
  cases i with
  | controller pass =>
    obtain ⟨_, _, _, _, hCall⟩ := controller_calls h
    cases hCall
  | agent => exact absurd h agent_calls
  | host => exact ⟨rfl, host_calls h⟩

end outcomes

end Liteio.Migration
