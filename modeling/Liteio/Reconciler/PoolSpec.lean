import Liteio.Reconciler.PoolConditions

/-! # Failed probes and the spec of a pool

`syncPool` assigns the spec that `getPoolSpec` returns before it looks at the
error, and sends it. What a failing probe returns is the empty spec, whichever of
its steps fails, so one failed probe empties the agent's copy and, where the update
is taken, the object. As long as all probes succeed neither is ever empty.
-/

namespace Liteio.PoolSyncer

open Optimistic

def Surroundings.Probed (around : Surroundings) : Prop := (getPoolSpec around).2 = none

instance (around : Surroundings) : Decidable around.Probed :=
  inferInstanceAs (Decidable (_ = _))

theorem getPoolSpec_fst_eq_empty_iff (around : Surroundings) :
    (getPoolSpec around).1 = {} ↔ ¬ around.Probed := by
  rw [Surroundings.Probed, getPoolSpec]
  cases around.poolInfo with
  | error err => simp
  | ok poolInfo =>
    cases around.nodeInfo with
    | error err => simp
    | ok nodeInfo => simp

def SpecWrite.pool : SpecWrite → StoragePool
  | .create pool => pool
  | .update pool => pool

theorem syncPool_fst_spec (K : Kube) (around : Surroundings) (pool : StoragePool) (apiPool : Option StoragePool) :
    (syncPool K around pool apiPool).1.spec = (getPoolSpec around).1 := by
  cases apiPool <;> rfl

theorem syncPool_write_spec {K : Kube} {around : Surroundings} {pool : StoragePool}
    {apiPool : Option StoragePool} {w : SpecWrite} (h : (syncPool K around pool apiPool).2 = some w) :
    w.pool.spec = (getPoolSpec around).1 := by
  cases apiPool with
  | none =>
    dsimp only [syncPool] at h
    split at h
    · cases h
    · cases h
      rfl
  | some apiPool =>
    dsimp only [syncPool] at h
    split at h
    · cases h
    · cases h
      rfl

theorem syncPool_write_update (K : Kube) (around : Surroundings) (pool apiPool : StoragePool) :
    (∃ sent, (syncPool K around pool (some apiPool)).2 = some (.update sent)) ∨
      ((syncPool K around pool (some apiPool)).2 = none ∧ (getPoolSpec around).1 = apiPool.spec) := by
  dsimp only [syncPool]
  split
  · rename_i hSame
    exact .inr ⟨rfl, hSame.2⟩
  · exact .inl ⟨_, rfl⟩

namespace Cluster

def specs (c : Cluster) : StoragePoolSpec × Option StoragePoolSpec :=
  (c.pool.spec, c.object.value.map StoragePool.spec)

/-- A pass of `syncPool` that nothing interrupts. The update may be refused. -/
def syncPass (K : Kube) (c : Cluster) (around : Surroundings) (served : Bool) : Cluster :=
  Runs.run (step K) c [.sync true around, .writeSpec served]

variable {K : Kube} {c : Cluster}

theorem sync_of_idle (hIdle : c.agent = .idle) (around : Surroundings) :
    c.sync K true around = { c with
      pool := (syncPool K around c.pool c.object.value).1
      agent := match (syncPool K around c.pool c.object.value).2 with
        | some w => .syncing c.object.version w
        | none => .idle } := by
  rw [sync, hIdle]
  rfl

theorem specs_syncPass (hIdle : c.agent = .idle) {apiPool : StoragePool} (hObject : c.object.value = some apiPool)
    (around : Surroundings) (served : Bool) :
    (c.syncPass K around served).specs =
      ((getPoolSpec around).1, some (if served then (getPoolSpec around).1 else apiPool.spec)) := by
  have hPool := syncPool_fst_spec K around c.pool (some apiPool)
  rw [syncPass, Runs.run_cons, Runs.run_cons, Runs.run_nil, step, sync_of_idle hIdle, hObject, step, writeSpec]
  -- without a write the specs were the same already
  rcases syncPool_write_update K around c.pool apiPool with ⟨sent, hSent⟩ | ⟨hNone, hSame⟩
  · have hSpec : sent.spec = (getPoolSpec around).1 := syncPool_write_spec hSent
    cases served with
    | false => simp [hSent, specs, hObject, hPool]
    | true => simp [hSent, specs, withSpec, hObject, hPool, hSpec]
  · simp [hNone, specs, hObject, hPool, hSame]

theorem specs_syncPass_eq_iff (K : Kube) (c : Cluster) (hIdle : c.agent = .idle) (apiPool : StoragePool)
    (hObject : c.object.value = some apiPool) (around : Surroundings) (hFailed : ¬ around.Probed)
    (served : Bool) :
    (c.syncPass K around served).specs = c.specs ↔
      c.pool.spec = {} ∧ (apiPool.spec = {} ∨ served = false) := by
  rw [specs_syncPass hIdle hObject, (getPoolSpec_fst_eq_empty_iff around).mpr hFailed, specs, hObject]
  cases served <;> simp [eq_comm]

def unreadable : Surroundings :=
  { poolInfo := .error (.other "exit status 5"), nodeInfo := .ok { id := "n" } }

def blankPool : Cluster := { object := ⟨some {}, 0⟩, pool := {} }

theorem specs_kept_when_empty : (blankPool.syncPass Kube.exact unreadable true).specs = blankPool.specs :=
  (specs_syncPass_eq_iff Kube.exact blankPool rfl {} rfl unreadable (by decide) true).mpr ⟨rfl, .inl rfl⟩

theorem specs_wiped_by_failed_probe :
    ¬ unreadable.Probed ∧ (knownPool.syncPass Kube.exact unreadable true).specs ≠ knownPool.specs := by
  decide +kernel

def Agent.Filled : Agent → Prop
  | .syncing _ w => w.pool.spec ≠ {}
  | _ => True

def Filled (c : Cluster) : Prop :=
  (∀ sp ∈ c.object.value, sp.spec ≠ {}) ∧ Agent.Filled c.agent

def Probes : Action → Prop
  | .sync _ around => around.Probed
  | _ => True

theorem withStatus_spec {object : Versioned (Option StoragePool)} (h : ∀ sp ∈ object.value, sp.spec ≠ {})
    (status : StoragePoolStatus) : ∀ sp ∈ (withStatus object status).value, sp.spec ≠ {} := by
  intro sp hSp
  rw [withStatus, Versioned.put_value] at hSp
  obtain ⟨old, hOld, rfl⟩ := Option.map_eq_some_iff.mp hSp
  exact h old hOld

theorem withSpec_spec {object : Versioned (Option StoragePool)} (h : ∀ sp ∈ object.value, sp.spec ≠ {})
    {w : SpecWrite} (hWrite : w.pool.spec ≠ {}) (version : ℕ) :
    ∀ sp ∈ (withSpec object version w).value, sp.spec ≠ {} := by
  cases w with
  | create pool =>
    rw [withSpec]
    split
    · intro sp hSp
      rw [Versioned.put_value] at hSp
      cases hSp
      exact hWrite
    · exact h
  | update pool =>
    rw [withSpec]
    split
    · intro sp hSp
      rw [Versioned.put_value] at hSp
      obtain ⟨old, -, rfl⟩ := Option.map_eq_some_iff.mp hSp
      exact hWrite
    · exact h

theorem Filled.step (h : c.Filled) {a : Action} (hProbes : Probes a) : (c.step K a).Filled := by
  cases a with
  | report health =>
    rw [Cluster.step, Cluster.report]
    split
    · exact ⟨h.1, trivial⟩
    · exact h
  | get served =>
    rw [Cluster.step, Cluster.get]
    split
    · split
      · cases served <;> exact ⟨h.1, trivial⟩
      · exact ⟨h.1, trivial⟩
    · exact h
  | updateStatus served =>
    rw [Cluster.step, Cluster.updateStatus]
    split
    · split
      · exact ⟨withStatus_spec h.1 _, trivial⟩
      · exact ⟨h.1, trivial⟩
    · exact h
  | sync served around =>
    rw [Cluster.step, Cluster.sync]
    split
    · split
      · refine ⟨h.1, ?_⟩
        dsimp only
        split
        · rename_i w hWrite
          rw [Agent.Filled, syncPool_write_spec hWrite, ne_eq, getPoolSpec_fst_eq_empty_iff, not_not]
          exact hProbes
        · trivial
      · exact h
    · exact h
  | writeSpec served =>
    rw [Cluster.step, Cluster.writeSpec]
    split
    · rename_i version w hAgent
      refine ⟨?_, trivial⟩
      have hWrite : w.pool.spec ≠ {} := by
        have hFilled := h.2
        rwa [hAgent] at hFilled
      cases served with
      | true => exact withSpec_spec h.1 hWrite version
      | false => exact h.1
    · exact h
  | lockGet pass =>
    rw [Cluster.step, Cluster.lockGet]
    split <;> exact h
  | lockNode pass matched served =>
    rw [Cluster.step, Cluster.lockNode]
    split
    · split
      · exact h
      · split
        · exact ⟨withStatus_spec h.1 _, h.2⟩
        · exact h
    · exact h
  | lockCheck pass served =>
    rw [Cluster.step, Cluster.lockCheck]
    split
    · split
      · exact h
      · split
        · exact ⟨withStatus_spec h.1 _, h.2⟩
        · exact h
    · exact h

/-- Along every interleaving of the agent with the lock plugin: the object is not emptied as long as the
probes succeed. -/
theorem always_filled (h : c.Filled) {actions : List Action} (hProbes : ∀ a ∈ actions, Probes a) :
    Runs.Always (step K) Filled c actions := by
  have hGuarded : Runs.Guarded (step K) (fun _ a => Probes a) c actions :=
    Runs.guarded_of_forall fun a hMem _ => hProbes a hMem
  exact hGuarded.always h fun c a hFilled hProbed => hFilled.step hProbed

end Cluster

end Liteio.PoolSyncer
