import Liteio.Reconciler.LockPool
import Liteio.Library.Optimistic
import Liteio.Scheduler.Fit

/-! # Two writers of the conditions of a pool

The agent and the lock plugin write the status of one pool object. Each status
update is refused when the object has changed since it was fetched, and still
the agent can undo what the plugin wrote: the conditions it sends are those of
its own copy, which is older than the object it fetched. It keeps the KubeNode
condition as long as its copy has that condition whenever it fetches the object
to compare.
-/

namespace Liteio.PoolSyncer

open Optimistic

/-- The loop of the agent: before and after `updatePoolStatus` has fetched the
object, and between the two requests of `syncPool`. -/
inductive Agent where
  | idle
  | reported (errVG : Option VgError)
  | updating (copy : Versioned (Option StoragePool)) (status : StoragePoolStatus)
  | syncing (version : ℕ) (w : SpecWrite)

def Agent.isReported : Agent → Bool
  | .reported _ => true
  | _ => false

inductive Lock where
  | idle
  | fetched (version : ℕ) (sp : StoragePool)
  | noded (version : ℕ) (sp : StoragePool)

structure Cluster where
  object : Versioned (Option StoragePool)
  pool : StoragePool
  agent : Agent := .idle
  locks : ℕ → Lock := fun _ => .idle

namespace Cluster

/-- A request that is not `served` fails without an effect. -/
inductive Action where
  | report (h : Health)
  | get (served : Bool)
  | updateStatus (served : Bool)
  | sync (served : Bool) (around : Surroundings)
  | writeSpec (served : Bool)
  | lockGet (pass : ℕ)
  | lockNode (pass : ℕ) (matched served : Bool)
  | lockCheck (pass : ℕ) (served : Bool)

def withStatus (object : Versioned (Option StoragePool)) (status : StoragePoolStatus) :
    Versioned (Option StoragePool) :=
  object.put (object.value.map fun sp => { sp with status := status })

/-- Requests for the main resource leave the status alone. -/
def withSpec (object : Versioned (Option StoragePool)) (version : ℕ) :
    SpecWrite → Versioned (Option StoragePool)
  | .create pool =>
    match object.value with
    | none => object.put (some { pool with status := {} })
    | some _ => object
  | .update pool =>
    if version = object.version then
      object.put (object.value.map fun sp => { sp with annotations := pool.annotations, spec := pool.spec })
    else object

def become (c : Cluster) (pass : ℕ) (lock : Lock) : Cluster :=
  { c with locks := Function.update c.locks pass lock }

def report (c : Cluster) (h : Health) : Cluster :=
  match c.agent with
  | .idle =>
    let (real, errVG) := realStatus h c.pool.status
    { c with pool := { c.pool with status := real }, agent := .reported errVG }
  | _ => c

def get (c : Cluster) (served : Bool) : Cluster :=
  match c.agent with
  | .reported errVG =>
    match c.object.value.bind fun apiPool => changedStatus errVG c.pool.status apiPool.status with
    | some status => { c with agent := if served then .updating c.object status else .idle }
    | none => { c with agent := .idle }
  | _ => c

def updateStatus (c : Cluster) (served : Bool) : Cluster :=
  match c.agent with
  | .updating copy status =>
    if served ∧ copy.version = c.object.version then
      { c with
        object := withStatus c.object status
        pool := { c.pool with status := status }
        agent := .idle }
    else { c with agent := .idle }
  | _ => c

def sync (K : Kube) (c : Cluster) (served : Bool) (around : Surroundings) : Cluster :=
  match c.agent with
  | .idle =>
    if served then
      let (pool, w) := syncPool K around c.pool c.object.value
      { c with
        pool := pool
        agent := match w with
          | some w => .syncing c.object.version w
          | none => .idle }
    else c
  | _ => c

def writeSpec (c : Cluster) (served : Bool) : Cluster :=
  match c.agent with
  | .syncing version w =>
    { c with object := if served then withSpec c.object version w else c.object, agent := .idle }
  | _ => c

def lockGet (c : Cluster) (pass : ℕ) : Cluster :=
  match c.locks pass, c.object.value with
  | .idle, some sp => c.become pass (.fetched c.object.version sp)
  | _, _ => c

def lockNode (c : Cluster) (pass : ℕ) (matched served : Bool) : Cluster :=
  match c.locks pass with
  | .fetched version sp =>
    match LockPoolPlugin.lockNode matched sp.status with
    | none => c.become pass (.noded version sp)
    | some status =>
      if served ∧ version = c.object.version then
        { c with object := withStatus c.object status }.become pass
          (.noded (withStatus c.object status).version { sp with status := status })
      else c.become pass .idle
  | _ => c

def lockCheck (c : Cluster) (pass : ℕ) (served : Bool) : Cluster :=
  match c.locks pass with
  | .noded version sp =>
    match LockPoolPlugin.checkConditions sp.status with
    | none => c.become pass .idle
    | some status =>
      if served ∧ version = c.object.version then
        { c with object := withStatus c.object status }.become pass .idle
      else c.become pass .idle
  | _ => c

def step (K : Kube) (c : Cluster) : Action → Cluster
  | .report h => c.report h
  | .get served => c.get served
  | .updateStatus served => c.updateStatus served
  | .sync served around => c.sync K served around
  | .writeSpec served => c.writeSpec served
  | .lockGet pass => c.lockGet pass
  | .lockNode pass matched served => c.lockNode pass matched served
  | .lockCheck pass served => c.lockCheck pass served

def kubeNodes (st : StoragePoolStatus) : List ConditionStatus :=
  (st.conditions.filter fun item => item.type = .kubeNode).map PoolCondition.status

/-- An update of the agent removes no KubeNode condition and changes none. -/
def KeepsKubeNode (c : Cluster) : Action → Prop
  | .updateStatus served => ∀ sp ∈ c.object.value, ∃ new ∈ (c.updateStatus served).object.value,
      (kubeNodes sp.status).Sublist (kubeNodes new.status)
  | _ => True

def CopyKnows (c : Cluster) : Action → Prop
  | .get served => c.agent.isReported = true → served = true →
      ∀ sp ∈ c.object.value, (kubeNodes sp.status).Sublist (kubeNodes c.pool.status)
  | _ => True

instance (c : Cluster) : DecidablePred c.KeepsKubeNode
  | .updateStatus served => inferInstanceAs
      (Decidable (∀ sp ∈ c.object.value, ∃ new ∈ (c.updateStatus served).object.value, _))
  | .report _ | .get _ | .sync _ _ | .writeSpec _ | .lockGet _ | .lockNode _ _ _ | .lockCheck _ _ =>
    isTrue trivial

instance (c : Cluster) : DecidablePred c.CopyKnows
  | .get _ => inferInstanceAs (Decidable (_ → _ → ∀ sp ∈ c.object.value, _))
  | .report _ | .updateStatus _ | .sync _ _ | .writeSpec _ | .lockGet _ | .lockNode _ _ _
  | .lockCheck _ _ => isTrue trivial

/-- The status the agent is about to send has the KubeNode conditions of the
object it was compared with. -/
def Carries (object : Versioned (Option StoragePool)) : Agent → Prop
  | .updating copy status => Annotation.ReadFrom copy object ∧
      ∀ sp ∈ copy.value, (kubeNodes sp.status).Sublist (kubeNodes status)
  | _ => True

theorem Carries.put {object : Versioned (Option StoragePool)} {agent : Agent} (h : Carries object agent)
    (value : Option StoragePool) : Carries (object.put value) agent := by
  cases agent with
  | updating copy status => exact ⟨h.1.put value, h.2⟩
  | _ => trivial

theorem changedStatus_conditions {errVG : Option VgError} {real api status : StoragePoolStatus}
    (h : changedStatus errVG real api = some status) : status.conditions = real.conditions := by
  unfold changedStatus at h
  split at h
  · cases h
  · cases h
    rfl

def SendsFetched (c : Cluster) : Prop := Carries c.object c.agent

variable {K : Kube} {c : Cluster}

theorem SendsFetched.get (h : c.SendsFetched) {served : Bool} (hKnows : c.CopyKnows (.get served)) : (c.get served).SendsFetched := by
  unfold Cluster.get
  split
  · rename_i hAgent
    split
    · rename_i status hStatus
      obtain ⟨apiPool, _, hChanged⟩ := Option.bind_eq_some_iff.mp hStatus
      cases served with
      | false => trivial
      | true =>
        refine ⟨.refl _, ?_⟩
        intro sp hSp
        rw [kubeNodes, kubeNodes, changedStatus_conditions hChanged]
        exact hKnows (by rw [hAgent]; rfl) rfl sp hSp
    · trivial
  · exact h

theorem SendsFetched.step (h : c.SendsFetched) {a : Action} (hKnows : c.CopyKnows a) :
    (c.step K a).SendsFetched := by
  cases a with
  | report health =>
    rw [Cluster.step, Cluster.report]
    split
    · trivial
    · exact h
  | get served => exact h.get hKnows
  | updateStatus served =>
    rw [Cluster.step, Cluster.updateStatus]
    split
    · split <;> trivial
    · exact h
  | sync served around =>
    rw [Cluster.step, Cluster.sync]
    split
    · rename_i hIdle
      split
      · dsimp only [SendsFetched]
        split <;> trivial
      · exact h
    · exact h
  | writeSpec served =>
    rw [Cluster.step, Cluster.writeSpec]
    split
    · trivial
    · exact h
  | lockGet pass =>
    rw [Cluster.step, Cluster.lockGet]
    split
    · exact h
    · exact h
  | lockNode pass matched served =>
    rw [Cluster.step, Cluster.lockNode]
    split
    · split
      · exact h
      · split
        · exact h.put _
        · exact h
    · exact h
  | lockCheck pass served =>
    rw [Cluster.step, Cluster.lockCheck]
    split
    · split
      · exact h
      · split
        · exact h.put _
        · exact h
    · exact h

theorem SendsFetched.keeps (h : c.SendsFetched) (served : Bool) :
    c.KeepsKubeNode (.updateStatus served) := by
  intro sp hSp
  rw [updateStatus]
  split
  · rename_i copy status hAgent
    rw [SendsFetched, hAgent] at h
    split
    · rename_i hAccepted
      refine ⟨{ sp with status := status }, ?_, ?_⟩
      · rw [withStatus, Versioned.put_value, Option.mem_def.mp hSp]
        rfl
      · refine h.2 sp ?_
        rw [h.1.current hAccepted.2]
        exact hSp
    · exact ⟨sp, hSp, .refl _⟩
  · exact ⟨sp, hSp, .refl _⟩

/-- Along every interleaving of the agent's passes and any number of passes of
the lock plugin, the agent keeps the KubeNode conditions if its copy has them
each time it fetches the object to compare. -/
theorem agent_keepsKubeNode (K : Kube) (c : Cluster) (hIdle : c.agent = .idle) (actions : List Action)
    (hKnows : Runs.Guarded (step K) CopyKnows c actions) :
    Runs.Guarded (step K) KeepsKubeNode c actions := by
  have hInit : c.SendsFetched := by
    rw [SendsFetched, hIdle]
    trivial
  refine hKnows.imp hInit ?_ ?_
  · intro c a h hGuard
    exact h.step hGuard
  · intro c a h _
    cases a with
    | updateStatus served => exact h.keeps served
    | _ => trivial

def knownPool : Cluster :=
  { object := ⟨some FilterChain.readyPool, 0⟩, pool := FilterChain.readyPool }

def nodeOffline : List Action := [.lockGet 0, .lockNode 0 true true, .lockCheck 0 true]

def reportHealth : List Action :=
  [.report { spdk := true, sizes := .ok (100, 60) }, .get true, .updateStatus true]

def resync : List Action :=
  [.sync true { poolInfo := .ok {}, nodeInfo := .ok { id := "n" } }, .writeSpec true]

theorem syncedReport_keeps :
    Runs.Guarded (step Kube.exact) KeepsKubeNode knownPool (nodeOffline ++ resync ++ reportHealth) :=
  agent_keepsKubeNode Kube.exact knownPool rfl (nodeOffline ++ resync ++ reportHealth) (by decide +kernel)

theorem staleReport_removes :
    ¬ Runs.Guarded (step Kube.exact) KeepsKubeNode knownPool (nodeOffline ++ reportHealth) := by
  decide +kernel

end Cluster

end Liteio.PoolSyncer
