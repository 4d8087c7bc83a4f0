import Liteio.Scheduler.Interleaving

/-! # The deletion of a pool against the binding of volumes

The pool reconciler's `handleDeletion` looks for volumes left on the node,
removes the node from the state and clears the finalizers of the object, in
three steps. The passes of the volume reconciler schedule and bind in steps of
their own, and nothing keeps them off a node whose pool has been found empty.
The node is still empty when it is removed as long as no volume is bound to it
after the check.
-/

namespace Liteio.PoolReconciler

def volumesLeftOnNode : String := "Volumes left on node"

def volumesLeft (node : Node) : String :=
  "Volumes left on node: " ++ ", ".intercalate (node.volumes.map fun item => item.ns ++ "/" ++ item.name)

/-- An error ends the pass, with the write of the pool's status if there is one. -/
def checkVolumes (s : State) (name : String) (sp : StoragePool) : Except (Option StoragePool) Unit :=
  match s.getNodeByNodeID name with
  | .error _ => .ok ()
  | .ok node =>
    if node.volumes = [] then .ok ()
    else if volumesLeftOnNode.toList <+: sp.status.message.toList then .error none
    else .error (some { sp with status := { sp.status with message := volumesLeft node } })

inductive Deletion where
  | idle
  | checked (sp : StoragePool)
  | removed (sp : StoragePool)

def Deletion.isChecked : Deletion → Bool
  | .checked _ => true
  | _ => false

/-- The controller: its state, the pools at the API server, the volume each
volume pass has scheduled and not yet bound, and the passes over pools. -/
structure Controller where
  state : State
  pools : FiniteMap String StoragePool := ∅
  pending : ℕ → Option (String × AntstorVolume) := fun _ => none
  deletion : String → Deletion := fun _ => .idle

namespace Controller

/-- The answer of the API server to a write is part of the step that makes it. -/
inductive Action where
  | checkVolumes (name : String) (served : Bool)
  | removeStoragePool (name : String)
  | clearFinalizers (name : String) (served : Bool)
  | schedule (pass : ℕ) (order : List String) (vol : AntstorVolume)
  | bind (pass : ℕ)
  | bindTarget (vol : AntstorVolume)

/-- Only a pool that is being deleted comes to `handleDeletion`. -/
def checkVolumes (c : Controller) (name : String) (served : Bool) : Controller :=
  match c.deletion name, c.pools.lookup name with
  | .idle, some sp =>
    if sp.deletionTimestamp.isSome then
      match PoolReconciler.checkVolumes c.state name sp with
      | .ok () => { c with deletion := Function.update c.deletion name (.checked sp) }
      | .error (some new) => if served then { c with pools := c.pools.insert name new } else c
      | .error none => c
    else c
  | _, _ => c

def removeStoragePool (c : Controller) (name : String) : Controller :=
  match c.deletion name with
  | .checked sp =>
    { c with
      state := c.state.removeStoragePool name
      deletion := Function.update c.deletion name (.removed sp) }
  | _ => c

/-- Without finalizers the object goes. -/
def clearFinalizers (c : Controller) (name : String) (served : Bool) : Controller :=
  match c.deletion name with
  | .removed sp =>
    { c with
      pools := if sp.finalizers ≠ [] ∧ served then c.pools.erase name else c.pools
      deletion := Function.update c.deletion name .idle }
  | _ => c

def bindTo (c : Controller) (nodeID : String) (vol : AntstorVolume) : Controller :=
  { c with state := (c.state.bindAntstorVolume nodeID vol).1 }

section

variable (K : Kube) (sorter : Sorter Priority.better) (cfg : SchedulerConfig)

def schedule (c : Controller) (pass : ℕ) (order : List String) (vol : AntstorVolume) : Controller :=
  let scheduled := System.schedule K sorter cfg { state := c.state } order vol
  { c with state := scheduled.state, pending := Function.update c.pending pass scheduled.pending }

def step (c : Controller) : Action → Controller
  | .checkVolumes name served => c.checkVolumes name served
  | .removeStoragePool name => c.removeStoragePool name
  | .clearFinalizers name served => c.clearFinalizers name served
  | .schedule pass order vol =>
    if (c.pending pass).isSome then c else c.schedule K sorter cfg pass order vol
  | .bind pass =>
    match c.pending pass with
    | some (nodeID, vol) => { c.bindTo nodeID vol with pending := Function.update c.pending pass none }
    | none => c
  | .bindTarget vol => if vol.spec.targetNodeId = "" then c else c.bindTo vol.spec.targetNodeId vol

end

def RemovesEmpty (c : Controller) : Action → Prop
  | .removeStoragePool name => (c.deletion name).isChecked = true →
      ∀ node ∈ c.state.nodeMap.lookup name, node.volumes = []
  | _ => True

def Takes (c : Controller) (nodeID : String) (vol : AntstorVolume) : Prop :=
  (c.state.nodeMap.lookup nodeID).isSome = true ∧ vol.spec.uuid ≠ ""

def BindsOutside (c : Controller) : Action → Prop
  | .bind pass => ∀ inFlight ∈ c.pending pass, c.Takes inFlight.1 inFlight.2 →
      (c.deletion inFlight.1).isChecked = false
  | .bindTarget vol => c.Takes vol.spec.targetNodeId vol →
      (c.deletion vol.spec.targetNodeId).isChecked = false
  | _ => True

instance (c : Controller) : DecidablePred c.RemovesEmpty
  | .removeStoragePool name => inferInstanceAs (Decidable (_ → ∀ node ∈ c.state.nodeMap.lookup name, _))
  | .checkVolumes _ _ | .clearFinalizers _ _ | .schedule _ _ _ | .bind _ | .bindTarget _ => isTrue trivial

instance (c : Controller) (nodeID : String) (vol : AntstorVolume) : Decidable (c.Takes nodeID vol) :=
  inferInstanceAs (Decidable (_ ∧ _))

instance (c : Controller) : DecidablePred c.BindsOutside
  | .bind pass => inferInstanceAs (Decidable (∀ inFlight ∈ c.pending pass, _ → _))
  | .bindTarget _ => inferInstanceAs (Decidable (_ → _))
  | .checkVolumes _ _ | .removeStoragePool _ | .clearFinalizers _ _ | .schedule _ _ _ => isTrue trivial

/-- A pool found empty stays so until its node is removed. -/
def StaysEmpty (c : Controller) : Prop :=
  ∀ name, (c.deletion name).isChecked = true →
    ∀ node ∈ c.state.nodeMap.lookup name, node.volumes = []

theorem checkVolumes_ok {s : State} {name : String} {sp : StoragePool}
    (h : PoolReconciler.checkVolumes s name sp = .ok ()) :
    ∀ node ∈ s.nodeMap.lookup name, node.volumes = [] := by
  intro node hNode
  rw [PoolReconciler.checkVolumes, State.getNodeByNodeID, Option.mem_def.mp hNode] at h
  dsimp only at h
  split at h
  · assumption
  · split at h <;> cases h

section

variable {K : Kube} {sorter : Sorter Priority.better} {cfg : SchedulerConfig} {c : Controller}

theorem StaysEmpty.of_volumes (h : c.StaysEmpty) {c' : Controller}
    (hVolumes : ∀ name, (c'.deletion name).isChecked = true → (c.deletion name).isChecked = true ∧
      ∀ node ∈ c'.state.nodeMap.lookup name,
        ∃ old ∈ c.state.nodeMap.lookup name, node.volumes = old.volumes) : c'.StaysEmpty := by
  intro name hChecked node hNode
  obtain ⟨hBefore, hNodes⟩ := hVolumes name hChecked
  obtain ⟨old, hOld, hSame⟩ := hNodes node hNode
  rw [hSame]
  exact h name hBefore old hOld

theorem isChecked_update {deletion : String → Deletion} {name other : String} {pass : Deletion}
    (hPass : pass.isChecked = false) (h : (Function.update deletion name pass other).isChecked = true) :
    other ≠ name ∧ (deletion other).isChecked = true := by
  by_cases hName : other = name
  · rw [hName, Function.update_self, hPass] at h
    cases h
  · rw [Function.update_of_ne hName] at h
    exact ⟨hName, h⟩

theorem StaysEmpty.checkVolumes (h : c.StaysEmpty) (name : String) (served : Bool) :
    (c.checkVolumes name served).StaysEmpty := by
  unfold Controller.checkVolumes
  split
  · rename_i sp _ _
    split
    · split
      · rename_i hEmpty
        intro other hChecked
        by_cases hName : other = name
        · rw [hName]
          exact checkVolumes_ok hEmpty
        · refine h other ?_
          rw [← hChecked]
          exact congrArg Deletion.isChecked (Function.update_of_ne hName _ _).symm
      · split
        · exact h
        · exact h
      · exact h
    · exact h
  · exact h

theorem StaysEmpty.removeStoragePool (h : c.StaysEmpty) (name : String) :
    (c.removeStoragePool name).StaysEmpty := by
  unfold Controller.removeStoragePool
  split
  · refine h.of_volumes ?_
    intro other hChecked
    obtain ⟨_, hBefore⟩ := isChecked_update rfl hChecked
    refine ⟨hBefore, ?_⟩
    intro node hNode
    exact ⟨node, FiniteMap.lookup_of_erase hNode, rfl⟩
  · exact h

theorem StaysEmpty.clearFinalizers (h : c.StaysEmpty) (name : String) (served : Bool) :
    (c.clearFinalizers name served).StaysEmpty := by
  unfold Controller.clearFinalizers
  split
  · refine h.of_volumes ?_
    intro other hChecked
    exact ⟨(isChecked_update rfl hChecked).2, fun node hNode => ⟨node, hNode, rfl⟩⟩
  · exact h

theorem StaysEmpty.schedule (h : c.StaysEmpty) (pass : ℕ) (order : List String) (vol : AntstorVolume) :
    (c.schedule K sorter cfg pass order vol).StaysEmpty := by
  refine h.of_volumes ?_
  intro name hChecked
  refine ⟨hChecked, ?_⟩
  intro node hNode
  have hVolumes := @System.schedule_map K sorter cfg _ Node.volumes Node.settle_volumes
    { state := c.state } order vol name
  rw [show (System.schedule K sorter cfg { state := c.state } order vol).state.nodeMap.lookup name =
    some node from hNode] at hVolumes
  obtain ⟨old, hOld, hSame⟩ := Option.map_eq_some_iff.mp hVolumes.symm
  exact ⟨old, hOld, hSame.symm⟩

theorem StaysEmpty.bindTo (h : c.StaysEmpty) {nodeID : String} {vol : AntstorVolume}
    (hOutside : c.Takes nodeID vol → (c.deletion nodeID).isChecked = false) :
    (c.bindTo nodeID vol).StaysEmpty := by
  refine h.of_volumes ?_
  intro name hChecked
  refine ⟨hChecked, ?_⟩
  intro node hNode
  change (c.state.bindAntstorVolume nodeID vol).1.nodeMap.lookup name = some node at hNode
  rw [State.bindAntstorVolume_lookup] at hNode
  split at hNode
  · rename_i hName
    obtain ⟨old, hOld, rfl⟩ := Option.map_eq_some_iff.mp hNode
    refine ⟨old, hName ▸ hOld, ?_⟩
    split
    · rfl
    · rename_i hUuid
      have hFree := hOutside ⟨by rw [hOld]; rfl, hUuid⟩
      rw [← hName, show (c.deletion name).isChecked = true from hChecked] at hFree
      cases hFree
  · exact ⟨node, hNode, rfl⟩

theorem StaysEmpty.step (h : c.StaysEmpty) {a : Action} (hOutside : c.BindsOutside a) :
    (c.step K sorter cfg a).StaysEmpty := by
  cases a with
  | checkVolumes name served => exact h.checkVolumes name served
  | removeStoragePool name => exact h.removeStoragePool name
  | clearFinalizers name served => exact h.clearFinalizers name served
  | schedule pass order vol =>
    rw [Controller.step]
    split
    · exact h
    · exact h.schedule pass order vol
  | bind pass =>
    rw [Controller.step]
    split
    · rename_i nodeID vol hPending
      exact h.bindTo (hOutside (nodeID, vol) hPending)
    · exact h
  | bindTarget vol =>
    rw [Controller.step]
    split
    · exact h
    · exact h.bindTo hOutside

end

/-- Along every interleaving in which no volume is bound to a node between the
check of its pool and its removal, every node is removed empty. -/
theorem removal_empty (K : Kube) (sorter : Sorter Priority.better) (cfg : SchedulerConfig)
    (c : Controller) (hIdle : ∀ name, c.deletion name = .idle) (actions : List Action)
    (hOutside : Runs.Guarded (step K sorter cfg) BindsOutside c actions) :
    Runs.Guarded (step K sorter cfg) RemovesEmpty c actions := by
  have hEmpty : c.StaysEmpty := by
    intro name hChecked
    rw [hIdle name] at hChecked
    cases hChecked
  refine hOutside.imp hEmpty ?_ ?_
  · intro c a hEmpty hGuard
    exact hEmpty.step hGuard
  · intro c a hEmpty _
    cases a with
    | removeStoragePool name => exact hEmpty name
    | _ => trivial

def deleting : Controller :=
  { state := State.run Kube.exact [.setStoragePool FilterChain.readyPool]
    pools := Finmap.singleton "n"
      { FilterChain.readyPool with deletionTimestamp := some 1, finalizers := ["f"] } }

def scheduled : Action := .schedule 0 ["n"] (FilterChain.localVolume none)

theorem boundAfterRemoval_empty :
    Runs.Guarded (step Kube.exact Priority.insertion { filters := ["Basic"] }) RemovesEmpty deleting
      [scheduled, .checkVolumes "n" true, .removeStoragePool "n", .bind 0, .clearFinalizers "n" true] :=
  removal_empty Kube.exact Priority.insertion { filters := ["Basic"] } deleting (fun _ => rfl)
    [scheduled, .checkVolumes "n" true, .removeStoragePool "n", .bind 0, .clearFinalizers "n" true]
    (by decide +kernel)

theorem boundAfterCheck_removed :
    ¬ Runs.Guarded (step Kube.exact Priority.insertion { filters := ["Basic"] }) RemovesEmpty deleting
      [scheduled, .checkVolumes "n" true, .bind 0, .removeStoragePool "n"] := by
  decide +kernel

end Controller

end Liteio.PoolReconciler
