import Liteio.State.Ledger
import Liteio.Library.Runs

/-! # The controller state and its operations

The state object of pkg/controller/manager/state: the nodes by ID and the index
from volume UUIDs to node IDs. Each operation is the source's method with the
state passed explicitly; an operation that can fail returns the state it leaves
next to the error. An `Action` is one call made by a reconciler, an event
handler or the scheduler plugin, and a run is any sequence of them.
-/

namespace Liteio

inductive StateError where
  | notFoundNode (id : String)
  | emptyUuid (name : String)
  | duplicateVolume
  | notFoundVolumeIndex (volID : String)
  | notFoundIndexedNode (nodeID : String)
  | notFoundVolumeByID
  deriving DecidableEq

def StateError.error : StateError → String
  | .notFoundNode id => "NotFoundNode by id " ++ id
  | .emptyUuid name => "volume name=" ++ name ++ ", volume UUID cannot be empty"
  | .duplicateVolume => "DuplicatedVolume"
  | .notFoundVolumeIndex volID => "cannot find Node by volID " ++ volID
  | .notFoundIndexedNode nodeID => "not found node by id " ++ nodeID
  | .notFoundVolumeByID => "ErrNotFoundVolumeByID"

structure State where
  nodeMap : FiniteMap String Node := ∅
  volIDMap : FiniteMap String String := ∅
  deriving DecidableEq

namespace State

def newState : State := {}

def getAllNodes (s : State) : Multiset Node := FiniteMap.values s.nodeMap

def getNodeByNodeID (s : State) (nodeID : String) : Except StateError Node :=
  match s.nodeMap.lookup nodeID with
  | some node => .ok node
  | none => .error (.notFoundNode nodeID)

def setNode (s : State) (nodeID : String) (node : Node) : State :=
  { s with nodeMap := s.nodeMap.insert nodeID node }

/-- The pool as `SetStoragePool` stores it, with the volume group's size as
its storage capacity when the status has none. -/
def withCapacity (K : Kube) (pool : StoragePool) : StoragePool :=
  let totalVgBytes := pool.getVgTotalBytes K
  if 0 < totalVgBytes ∧ pool.status.capacity.lookup resourceDiskPoolByte = none then
    { pool with status := { pool.status with
        capacity := pool.status.capacity.insert resourceDiskPoolByte (totalVgBytes : ℚ) } }
  else pool

def setStoragePool (K : Kube) (s : State) (pool : StoragePool) : State :=
  let stored := withCapacity K pool
  match s.nodeMap.lookup pool.spec.nodeInfo.id with
  | some val => s.setNode pool.spec.nodeInfo.id (Node.refresh { val with pool := stored })
  | none => s.setNode pool.spec.nodeInfo.id (Node.newNode stored)

def removeStoragePool (s : State) (nodeID : String) : State :=
  { s with nodeMap := s.nodeMap.erase nodeID }

def bindAntstorVolume (s : State) (nodeID : String) (vol : AntstorVolume) : State × Option StateError :=
  match s.nodeMap.lookup nodeID with
  | none => (s, some (.notFoundNode nodeID))
  | some node =>
    if vol.spec.uuid = "" then (s, some (.emptyUuid vol.name))
    else
      match node.addVolume vol with
      | (node', true) => (s.setNode nodeID node', some .duplicateVolume)
      | (node', false) =>
        ({ s.setNode nodeID node' with volIDMap := s.volIDMap.insert vol.spec.uuid nodeID }, none)

def unbindAntstorVolume (s : State) (volID : String) : State × Option StateError :=
  match s.volIDMap.lookup volID with
  | none => (s, some (.notFoundVolumeIndex volID))
  | some nodeID =>
    match s.nodeMap.lookup nodeID with
    | none => (s, some (.notFoundIndexedNode nodeID))
    | some node =>
      ({ s.setNode nodeID (node.removeVolumeByID volID) with volIDMap := s.volIDMap.erase volID }, none)

def getVolumeByID (s : State) (volID : String) : Except StateError AntstorVolume :=
  match s.volIDMap.lookup volID with
  | none => .error (.notFoundVolumeIndex volID)
  | some nodeID =>
    match s.nodeMap.lookup nodeID with
    | none => .error (.notFoundIndexedNode nodeID)
    | some node =>
      match node.getVolumeByID volID with
      | some vol => .ok vol
      | none => .error .notFoundVolumeByID

def onNode (s : State) (nodeID : String) (f : Node → Node) : State :=
  match s.nodeMap.lookup nodeID with
  | some node => s.setNode nodeID (f node)
  | none => s

def handleDeletion (s : State) (name : String) : State :=
  match s.nodeMap.lookup name with
  | some node => if node.volumes = [] then s.removeStoragePool name else s
  | none => s.removeStoragePool name

inductive Action where
  | setStoragePool (pool : StoragePool)
  | bindAntstorVolume (nodeID : String) (vol : AntstorVolume)
  | unbindAntstorVolume (volID : String)
  | reserve (nodeID : String) (r : Reservation)
  | unreserve (nodeID : String) (id : String)
  | handleDeletion (name : String)

def step (K : Kube) (s : State) : Action → State
  | .setStoragePool pool => s.setStoragePool K pool
  | .bindAntstorVolume nodeID vol => (s.bindAntstorVolume nodeID vol).1
  | .unbindAntstorVolume volID => (s.unbindAntstorVolume volID).1
  | .reserve nodeID r => s.onNode nodeID (fun node => node.reserve r)
  | .unreserve nodeID id => s.onNode nodeID (fun node => node.unreserve id)
  | .handleDeletion name => s.handleDeletion name

def run (K : Kube) (actions : List Action) : State := Runs.run (step K) newState actions

/-- What one action does to the node map: it leaves the map, removes a node,
or replaces one node, fresh or present, by what a node method returns. -/
inductive NodeEffect (K : Kube) (s : State) : Action → State → Prop where
  | keep {a s'} (h : s'.nodeMap = s.nodeMap) : NodeEffect K s a s'
  | remove {name s'} (h : s'.nodeMap = s.nodeMap.erase name)
      (hEmpty : ∀ node, s.nodeMap.lookup name = some node → node.volumes = []) :
      NodeEffect K s (.handleDeletion name) s'
  | create {pool s'} (h : s.nodeMap.lookup pool.spec.nodeInfo.id = none)
      (hMap : s'.nodeMap = s.nodeMap.insert pool.spec.nodeInfo.id (Node.newNode (withCapacity K pool))) :
      NodeEffect K s (.setStoragePool pool) s'
  | replacePool {pool s' node} (h : s.nodeMap.lookup pool.spec.nodeInfo.id = some node)
      (hMap : s'.nodeMap = s.nodeMap.insert pool.spec.nodeInfo.id
        (Node.refresh { node with pool := withCapacity K pool })) :
      NodeEffect K s (.setStoragePool pool) s'
  | addVolume {nodeID vol s' node} (h : s.nodeMap.lookup nodeID = some node)
      (hUuid : vol.spec.uuid ≠ "")
      (hMap : s'.nodeMap = s.nodeMap.insert nodeID (node.addVolume vol).1) :
      NodeEffect K s (.bindAntstorVolume nodeID vol) s'
  | removeVolume {volID nodeID s' node} (hIndex : s.volIDMap.lookup volID = some nodeID)
      (h : s.nodeMap.lookup nodeID = some node)
      (hMap : s'.nodeMap = s.nodeMap.insert nodeID (node.removeVolumeByID volID)) :
      NodeEffect K s (.unbindAntstorVolume volID) s'
  | reserve {nodeID r s' node} (h : s.nodeMap.lookup nodeID = some node)
      (hMap : s'.nodeMap = s.nodeMap.insert nodeID (node.reserve r)) :
      NodeEffect K s (.reserve nodeID r) s'
  | unreserve {nodeID id s' node} (h : s.nodeMap.lookup nodeID = some node)
      (hMap : s'.nodeMap = s.nodeMap.insert nodeID (node.unreserve id)) :
      NodeEffect K s (.unreserve nodeID id) s'

@[simp] theorem withCapacity_spec (K : Kube) (pool : StoragePool) :
    (withCapacity K pool).spec = pool.spec := by
  unfold withCapacity
  dsimp only
  split <;> rfl

@[simp] theorem withCapacity_name (K : Kube) (pool : StoragePool) :
    (withCapacity K pool).name = pool.name := by
  unfold withCapacity
  dsimp only
  split <;> rfl

@[simp] theorem withCapacity_status (K : Kube) (pool : StoragePool) :
    (withCapacity K pool).status.status = pool.status.status := by
  unfold withCapacity
  dsimp only
  split <;> rfl

theorem bindAntstorVolume_eq {s : State} {nodeID : String} {vol : AntstorVolume} {node : Node}
    (h : s.nodeMap.lookup nodeID = some node) (hUuid : vol.spec.uuid ≠ "") :
    s.bindAntstorVolume nodeID vol =
      if (node.addVolume vol).2 then (s.setNode nodeID (node.addVolume vol).1, some .duplicateVolume)
      else ({ s.setNode nodeID (node.addVolume vol).1 with
        volIDMap := s.volIDMap.insert vol.spec.uuid nodeID }, none) := by
  rw [bindAntstorVolume, h]
  dsimp only
  rw [if_neg hUuid]
  rcases node.addVolume vol with ⟨node', failed⟩
  cases failed <;> rfl

theorem onNode_lookup (s : State) (nodeID id : String) (f : Node → Node) :
    (s.onNode nodeID f).nodeMap.lookup id =
      if id = nodeID then (s.nodeMap.lookup nodeID).map f else s.nodeMap.lookup id := by
  unfold onNode
  cases h : s.nodeMap.lookup nodeID with
  | none => exact FiniteMap.lookup_eq_ite h id
  | some node => exact FiniteMap.lookup_insert_eq s.nodeMap nodeID id (f node)

theorem bindAntstorVolume_lookup (s : State) (nodeID id : String) (vol : AntstorVolume) :
    (s.bindAntstorVolume nodeID vol).1.nodeMap.lookup id =
      if id = nodeID then (s.nodeMap.lookup nodeID).map fun node =>
        if vol.spec.uuid = "" then node else (node.addVolume vol).1
      else s.nodeMap.lookup id := by
  cases h : s.nodeMap.lookup nodeID with
  | none =>
    rw [bindAntstorVolume, h]
    exact FiniteMap.lookup_eq_ite h id
  | some node =>
    by_cases hUuid : vol.spec.uuid = ""
    · rw [Option.map_some, if_pos hUuid, bindAntstorVolume, h]
      dsimp only
      rw [if_pos hUuid]
      exact FiniteMap.lookup_eq_ite h id
    · rw [Option.map_some, if_neg hUuid, bindAntstorVolume_eq h hUuid]
      by_cases hFailed : (node.addVolume vol).2 = true
      · rw [if_pos hFailed]
        exact FiniteMap.lookup_insert_eq s.nodeMap nodeID id _
      · rw [if_neg hFailed]
        exact FiniteMap.lookup_insert_eq s.nodeMap nodeID id _

theorem setStoragePool_lookup (K : Kube) (s : State) (pool : StoragePool) (id : String) :
    (s.setStoragePool K pool).nodeMap.lookup id =
      if id = pool.spec.nodeInfo.id then some
        (match s.nodeMap.lookup pool.spec.nodeInfo.id with
          | some val => Node.refresh { val with pool := withCapacity K pool }
          | none => Node.newNode (withCapacity K pool))
      else s.nodeMap.lookup id := by
  unfold setStoragePool
  cases h : s.nodeMap.lookup pool.spec.nodeInfo.id with
  | none => exact FiniteMap.lookup_insert_eq s.nodeMap _ id _
  | some val => exact FiniteMap.lookup_insert_eq s.nodeMap _ id _

theorem unbindAntstorVolume_eq {s : State} {volID nodeID : String} {node : Node}
    (hIndex : s.volIDMap.lookup volID = some nodeID) (h : s.nodeMap.lookup nodeID = some node) :
    s.unbindAntstorVolume volID = ({ s.setNode nodeID (node.removeVolumeByID volID) with
      volIDMap := s.volIDMap.erase volID }, none) := by
  rw [unbindAntstorVolume, hIndex]
  dsimp only
  rw [h]

theorem step_nodeEffect (K : Kube) (s : State) (a : Action) : NodeEffect K s a (s.step K a) := by
  cases a with
  | setStoragePool pool =>
    cases h : s.nodeMap.lookup pool.spec.nodeInfo.id with
    | none =>
      refine .create h ?_
      simp only [step, setStoragePool, h, setNode]
    | some node =>
      refine .replacePool h ?_
      simp only [step, setStoragePool, h, setNode]
  | bindAntstorVolume nodeID vol =>
    cases h : s.nodeMap.lookup nodeID with
    | none => exact .keep (by simp [step, bindAntstorVolume, h])
    | some node =>
      by_cases hUuid : vol.spec.uuid = ""
      · exact .keep (by simp [step, bindAntstorVolume, h, hUuid])
      · refine .addVolume h hUuid ?_
        rw [step, bindAntstorVolume_eq h hUuid]
        split <;> rfl
  | unbindAntstorVolume volID =>
    cases hIndex : s.volIDMap.lookup volID with
    | none => exact .keep (by simp [step, unbindAntstorVolume, hIndex])
    | some nodeID =>
      cases h : s.nodeMap.lookup nodeID with
      | none => exact .keep (by simp [step, unbindAntstorVolume, hIndex, h])
      | some node =>
        refine .removeVolume hIndex h ?_
        rw [step, unbindAntstorVolume_eq hIndex h]
        rfl
  | reserve nodeID r =>
    cases h : s.nodeMap.lookup nodeID with
    | none => exact .keep (by simp [step, onNode, h])
    | some node => exact .reserve h (by simp [step, onNode, h, setNode])
  | unreserve nodeID id =>
    cases h : s.nodeMap.lookup nodeID with
    | none => exact .keep (by simp [step, onNode, h])
    | some node => exact .unreserve h (by simp [step, onNode, h, setNode])
  | handleDeletion name =>
    cases h : s.nodeMap.lookup name with
    | none =>
      refine .remove (by simp [step, handleDeletion, h, removeStoragePool]) ?_
      intro node hNode
      rw [h] at hNode
      cases hNode
    | some node =>
      by_cases hEmpty : node.volumes = []
      · refine .remove (by simp [step, handleDeletion, h, hEmpty, removeStoragePool]) ?_
        intro other hOther
        rw [h] at hOther
        cases hOther
        exact hEmpty
      · exact .keep (by simp [step, handleDeletion, h, hEmpty])

def AllNodes (property : Node → Prop) (s : State) : Prop :=
  ∀ id node, s.nodeMap.lookup id = some node → property node

theorem allNodes_iff {property : Node → Prop} {s : State} :
    s.AllNodes property ↔ ∀ node ∈ s.getAllNodes, property node := by
  constructor
  · intro h node hNode
    obtain ⟨id, hId⟩ := FiniteMap.mem_values.mp hNode
    exact h id node hId
  · intro h id node hNode
    exact h node (FiniteMap.mem_values.mpr ⟨id, hNode⟩)

instance (property : Node → Prop) [DecidablePred property] (s : State) :
    Decidable (s.AllNodes property) :=
  decidable_of_iff _ allNodes_iff.symm

theorem allNodes_insert {property : Node → Prop} {s s' : State} {id : String} {node : Node}
    (hAll : s.AllNodes property) (hMap : s'.nodeMap = s.nodeMap.insert id node) (h : property node) :
    s'.AllNodes property := by
  intro other found hFound
  rw [hMap, FiniteMap.lookup_insert_eq] at hFound
  split at hFound
  · cases hFound
    exact h
  · exact hAll other found hFound

theorem allNodes_step {K : Kube} {property : Node → Prop} {s : State} {a : Action}
    (hAll : s.AllNodes property) (hNew : ∀ pool, property (Node.newNode pool))
    (hPool : ∀ node pool, property node → property (Node.refresh { node with pool := pool }))
    (hAdd : ∀ nodeID vol node, a = .bindAntstorVolume nodeID vol →
      s.nodeMap.lookup nodeID = some node → vol.spec.uuid ≠ "" → property node →
      property (node.addVolume vol).1)
    (hRemove : ∀ node volID, property node → property (node.removeVolumeByID volID))
    (hReserve : ∀ nodeID r node, a = .reserve nodeID r →
      s.nodeMap.lookup nodeID = some node → property node → property (node.reserve r))
    (hUnreserve : ∀ node id, property node → property (node.unreserve id)) :
    (s.step K a).AllNodes property := by
  cases step_nodeEffect K s a with
  | keep h =>
    intro id node hNode
    rw [h] at hNode
    exact hAll id node hNode
  | remove h _ =>
    intro id node hNode
    rw [h, FiniteMap.lookup_erase_eq] at hNode
    split at hNode
    · cases hNode
    · exact hAll id node hNode
  | create _ hMap => exact allNodes_insert hAll hMap (hNew _)
  | replacePool h hMap => exact allNodes_insert hAll hMap (hPool _ _ (hAll _ _ h))
  | addVolume h hUuid hMap => exact allNodes_insert hAll hMap (hAdd _ _ _ rfl h hUuid (hAll _ _ h))
  | removeVolume _ h hMap => exact allNodes_insert hAll hMap (hRemove _ _ (hAll _ _ h))
  | reserve h hMap => exact allNodes_insert hAll hMap (hReserve _ _ _ rfl h (hAll _ _ h))
  | unreserve h hMap => exact allNodes_insert hAll hMap (hUnreserve _ _ (hAll _ _ h))

def Keyed (s : State) : Prop := ∀ id node, s.nodeMap.lookup id = some node → node.info.id = id

theorem keyed_insert {s s' : State} {id : String} {node : Node} (h : s.Keyed)
    (hMap : s'.nodeMap = s.nodeMap.insert id node) (hId : node.info.id = id) : s'.Keyed := by
  intro other found hFound
  rw [hMap, FiniteMap.lookup_insert_eq] at hFound
  split at hFound
  · rename_i hOther
    cases hFound
    rw [hOther, hId]
  · exact h other found hFound

theorem keyed_step (K : Kube) (s : State) (a : Action) (h : s.Keyed) : (s.step K a).Keyed := by
  cases step_nodeEffect K s a with
  | keep hMap =>
    intro id node hNode
    rw [hMap] at hNode
    exact h id node hNode
  | remove hMap _ =>
    intro id node hNode
    rw [hMap, FiniteMap.lookup_erase_eq] at hNode
    split at hNode
    · cases hNode
    · exact h id node hNode
  | create _ hMap =>
    apply keyed_insert h hMap
    rw [Node.info, Node.newNode, Node.refresh_pool, withCapacity_spec]
  | replacePool _ hMap =>
    apply keyed_insert h hMap
    rw [Node.info, Node.refresh_pool, withCapacity_spec]
  | addVolume hNode _ hMap =>
    apply keyed_insert h hMap
    rw [Node.info, Node.addVolume_pool]
    exact h _ _ hNode
  | removeVolume _ hNode hMap =>
    apply keyed_insert h hMap
    rw [Node.info, Node.removeVolumeByID_pool]
    exact h _ _ hNode
  | reserve hNode hMap =>
    apply keyed_insert h hMap
    rw [Node.info, Node.reserve_pool]
    exact h _ _ hNode
  | unreserve hNode hMap =>
    apply keyed_insert h hMap
    rw [Node.info, Node.unreserve_pool]
    exact h _ _ hNode

theorem keyed_run (K : Kube) (actions : List Action) : (run K actions).Keyed := by
  apply Runs.run_induction
  · intro id node hNode
    simp [newState] at hNode
  · intro s a h
    exact keyed_step K s a h

theorem allNodes_newState (property : Node → Prop) : newState.AllNodes property := by
  intro id node hNode
  simp [newState] at hNode

theorem namesDistinct_step (K : Kube) (s : State) (a : Action) (h : s.AllNodes Node.NamesDistinct) :
    (s.step K a).AllNodes Node.NamesDistinct := by
  apply allNodes_step h
  · intro pool
    exact List.nodup_nil
  · intro node pool hNode
    exact hNode
  · intro _ vol node _ _ _ hNode
    exact Node.namesDistinct_addVolume vol hNode
  · intro node volID hNode
    exact Node.namesDistinct_removeVolumeByID volID hNode
  · intro _ r node _ _ hNode
    rw [Node.NamesDistinct, Node.reserve_volumes]
    exact hNode
  · intro node id hNode
    exact hNode

end State

end Liteio
