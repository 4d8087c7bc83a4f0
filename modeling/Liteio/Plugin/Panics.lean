import Liteio.Plugin.Held

/-! # Calls that follow a nil reservation

`NewPvcReservation` gives nil for a claim that is being deleted. Here a
reservation is a reference that may be nil, in the argument of `Node.Reserve` and
in the list the cycle data keep for Unreserve, and a call that asks a nil
reservation for its ID ends in `none`. A run mixes the claim events with Reserve
and Unreserve of one pod. The list never comes to hold nil, so only an added
claim and Reserve can fail, and they do so exactly on claims being deleted.
-/

namespace Liteio.Plugin

open Handler

variable (K : Kube) (classes : StorageClassLookup) (data : CycleData)

def reserveRef (node : Node) (resv : Option Reservation) : Option Node := resv.map node.reserve

def unreserveRef (node : Node) (item : Option Reservation) : Option Node :=
  item.map fun item => node.unreserve item.id

structure Controller where
  state : State
  reservations : List (Option Reservation) := []

inductive PvcCall where
  | onAdd (pvc : PersistentVolumeClaim)
  | onUpdate (old new : PersistentVolumeClaim)
  | onDelete (obj : DeletedObject)
  | reserve (nodeName : String)
  | unreserve (nodeName : String)

namespace Controller

def onAdd (c : Controller) (pvc : PersistentVolumeClaim) : Option Controller :=
  match isAntstorMustLocalPVCBound classes pvc with
  | (_, false) => some c
  | (nodeName, true) =>
    match (ensureNode K c.state nodeName).nodeMap.lookup nodeName with
    | none => some { c with state := ensureNode K c.state nodeName }
    | some node =>
      (reserveRef node (newPvcReservation K pvc)).map fun node =>
        { c with state := (ensureNode K c.state nodeName).setNode nodeName node }

def reserveLoop (node : Node) (reservations : List (Option Reservation)) :
    List PersistentVolumeClaim → Option (Node × List (Option Reservation))
  | [] => some (node, reservations)
  | pvc :: pvcs =>
    (reserveRef node (newPvcReservation K pvc)).bind fun node =>
      reserveLoop node (reservations ++ [newPvcReservation K pvc]) pvcs

def reserve (c : Controller) (nodeName : String) : Option Controller :=
  if data.skipAntstorPlugin then some c
  else
    match c.state.nodeMap.lookup nodeName with
    | none => some c
    | some node =>
      (reserveLoop K node c.reservations data.mustLocalAntstorPVCs).map fun out =>
        { state := c.state.setNode nodeName out.1, reservations := out.2 }

def unreserve (c : Controller) (nodeName : String) : Option Controller :=
  if data.skipAntstorPlugin then some c
  else
    match c.state.nodeMap.lookup nodeName with
    | none => some c
    | some node =>
      (c.reservations.foldlM unreserveRef node).map fun node =>
        { c with state := c.state.setNode nodeName node }

def call (c : Controller) : PvcCall → Option Controller
  | .onAdd pvc => c.onAdd K classes pvc
  | .onUpdate old new => some { c with state := onUpdate c.state old new }
  | .onDelete obj => some { c with state := onDelete classes c.state obj }
  | .reserve nodeName => c.reserve K data nodeName
  | .unreserve nodeName => c.unreserve data nodeName

def step (c : Controller) (a : PvcCall) : Controller := (c.call K classes data a).getD c

/-- A local claim that is being deleted is not added for its selected node and
not reserved on a known one. -/
def NoDeletedClaim (c : Controller) : PvcCall → Prop
  | .onAdd pvc => pvc.deletionTimestamp.isSome → pvcSite classes pvc = none
  | .reserve nodeName => data.skipAntstorPlugin = false → (c.state.nodeMap.lookup nodeName).isSome →
      ∀ pvc ∈ data.mustLocalAntstorPVCs, pvc.deletionTimestamp = none
  | _ => True

def NilFree (c : Controller) : Prop := ∃ resvs : List Reservation, c.reservations = resvs.map some

theorem reserveRef_isSome_iff (node : Node) (pvc : PersistentVolumeClaim) :
    (reserveRef node (newPvcReservation K pvc)).isSome ↔ pvc.deletionTimestamp = none := by
  rw [reserveRef, newPvcReservation]
  cases pvc.deletionTimestamp <;> simp

theorem onAdd_isSome_iff (c : Controller) (pvc : PersistentVolumeClaim) :
    (c.onAdd K classes pvc).isSome ↔ (pvc.deletionTimestamp.isSome → pvcSite classes pvc = none) := by
  unfold onAdd pvcSite
  rcases isAntstorMustLocalPVCBound classes pvc with ⟨nodeName, bound⟩
  cases bound with
  | false => simp
  | true =>
    dsimp only
    rw [ensureNode_lookup, if_pos rfl]
    simp [reserveRef_isSome_iff]

theorem reserveLoop_isSome_iff (node : Node) (reservations : List (Option Reservation))
    (pvcs : List PersistentVolumeClaim) :
    (reserveLoop K node reservations pvcs).isSome ↔ ∀ pvc ∈ pvcs, pvc.deletionTimestamp = none := by
  induction pvcs generalizing node reservations with
  | nil => simp [reserveLoop]
  | cons pvc rest ih =>
    rw [reserveLoop, List.forall_mem_cons, ← reserveRef_isSome_iff K node pvc]
    cases reserveRef node (newPvcReservation K pvc) with
    | none => simp
    | some next => simp [ih]

theorem reserve_isSome_iff (c : Controller) (nodeName : String) :
    (c.reserve K data nodeName).isSome ↔ c.NoDeletedClaim classes data (.reserve nodeName) := by
  unfold reserve NoDeletedClaim
  cases data.skipAntstorPlugin with
  | true => simp
  | false =>
    cases hNode : c.state.nodeMap.lookup nodeName with
    | none => simp [hNode]
    | some node => simp [hNode, reserveLoop_isSome_iff]

theorem foldlM_unreserveRef (node : Node) (resvs : List Reservation) :
    (resvs.map some).foldlM unreserveRef node =
      some (resvs.foldl (fun node item => node.unreserve item.id) node) := by
  induction resvs generalizing node with
  | nil => rfl
  | cons first rest ih => exact ih (node.unreserve first.id)

theorem reserveLoop_eq (node : Node) (resvs : List Reservation) (pvcs : List PersistentVolumeClaim) :
    reserveLoop K node (resvs.map some) pvcs = (pvcs.mapM (newPvcReservation K)).map fun added =>
      (added.foldl Node.reserve node, (resvs ++ added).map some) := by
  induction pvcs generalizing node resvs with
  | nil => simp [reserveLoop]
  | cons pvc rest ih =>
    rw [reserveLoop, List.mapM_cons]
    cases newPvcReservation K pvc with
    | none => rfl
    | some resv =>
      have hAppend : resvs.map some ++ [some resv] = (resvs ++ [resv]).map some := by simp
      rw [reserveRef, Option.map_some, Option.bind_some, hAppend, ih]
      cases rest.mapM (newPvcReservation K) <;> simp

theorem onAdd_state (c : Controller) (pvc : PersistentVolumeClaim) :
    (c.onAdd K classes pvc).map Controller.state = Handler.onAdd K classes c.state pvc := by
  unfold onAdd Handler.onAdd
  rcases isAntstorMustLocalPVCBound classes pvc with ⟨nodeName, bound⟩
  cases bound with
  | false => rfl
  | true =>
    have hLookup : (ensureNode K c.state nodeName).nodeMap.lookup nodeName = some (nodeAt c.state nodeName) := by
      rw [ensureNode_lookup, if_pos rfl]
    simp only [hLookup, reserveRef, State.onNode, Option.map_map]
    rfl

theorem onAdd_reservations {c c' : Controller} {pvc : PersistentVolumeClaim}
    (h : c.onAdd K classes pvc = some c') : c'.reservations = c.reservations := by
  unfold onAdd at h
  split at h
  · cases h
    rfl
  · split at h
    · cases h
      rfl
    · obtain ⟨node, _, rfl⟩ := Option.map_eq_some_iff.mp h
      rfl

theorem reserve_eq (c : Controller) (nodeName : String) (hData : c.reservations = data.reservations.map some) :
    c.reserve K data nodeName = (Plugin.reserve K c.state data nodeName).map fun out =>
      { state := out.1, reservations := out.2.1.reservations.map some } := by
  rcases c with ⟨s, reservations⟩
  cases hData
  unfold reserve Plugin.reserve
  split
  · rfl
  · cases hNode : s.nodeMap.lookup nodeName with
    | none => rfl
    | some node => simp [reserveLoop_eq, State.onNode, hNode, Function.comp_def]

theorem unreserve_eq (c : Controller) (nodeName : String)
    (hData : c.reservations = data.reservations.map some) :
    c.unreserve data nodeName = some { c with state := Plugin.unreserve c.state data nodeName } := by
  unfold unreserve Plugin.unreserve
  split
  · rfl
  · cases hNode : c.state.nodeMap.lookup nodeName with
    | none => simp [State.onNode, hNode]
    | some node => simp [hData, foldlM_unreserveRef, State.onNode, hNode]

theorem unreserve_isSome {c : Controller} (hFree : c.NilFree) (nodeName : String) :
    (c.unreserve data nodeName).isSome := by
  obtain ⟨resvs, hResvs⟩ := hFree
  have hEq := unreserve_eq { data with reservations := resvs } c nodeName hResvs
  exact Option.isSome_of_eq_some hEq

theorem call_isSome_iff {c : Controller} (hFree : c.NilFree) (a : PvcCall) :
    (c.call K classes data a).isSome ↔ c.NoDeletedClaim classes data a := by
  cases a with
  | onAdd pvc => exact onAdd_isSome_iff K classes c pvc
  | onUpdate old new => exact iff_of_true rfl trivial
  | onDelete obj => exact iff_of_true rfl trivial
  | reserve nodeName => exact reserve_isSome_iff K classes data c nodeName
  | unreserve nodeName => exact iff_of_true (unreserve_isSome data hFree nodeName) trivial

theorem nilFree_call {c c' : Controller} {a : PvcCall} (hFree : c.NilFree)
    (h : c.call K classes data a = some c') : c'.NilFree := by
  obtain ⟨resvs, hResvs⟩ := hFree
  cases a with
  | onAdd pvc =>
    refine ⟨resvs, ?_⟩
    rw [← hResvs]
    exact onAdd_reservations K classes h
  | onUpdate old new =>
    cases h
    exact ⟨resvs, hResvs⟩
  | onDelete obj =>
    cases h
    exact ⟨resvs, hResvs⟩
  | reserve nodeName =>
    have hEq := reserve_eq K { data with reservations := resvs } c nodeName hResvs
    obtain ⟨out, _, rfl⟩ := Option.map_eq_some_iff.mp (hEq.symm.trans h)
    exact ⟨_, rfl⟩
  | unreserve nodeName =>
    have hEq := unreserve_eq { data with reservations := resvs } c nodeName hResvs
    cases hEq.symm.trans h
    exact ⟨resvs, hResvs⟩

theorem calls_complete_iff_of_nilFree {c : Controller} (hFree : c.NilFree) (calls : List PvcCall) :
    (calls.foldlM (call K classes data) c).isSome ↔
      Runs.Guarded (step K classes data) (NoDeletedClaim classes data) c calls := by
  induction calls generalizing c with
  | nil => exact iff_of_true rfl trivial
  | cons a rest ih =>
    rw [List.foldlM_cons, Runs.Guarded, ← call_isSome_iff K classes data hFree a, step]
    cases hCall : c.call K classes data a with
    | none => simp
    | some next => simpa using ih (nilFree_call K classes data hFree hCall)

/-- From any state and a cycle that has reserved nothing yet, all calls return
exactly when no call meets a local claim that is being deleted. -/
theorem calls_complete_iff (s : State) (calls : List PvcCall) :
    (calls.foldlM (call K classes data) { state := s }).isSome ↔
      Runs.Guarded (step K classes data) (NoDeletedClaim classes data) { state := s } calls :=
  calls_complete_iff_of_nilFree K classes data ⟨[], rfl⟩ calls

def deletedClaim : PersistentVolumeClaim where
  ns := "a"
  name := "x"
  deletionTimestamp := some 1
  storageClassName := some "local"
  annotations := some (Finmap.singleton k8sAnnoSelectedNode "n")

/-- The claim is listed after a restart, and reserved for a pod that uses it. -/
theorem deletedClaim_crashes :
    (call Kube.exact mustLocalClass {} { state := State.newState } (.onAdd deletedClaim)).isSome = false ∧
      (call Kube.exact mustLocalClass { mustLocalAntstorPVCs := [deletedClaim] } { state := roomFor 15 }
        (.reserve "n")).isSome = false := by
  constructor
  · decide +kernel
  · decide +kernel

end Controller

end Liteio.Plugin
