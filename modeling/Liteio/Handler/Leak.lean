import Liteio.Handler.Events
import Liteio.State.Room

/-! # The reservation of a claim over its life

One claim is added, updated any number of times and deleted. The reservation is
placed on the node selected when the claim was added; the delete event derives
the node again from the object it carries and from the storage class as it then
is. The reservation is gone in the end exactly when the two agree.
-/

namespace Liteio

namespace Handler

def DeletedObject.obj : DeletedObject → PersistentVolumeClaim
  | .pvc obj => obj
  | .deletedFinalStateUnknown obj => obj

def history (K : Kube) (atAdd atDelete : StorageClassLookup) (s : State) (pvc : PersistentVolumeClaim)
    (updates : List (PersistentVolumeClaim × PersistentVolumeClaim)) (deleted : DeletedObject) :
    Option State :=
  (onAdd K atAdd s pvc).map fun s =>
    onDelete atDelete (updates.foldl (fun s update => onUpdate s update.1 update.2) s) deleted

def NoneHolds (id : String) (s : State) : Prop := s.AllNodes fun n => n.getReservation id = none

instance (id : String) (s : State) : Decidable (NoneHolds id s) :=
  inferInstanceAs (Decidable (s.AllNodes _))

/-- The add event places the reservation on this node: the claim counts, is not
being deleted, and passes the two checks of `Reserve`. -/
def Places (K : Kube) (classes : StorageClassLookup) (s : State) (pvc : PersistentVolumeClaim)
    (nodeName : String) : Prop :=
  pvcSite classes pvc = some nodeName ∧ ∃ r, newPvcReservation K pvc = some r ∧ ¬ (nodeAt s nodeName).Refuses r

/-- The delete event carries the object, its class is found, and the node it
still selects is this one. -/
def ReleasesAt (classes : StorageClassLookup) (deleted : DeletedObject) (nodeName : String) : Prop :=
  ∃ obj, deleted = .pvc obj ∧ (isAntstorMustLocalPVCBound classes obj).1 = nodeName ∧ nodeName ≠ "" ∧
    obj.ns ≠ ""

theorem foldl_onUpdate (s : State) (updates : List (PersistentVolumeClaim × PersistentVolumeClaim)) :
    updates.foldl (fun s update => onUpdate s update.1 update.2) s = s := by
  induction updates with
  | nil => rfl
  | cons update updates ih => exact ih

theorem metaNamespaceKey_eq_iff (pvc : PersistentVolumeClaim) :
    metaNamespaceKey pvc.toObjectMeta = pvc.namespacedName ↔ pvc.ns ≠ "" := by
  rw [metaNamespaceKey]
  split
  · rename_i hNs
    refine iff_of_false ?_ (not_not.mpr hNs)
    intro hEq
    have hLength := congrArg String.length hEq
    simp [PersistentVolumeClaim.namespacedName, hNs, String.length_append] at hLength
  · rename_i hNs
    exact iff_of_true rfl hNs

theorem noneHolds_onDelete {classes : StorageClassLookup} {s : State} {id : String} (h : NoneHolds id s)
    (deleted : DeletedObject) : NoneHolds id (onDelete classes s deleted) := by
  cases deleted with
  | deletedFinalStateUnknown obj => exact h
  | pvc obj =>
    rw [onDelete]
    split
    · intro other n hn
      rw [State.onNode_lookup] at hn
      split at hn
      · obtain ⟨before, hBefore, rfl⟩ := Option.map_eq_some_iff.mp hn
        rw [Node.unreserve_getReservation, h _ _ hBefore, ite_self]
      · exact h other n hn
    · exact h

theorem onDelete_noneHolds_iff {classes : StorageClassLookup} {s : State} {id nodeName : String}
    {node : Node} {deleted : DeletedObject} (hNode : s.nodeMap.lookup nodeName = some node)
    (hHeld : node.getReservation id ≠ none) (hFree : id ∉ node.volResvIDs)
    (hOthers : ∀ other n, other ≠ nodeName → s.nodeMap.lookup other = some n → n.getReservation id = none)
    (hKey : deleted.obj.namespacedName = id) :
    NoneHolds id (onDelete classes s deleted) ↔ ReleasesAt classes deleted nodeName := by
  cases deleted with
  | deletedFinalStateUnknown obj =>
    refine iff_of_false (fun h => hHeld (h nodeName node hNode)) ?_
    rintro ⟨_, hObj, _⟩
    cases hObj
  | pvc obj =>
    rw [onDelete]
    by_cases hName : (isAntstorMustLocalPVCBound classes obj).1 = nodeName ∧ nodeName ≠ ""
    · obtain ⟨hSame, hNonempty⟩ := hName
      have hAfter : (node.unreserve (metaNamespaceKey obj.toObjectMeta)).getReservation id = none ↔
          obj.ns ≠ "" := by
        rw [Node.unreserve_getReservation, ← metaNamespaceKey_eq_iff, ← hKey]
        by_cases hRemoved : metaNamespaceKey obj.toObjectMeta = obj.namespacedName
        · exact iff_of_true (if_pos (.inl hRemoved.symm)) hRemoved
        · refine iff_of_false ?_ hRemoved
          rw [if_neg]
          · exact hKey ▸ hHeld
          · rintro (hEq | hBound)
            · exact hRemoved hEq.symm
            · exact hFree (hKey ▸ hBound)
      rw [hSame, if_pos hNonempty]
      constructor
      · intro h
        refine ⟨obj, rfl, hSame, hNonempty, hAfter.mp (h nodeName _ ?_)⟩
        rw [State.onNode_lookup, if_pos rfl, hNode]
        rfl
      · rintro ⟨_, hObj, _, _, hNs⟩ other n hn
        cases hObj
        rw [State.onNode_lookup, hNode] at hn
        split at hn
        · cases hn
          exact hAfter.mpr hNs
        · rename_i hOther
          exact hOthers other n hOther hn
    · have hKept : (if (isAntstorMustLocalPVCBound classes obj).1 ≠ "" then
          s.onNode (isAntstorMustLocalPVCBound classes obj).1 fun node =>
            node.unreserve (metaNamespaceKey obj.toObjectMeta) else s).nodeMap.lookup nodeName = some node := by
        split
        · rename_i hNonempty
          rw [State.onNode_lookup, if_neg, hNode]
          intro hSame
          exact hName ⟨hSame.symm, hSame ▸ hNonempty⟩
        · exact hNode
      refine iff_of_false (fun h => hHeld (h nodeName node hKept)) ?_
      rintro ⟨_, hObj, hSame, hNonempty, _⟩
      cases hObj
      exact hName ⟨hSame, hNonempty⟩

theorem nodeAt_getReservation {s : State} {id : String} (h : NoneHolds id s) (nodeName : String) :
    (nodeAt s nodeName).getReservation id = none := by
  rw [nodeAt]
  cases hNode : s.nodeMap.lookup nodeName with
  | none => rfl
  | some node => exact h nodeName node hNode

theorem onAdd_of_site {K : Kube} {classes : StorageClassLookup} {s : State}
    {pvc : PersistentVolumeClaim} {nodeName : String} (h : pvcSite classes pvc = some nodeName) :
    onAdd K classes s pvc = (newPvcReservation K pvc).map fun r =>
      (ensureNode K s nodeName).onNode nodeName fun node => node.reserve r := by
  rw [pvcSite] at h
  rw [onAdd]
  split at h
  · rename_i found hBound
    cases h
    rw [hBound]
  · cases h

theorem onAdd_of_no_site {K : Kube} {classes : StorageClassLookup} {s : State}
    {pvc : PersistentVolumeClaim} (h : pvcSite classes pvc = none) : onAdd K classes s pvc = some s := by
  rw [pvcSite] at h
  rw [onAdd]
  split at h
  · cases h
  · rename_i hBound
    rw [hBound]

theorem added_lookup (K : Kube) (s : State) (r : Reservation) (nodeName id : String) :
    ((ensureNode K s nodeName).onNode nodeName fun node => node.reserve r).nodeMap.lookup id =
      if id = nodeName then some ((nodeAt s nodeName).reserve r) else s.nodeMap.lookup id := by
  rw [State.onNode_lookup, ensureNode_lookup, ensureNode_lookup, if_pos rfl, Option.map_some]
  split <;> rfl

/-- Over its life a claim that no node holds a reservation for leaves none
behind exactly when the add event does not panic and a reservation it places is
released by a delete event about the same node. -/
theorem history_noneHolds_iff (K : Kube) (atAdd atDelete : StorageClassLookup) {s : State}
    {pvc : PersistentVolumeClaim} (updates : List (PersistentVolumeClaim × PersistentVolumeClaim))
    {deleted : DeletedObject} (hNs : deleted.obj.ns = pvc.ns) (hName : deleted.obj.name = pvc.name)
    (hStart : NoneHolds pvc.namespacedName s) :
    (∃ final, history K atAdd atDelete s pvc updates deleted = some final ∧
      NoneHolds pvc.namespacedName final) ↔
    ((pvcSite atAdd pvc).isSome → pvc.deletionTimestamp = none) ∧
      ∀ nodeName, Places K atAdd s pvc nodeName → ReleasesAt atDelete deleted nodeName := by
  have hKey : deleted.obj.namespacedName = pvc.namespacedName := by
    rw [PersistentVolumeClaim.namespacedName, hNs, hName, PersistentVolumeClaim.namespacedName]
  rw [history]
  simp only [foldl_onUpdate]
  cases hSite : pvcSite atAdd pvc with
  | none =>
    rw [onAdd_of_no_site hSite]
    refine iff_of_true ⟨_, rfl, noneHolds_onDelete hStart deleted⟩ ⟨by simp, ?_⟩
    rintro nodeName ⟨hSome, _⟩
    rw [hSite] at hSome
    cases hSome
  | some nodeName =>
    rw [onAdd_of_site hSite]
    cases hNew : newPvcReservation K pvc with
    | none =>
      refine iff_of_false (by simp) ?_
      rintro ⟨hAlive, _⟩
      rw [newPvcReservation, hAlive rfl] at hNew
      cases hNew
    | some r =>
      have hAlive : pvc.deletionTimestamp = none := newPvcReservation_alive hNew
      have hPlaces : ∀ other, Places K atAdd s pvc other ↔
          other = nodeName ∧ ¬ (nodeAt s nodeName).Refuses r := by
        intro other
        rw [Places, hSite, hNew]
        constructor
        · rintro ⟨hOther, found, hFound, hAccepts⟩
          cases hOther
          cases hFound
          exact ⟨rfl, hAccepts⟩
        · rintro ⟨rfl, hAccepts⟩
          exact ⟨rfl, r, rfl, hAccepts⟩
      simp only [Option.map_some, Option.some.injEq, exists_eq_left', hPlaces, and_imp, forall_eq,
        hAlive, implies_true, true_and]
      by_cases hRefuses : (nodeAt s nodeName).Refuses r
      · refine iff_of_true (noneHolds_onDelete ?_ deleted) fun hAccepts => absurd hRefuses hAccepts
        intro other n hn
        rw [added_lookup, Node.reserve_of_refuses hRefuses] at hn
        split at hn
        · cases hn
          exact nodeAt_getReservation hStart nodeName
        · exact hStart other n hn
      · rw [onDelete_noneHolds_iff ((added_lookup K s r nodeName nodeName).trans (if_pos rfl)) ?_ ?_ ?_ hKey]
        · exact ⟨fun hReleases _ => hReleases, fun hReleases => hReleases hRefuses⟩
        · rw [← newPvcReservation_id hNew, Ne, Node.reserve_getReservation_self]
          · exact hRefuses
          · rw [newPvcReservation_id hNew]
            exact nodeAt_getReservation hStart nodeName
        · rw [← newPvcReservation_id hNew]
          exact Node.reserve_volResvIDs hRefuses
        · intro other n hOther hn
          rw [added_lookup, if_neg hOther] at hn
          exact hStart other n hn

def selectedClaim : PersistentVolumeClaim :=
  { ns := "d", name := "c", annotations := some (Finmap.singleton k8sAnnoSelectedNode "n"),
    storageClassName := some "local", requestsStorage := 40 }

def oneNode : State := State.run Kube.exact [.setStoragePool
  { name := "n", spec := { nodeInfo := { id := "n" } },
    status := { capacity := Finmap.singleton resourceDiskPoolByte 100 } }]

theorem deleted_object_noneHolds :
    ∃ final, history Kube.exact mustLocalClass mustLocalClass oneNode selectedClaim [] (.pvc selectedClaim) =
      some final ∧ NoneHolds "d/c" final := by
  refine (history_noneHolds_iff Kube.exact mustLocalClass mustLocalClass [] rfl rfl ?_).mpr ⟨?_, ?_⟩
  · decide +kernel
  · decide +kernel
  · rintro nodeName ⟨hSite, _⟩
    have hSelected : pvcSite mustLocalClass selectedClaim = some "n" := by decide
    cases hSelected.symm.trans hSite
    exact ⟨selectedClaim, rfl, by decide, by decide, by decide⟩

theorem tombstone_leaks :
    NoneHolds "d/c" oneNode ∧ ¬ ∃ final, history Kube.exact mustLocalClass mustLocalClass oneNode selectedClaim []
      (.deletedFinalStateUnknown selectedClaim) = some final ∧ NoneHolds "d/c" final := by
  refine ⟨by decide +kernel, ?_⟩
  rintro ⟨final, hFinal, hNone⟩
  have hLeaks : (history Kube.exact mustLocalClass mustLocalClass oneNode selectedClaim []
      (.deletedFinalStateUnknown selectedClaim)).map (fun s => decide (NoneHolds "d/c" s)) = some false := by
    decide +kernel
  rw [hFinal, Option.map_some, Option.some.injEq] at hLeaks
  exact of_decide_eq_false hLeaks hNone

end Handler

end Liteio
