import Liteio.Plugin.Phases

/-! # What a successful Reserve leaves on the node

`Node.Reserve` says nothing when it refuses, and the plugin's Reserve goes on to
the next claim and returns success. A claim is held afterwards exactly when it
was held before, or the cached free space covered it when its turn came.
-/

namespace Liteio

namespace Node

/-- A reservation of this ID and size, or a volume that names the ID. -/
def Holds (n : Node) (r : Reservation) : Prop :=
  (∃ held, n.getReservation r.id = some held ∧ held.sizeByte = r.sizeByte) ∨
    ∃ vol ∈ n.volumes, getVolumeReservationID vol = r.id

/-- What `Reserve` needs to leave the reservation on the node. -/
def CanHold (n : Node) (r : Reservation) : Prop := n.Holds r ∨ r.sizeByte ≤ storage n.freeResource

theorem holds_refresh_iff (n : Node) (r : Reservation) : n.refresh.Holds r ↔ n.Holds r := by
  by_cases hBound : ∃ vol ∈ n.volumes, getVolumeReservationID vol = r.id
  · exact iff_of_true (.inr hBound) (.inr hBound)
  · have hFree : r.id ∉ n.volResvIDs := by
      intro hID
      obtain ⟨vol, hVol, hName⟩ := List.mem_map.mp (n.volResvIDs_subset hID)
      exact hBound ⟨vol, hVol, hName⟩
    have hSame : n.refresh.getReservation r.id = n.getReservation r.id := by
      rw [getReservation, refresh_resvSet, ReservationSet.getById_unreserveAll, if_pos hFree, getReservation]
    rw [Holds, hSame, refresh_volumes, Holds]

theorem holds_reserve_of_ne (n : Node) {r other : Reservation} (h : r.id ≠ other.id) :
    (n.reserve other).Holds r ↔ n.Holds r := by
  unfold reserve
  split
  · rfl
  · split
    · rfl
    · rw [holds_refresh_iff, Holds, Holds, getReservation, ReservationSet.getById_reserve, if_neg h,
        getReservation]

theorem holds_reserve_iff (n : Node) (r : Reservation) : (n.reserve r).Holds r ↔ n.CanHold r := by
  unfold reserve CanHold
  split
  · rename_i hBound
    obtain ⟨vol, hVol, hName⟩ := List.any_eq_true.mp hBound
    have hHolds : n.Holds r := .inr ⟨vol, hVol, (of_decide_eq_true hName).symm⟩
    exact iff_of_true hHolds (.inl hHolds)
  · split
    · rename_i hShort
      simp only [not_le.mpr hShort, or_false]
    · rename_i hFits
      rw [holds_refresh_iff]
      refine iff_of_true (.inl ⟨r, ?_, rfl⟩) (.inr (not_lt.mp hFits))
      rw [getReservation, ReservationSet.getById_reserve, if_pos rfl]

theorem holds_foldl_of_notMem (n : Node) {r : Reservation} {resvs : List Reservation}
    (h : r.id ∉ resvs.map Reservation.id) : (resvs.foldl reserve n).Holds r ↔ n.Holds r := by
  induction resvs generalizing n with
  | nil => rfl
  | cons first rest ih =>
    rw [List.map_cons, List.mem_cons, not_or] at h
    rw [List.foldl_cons, ih _ h.2, holds_reserve_of_ne n h.1]

theorem holds_foldl_iff (n : Node) {resvs : List Reservation} (h : (resvs.map Reservation.id).Nodup) :
    (∀ r ∈ resvs, (resvs.foldl reserve n).Holds r) ↔ Runs.Guarded reserve CanHold n resvs := by
  induction resvs generalizing n with
  | nil => simp [Runs.Guarded]
  | cons first rest ih =>
    rw [List.map_cons, List.nodup_cons] at h
    rw [List.forall_mem_cons, List.foldl_cons, Runs.Guarded, ih _ h.2, holds_foldl_of_notMem _ h.1,
      holds_reserve_iff]

end Node

theorem mapM_newPvcReservation {K : Kube} {pvcs : List PersistentVolumeClaim}
    (h : ∀ pvc ∈ pvcs, pvc.deletionTimestamp = none) :
    pvcs.mapM (newPvcReservation K) = some (pvcs.map fun pvc => pvc.reservation K) := by
  induction pvcs with
  | nil => rfl
  | cons pvc rest ih =>
    rw [List.forall_mem_cons] at h
    rw [List.mapM_cons, newPvcReservation_of_alive h.1, ih h.2]
    rfl

namespace Plugin

variable (K : Kube)

def HoldsClaim (s : State) (nodeName : String) (pvc : PersistentVolumeClaim) : Prop :=
  ∃ node, s.nodeMap.lookup nodeName = some node ∧ node.Holds (pvc.reservation K)

/-- Each claim finds its room in its turn; a pod the plugin skips needs it all
to be there. -/
def RoomInTurn (s : State) (data : CycleData) (nodeName : String) : Prop :=
  if data.skipAntstorPlugin then ∀ pvc ∈ data.mustLocalAntstorPVCs, HoldsClaim K s nodeName pvc
  else ∀ node, s.nodeMap.lookup nodeName = some node →
    Runs.Guarded Node.reserve Node.CanHold node (data.mustLocalAntstorPVCs.map fun pvc => pvc.reservation K)

theorem reserve_holds_iff (s : State) (data : CycleData) (nodeName : String)
    (hDistinct : (data.mustLocalAntstorPVCs.map PersistentVolumeClaim.namespacedName).Nodup)
    (hAlive : ∀ pvc ∈ data.mustLocalAntstorPVCs, pvc.deletionTimestamp = none) :
    (∀ s' data', reserve K s data nodeName = some (s', data', .success) →
        ∀ pvc ∈ data.mustLocalAntstorPVCs, HoldsClaim K s' nodeName pvc) ↔
      RoomInTurn K s data nodeName := by
  unfold reserve RoomInTurn
  by_cases hSkip : data.skipAntstorPlugin = true
  · simp [hSkip]
  · rw [if_neg hSkip, if_neg hSkip, mapM_newPvcReservation hAlive]
    cases hNode : s.nodeMap.lookup nodeName with
    | none => simp
    | some node =>
      have hIds : ((data.mustLocalAntstorPVCs.map fun pvc => pvc.reservation K).map Reservation.id).Nodup := by
        rw [List.map_map]
        exact hDistinct
      simp only [Option.map_some, Option.some.injEq, forall_eq', ← Node.holds_foldl_iff node hIds,
        List.forall_mem_map, Prod.mk.injEq, HoldsClaim]
      simp [State.onNode_lookup, hNode]

def twoClaims : CycleData where
  mustLocalAntstorPVCs := [{ ns := "a", name := "x", requestsStorage := 10 },
    { ns := "a", name := "y", requestsStorage := 10 }]

def roomFor (bytes : Quantity) : State :=
  State.run Kube.exact [.setStoragePool
    { name := "n", spec := { nodeInfo := { id := "n" } },
      status := { capacity := Finmap.singleton resourceDiskPoolByte bytes } }]

theorem twoClaims_held :
    (reserve Kube.exact (roomFor 20) twoClaims "n").isSome = true ∧
      ∀ s' data', reserve Kube.exact (roomFor 20) twoClaims "n" = some (s', data', .success) →
        ∀ pvc ∈ twoClaims.mustLocalAntstorPVCs, HoldsClaim Kube.exact s' "n" pvc := by
  refine ⟨by decide +kernel, ?_⟩
  apply (reserve_holds_iff Kube.exact (roomFor 20) twoClaims "n" (by decide) (by decide)).mpr
  intro node hNode
  refine ⟨.inr ?_, .inr ?_, trivial⟩
  · revert node
    decide +kernel
  · revert node
    decide +kernel

/-- The pool has room for one claim. -/
theorem twoClaims_not_held : ∃ s' data',
    reserve Kube.exact (roomFor 15) twoClaims "n" = some (s', data', .success) ∧
      ¬ ∀ pvc ∈ twoClaims.mustLocalAntstorPVCs, HoldsClaim Kube.exact s' "n" pvc := by
  refine ⟨_, _, rfl, ?_⟩
  intro h
  obtain ⟨node, hNode, hHolds⟩ := h { ns := "a", name := "y", requestsStorage := 10 } (by decide)
  have hEmpty : node.getReservation "a/y" = none ∧ node.volumes = [] := by
    clear hHolds
    revert node
    decide +kernel
  rcases hHolds with ⟨held, hHeld, _⟩ | ⟨vol, hVol, _⟩
  · cases hEmpty.1.symm.trans hHeld
  · rw [hEmpty.2] at hVol
    cases hVol

end Plugin

end Liteio
