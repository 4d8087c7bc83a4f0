import Liteio.State.Room

/-! # Consumed reservations

Binding a volume drops the reservation it names and no reservation of that ID is
accepted while the volume stays. In a reachable state a node therefore never
holds a reservation that a bound volume names.
-/

namespace Liteio

namespace Node

def Consumed (n : Node) : Prop :=
  ∀ vol ∈ n.volumes, getVolumeReservationID vol ≠ "" → n.getReservation (getVolumeReservationID vol) = none

theorem Consumed.shrink {n m : Node} (h : n.Consumed) (hVolumes : ∀ vol ∈ m.volumes, vol ∈ n.volumes)
    (hResv : ∀ id, n.getReservation id = none → m.getReservation id = none) : m.Consumed :=
  fun vol hVol hID => hResv _ (h vol (hVolumes vol hVol) hID)

theorem settle_getReservation_eq_none {n : Node} {id : String} (h : n.getReservation id = none) :
    n.settle.getReservation id = none := by
  change (n.resvSet.unreserveAll n.volResvIDs).getById id = none
  rw [ReservationSet.getById_unreserveAll]
  split
  · exact h
  · rfl

theorem refresh_getReservation_eq_none {n : Node} {id : String} (h : n.getReservation id = none) :
    n.refresh.getReservation id = none :=
  settle_getReservation_eq_none h

theorem Consumed.settle {n : Node} (h : n.Consumed) : n.settle.Consumed :=
  h.shrink (fun _ hVol => hVol) fun _ => settle_getReservation_eq_none

theorem Consumed.refresh {n : Node} (h : n.Consumed) : n.refresh.Consumed :=
  h.shrink (fun _ hVol => hVol) fun _ => refresh_getReservation_eq_none

theorem consumed_newNode (pool : StoragePool) : (newNode pool).Consumed :=
  fun _ hVol => absurd hVol List.not_mem_nil

theorem mem_replaceVolume {vol item : AntstorVolume} {items : List AntstorVolume}
    (h : item ∈ (replaceVolume vol items).1) : item ∈ items ∨ item = vol := by
  induction items with
  | nil => cases h
  | cons first rest ih =>
    rw [replaceVolume] at h
    split at h
    · split at h
      · exact .inl h
      · have hCons : item = vol ∨ item ∈ (replaceVolume vol rest).1 := by
          split at h <;> rename_i hRest <;> rw [hRest] <;> exact List.mem_cons.mp h
        rcases hCons with hVol | hRest
        · exact .inr hVol
        · exact (ih hRest).imp_left (List.mem_cons_of_mem _)
    · rcases List.mem_cons.mp h with rfl | hRest
      · exact .inl List.mem_cons_self
      · exact (ih hRest).imp_left (List.mem_cons_of_mem _)

theorem Consumed.withVolumes {n : Node} (h : n.Consumed) (vol : AntstorVolume)
    {volumes : List AntstorVolume} (hVolumes : ∀ item ∈ volumes, item ∈ n.volumes ∨ item = n.resident vol) :
    ({ n.dropReservation vol with volumes := volumes } : Node).Consumed := by
  intro item hItem hID
  change (n.dropReservation vol).getReservation _ = none
  rcases hVolumes item hItem with hOld | rfl
  · rw [getReservation_dropReservation, h item hOld hID, ite_self]
  · rw [resident_reservationID] at hID ⊢
    rw [getReservation_dropReservation, if_pos ⟨hID, rfl⟩]

theorem Consumed.addVolume {n : Node} (h : n.Consumed) (vol : AntstorVolume) :
    (n.addVolume vol).1.Consumed := by
  have hReplaced := h.withVolumes vol fun item (hItem : item ∈ (replaceVolume (n.resident vol) n.volumes).1) =>
    mem_replaceVolume hItem
  have hAppended := h.withVolumes vol fun item (hItem : item ∈ n.volumes ++ [n.resident vol]) =>
    (List.mem_append.mp hItem).imp_right List.mem_singleton.mp
  unfold Node.addVolume
  split
  · rename_i volumes hScan
    rw [hScan] at hReplaced
    exact hReplaced
  · rename_i volumes hScan
    rw [hScan] at hReplaced
    exact hReplaced.refresh
  · exact hAppended.refresh

theorem Consumed.removeVolumeByID {n : Node} (h : n.Consumed) (volID : String) :
    (n.removeVolumeByID volID).Consumed := by
  unfold Node.removeVolumeByID
  split
  · refine Consumed.refresh (h.shrink (fun vol hVol => ?_) fun _ hID => hID)
    exact List.mem_of_mem_eraseP hVol
  · exact h

theorem Consumed.unreserve {n : Node} (h : n.Consumed) (id : String) : (n.unreserve id).Consumed := by
  refine h.shrink (fun _ hVol => hVol) fun other hOther => ?_
  apply refresh_getReservation_eq_none
  change (n.resvSet.unreserve id).getById other = none
  rw [ReservationSet.getById_unreserve]
  split
  · rfl
  · exact hOther

theorem Consumed.reserve {n : Node} (h : n.Consumed) (r : Reservation) : (n.reserve r).Consumed := by
  unfold Node.reserve
  split
  · exact h
  · rename_i hFree
    split
    · exact h
    · refine Consumed.refresh fun vol hVol hID => ?_
      change (n.resvSet.reserve r).getById _ = none
      have hOther : getVolumeReservationID vol ≠ r.id := by
        rintro hSame
        exact hFree (List.any_eq_true.mpr ⟨vol, hVol, by simp [hSame]⟩)
      rw [ReservationSet.getById_reserve, if_neg hOther]
      exact h vol hVol hID

end Node

namespace State

theorem consumed_step (K : Kube) {s : State} (a : Action) (h : s.AllNodes Node.Consumed) :
    (s.step K a).AllNodes Node.Consumed := by
  refine allNodes_step h Node.consumed_newNode ?_ ?_ ?_ ?_ ?_
  · intro node pool hNode
    exact Node.Consumed.refresh (hNode.shrink (fun _ hVol => hVol) fun _ hID => hID)
  · intro nodeID vol node _ _ _ hNode
    exact hNode.addVolume vol
  · intro node volID hNode
    exact hNode.removeVolumeByID volID
  · intro nodeID r node _ _ hNode
    exact hNode.reserve r
  · intro node id hNode
    exact hNode.unreserve id

theorem consumed_run (K : Kube) (actions : List Action) : (run K actions).AllNodes Node.Consumed := by
  refine Runs.run_induction (fun id node hNode => ?_) fun s a => consumed_step K a
  cases hNode

end State

end Liteio
