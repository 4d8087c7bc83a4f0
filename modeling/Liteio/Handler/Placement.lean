import Liteio.Handler.Site

/-! # Which claims keep their reservation

Along the events of one node a claim without a volume ends up with its
reservation exactly when the cached free storage covers it at the moment it
comes: nothing retries an add event, and nothing else places the reservation.
-/

namespace Liteio

open MachineInt

namespace Handler

section

variable {K : Kube} {nodeID : String} {done : List Event} {n : Node}

/-- The events concern this node, at most once each, and their bindable volumes
are among `vols`. -/
structure WellPosed (K : Kube) (nodeID : String) (vols : List AntstorVolume) (events : List Event) :
    Prop where
  site : ∀ e ∈ events, At nodeID e
  names : (volumeNames events).Nodup
  keys : ((events.filterMap asPvc).map PersistentVolumeClaim.namespacedName).Nodup
  alive : ∀ pvc ∈ events.filterMap asPvc, ∃ r, newPvcReservation K pvc = some r
  vols : ∀ vol ∈ events.filterMap asVolume, vol ∈ vols

def HasVolume (vols : List AntstorVolume) (pvc : PersistentVolumeClaim) : Prop :=
  ∃ vol ∈ vols, getVolumeReservationID vol = pvc.namespacedName

instance (vols : List AntstorVolume) (pvc : PersistentVolumeClaim) : Decidable (HasVolume vols pvc) :=
  inferInstanceAs (Decidable (∃ vol ∈ vols, _))

/-- A claim without a volume comes when the cached free storage covers it. -/
def Fits (K : Kube) (vols : List AntstorVolume) (n : Node) : Event → Prop
  | .pvc pvc => HasVolume vols pvc ∨ ∀ r ∈ newPvcReservation K pvc, (r.sizeByte : ℚ) ≤ storage n.freeResource
  | _ => True

instance (K : Kube) (vols : List AntstorVolume) (n : Node) : DecidablePred (Fits K vols n)
  | .pvc _ => inferInstanceAs (Decidable (_ ∨ ∀ r ∈ newPvcReservation K _, _))
  | .pool _ | .volume _ => isTrue trivial

def Placed (K : Kube) (vols : List AntstorVolume) (done : List Event) (n : Node) : Prop :=
  ∀ pvc ∈ done.filterMap asPvc, ¬ HasVolume vols pvc →
    n.getReservation pvc.namespacedName = newPvcReservation K pvc

variable {vols : List AntstorVolume} {e : Event} {events : List Event}

theorem WellPosed.sublist {fewer : List Event} (h : WellPosed K nodeID vols events)
    (hSub : fewer.Sublist events) : WellPosed K nodeID vols fewer where
  site e he := h.site e (hSub.subset he)
  names := h.names.sublist ((hSub.filterMap _).map _)
  keys := h.keys.sublist ((hSub.filterMap _).map _)
  alive pvc hPvc := h.alive pvc ((hSub.filterMap _).subset hPvc)
  vols vol hVol := h.vols vol ((hSub.filterMap _).subset hVol)

theorem WellPosed.perm {other : List Event} (h : WellPosed K nodeID vols events)
    (hPerm : events.Perm other) : WellPosed K nodeID vols other where
  site e he := h.site e (hPerm.mem_iff.mpr he)
  names := ((hPerm.filterMap _).map _).nodup_iff.mp h.names
  keys := ((hPerm.filterMap _).map _).nodup_iff.mp h.keys
  alive pvc hPvc := h.alive pvc ((hPerm.filterMap _).mem_iff.mpr hPvc)
  vols vol hVol := h.vols vol ((hPerm.filterMap _).mem_iff.mpr hVol)

theorem WellPosed.first (h : WellPosed K nodeID vols (done ++ e :: events)) :
    WellPosed K nodeID vols (done ++ [e]) :=
  h.sublist (List.Sublist.append_left (List.singleton_sublist.mpr List.mem_cons_self) done)

theorem Tracks.next (h : Tracks K nodeID done n) (hWell : WellPosed K nodeID vols (done ++ e :: events)) :
    Tracks K nodeID (done ++ [e]) (nodeStep K n e) :=
  h.step (hWell.site e (by simp)) hWell.first.names

theorem Tracks.run (h : Tracks K nodeID done n) (hWell : WellPosed K nodeID vols (done ++ events)) :
    Tracks K nodeID (done ++ events) (Runs.run (nodeStep K) n events) := by
  induction events generalizing done n with
  | nil => simpa using h
  | cons e events ih =>
    have hNext := ih (h.next hWell) (by simpa using hWell)
    simpa using hNext

theorem Tracks.getReservation_next (h : Tracks K nodeID done n)
    (hWell : WellPosed K nodeID vols (done ++ e :: events)) {id : String}
    (hOther : ∀ pvc, e = .pvc pvc → pvc.namespacedName ≠ id) :
    (nodeStep K n e).getReservation id = n.getReservation id ∨
      ((nodeStep K n e).getReservation id = none ∧ ∃ vol ∈ vols, getVolumeReservationID vol = id) := by
  cases e with
  | pool obj => exact .inl (nodeStep_pool_getReservation h obj id)
  | pvc obj =>
    obtain ⟨r, hNew⟩ := hWell.alive obj (by simp)
    rw [nodeStep_pvc_getReservation h hNew, if_neg fun hBoth => hOther obj rfl hBoth.1.symm]
    exact .inl rfl
  | volume obj =>
    rw [nodeStep_volume_getReservation h (hWell.site _ (by simp)) hWell.first.names]
    split
    · rename_i hTakes
      exact .inr ⟨rfl, obj, hWell.vols obj (by simp [asVolume, hTakes.1]), hTakes.2.symm⟩
    · exact .inl rfl

theorem Tracks.run_getReservation_eq_none (h : Tracks K nodeID done n)
    (hWell : WellPosed K nodeID vols (done ++ events)) {id : String} (hNone : n.getReservation id = none)
    (hOthers : ∀ pvc, .pvc pvc ∈ events → pvc.namespacedName ≠ id) :
    (Runs.run (nodeStep K) n events).getReservation id = none := by
  induction events generalizing done n with
  | nil => exact hNone
  | cons e events ih =>
    refine ih (h.next hWell) (by simpa using hWell) ?_ ?_
    · rcases h.getReservation_next hWell fun pvc hPvc => hOthers pvc (by simp [hPvc]) with hKept | hGone
      · rw [hKept, hNone]
      · exact hGone.1
    · intro pvc hPvc
      exact hOthers pvc (List.mem_cons_of_mem _ hPvc)

theorem mem_asPvc {pvc : PersistentVolumeClaim} : pvc ∈ events.filterMap asPvc ↔ .pvc pvc ∈ events := by
  rw [List.mem_filterMap]
  constructor
  · rintro ⟨e, he, hPvc⟩
    cases e with
    | pvc obj =>
      cases hPvc
      exact he
    | pool obj => cases hPvc
    | volume obj => cases hPvc
  · intro h
    exact ⟨.pvc pvc, h, rfl⟩

theorem WellPosed.key_ne {pvc other : PersistentVolumeClaim}
    (h : WellPosed K nodeID vols (done ++ .pvc pvc :: events)) (hOther : .pvc other ∈ done ++ events) :
    other.namespacedName ≠ pvc.namespacedName := by
  have hKeys := h.keys
  rw [List.filterMap_append, List.filterMap_cons_some (asPvc_pvc pvc), List.map_append, List.map_cons,
    List.nodup_middle, List.nodup_cons, ← List.map_append, ← List.filterMap_append] at hKeys
  intro hSame
  exact hKeys.1 (hSame ▸ List.mem_map_of_mem (mem_asPvc.mpr hOther))

theorem Tracks.not_refuses (h : Tracks K nodeID done n)
    (hWell : WellPosed K nodeID vols (done ++ events)) {pvc : PersistentVolumeClaim} {r : Reservation}
    (hNew : newPvcReservation K pvc = some r) (hVolume : ¬ HasVolume vols pvc) :
    n.Refuses r ↔ storage n.freeResource < r.sizeByte := by
  constructor
  · rintro (⟨vol, hVol, hId⟩ | hSize)
    · rw [h.volumes] at hVol
      refine absurd ⟨vol, hWell.vols vol ?_, ?_⟩ hVolume
      · rw [List.filterMap_append]
        exact List.mem_append_left _ hVol
      · rw [← hId, newPvcReservation_id hNew]
    · exact hSize
  · exact .inr

theorem Placed.next (hPlaced : Placed K vols done n) (h : Tracks K nodeID done n)
    (hWell : WellPosed K nodeID vols (done ++ e :: events)) (hFits : Fits K vols n e) :
    Placed K vols (done ++ [e]) (nodeStep K n e) := by
  intro pvc hPvc hVolume
  rw [mem_asPvc, List.mem_append, List.mem_singleton] at hPvc
  rcases hPvc with hDone | rfl
  · have hOther : ∀ new, e = .pvc new → new.namespacedName ≠ pvc.namespacedName := by
      rintro new rfl hSame
      exact hWell.key_ne (List.mem_append_left _ hDone) hSame.symm
    rw [← hPlaced pvc (mem_asPvc.mpr hDone) hVolume]
    rcases h.getReservation_next hWell hOther with hKept | ⟨_, vol, hVol, hId⟩
    · exact hKept
    · exact absurd ⟨vol, hVol, hId⟩ hVolume
  · obtain ⟨r, hNew⟩ := hWell.alive pvc (by simp)
    have hAccepts : ¬ n.Refuses r := by
      rw [h.not_refuses hWell hNew hVolume, not_lt]
      exact hFits.resolve_left hVolume r hNew
    rw [nodeStep_pvc_getReservation h hNew, if_pos ⟨rfl, hAccepts⟩, hNew]

/-- A claim that comes too early is never placed. -/
theorem not_placed_of_not_fits (h : Tracks K nodeID done n)
    (hWell : WellPosed K nodeID vols (done ++ e :: events)) (hFits : ¬ Fits K vols n e) :
    ¬ Placed K vols (done ++ e :: events) (Runs.run (nodeStep K) n (e :: events)) := by
  cases e with
  | pool obj => exact absurd trivial hFits
  | volume obj => exact absurd trivial hFits
  | pvc pvc =>
    rw [Fits, not_or] at hFits
    obtain ⟨hVolume, hLarge⟩ := hFits
    obtain ⟨r, hNew⟩ := hWell.alive pvc (by simp)
    have hRefuses : n.Refuses r := by
      rw [h.not_refuses hWell hNew hVolume, ← not_le]
      intro hLe
      apply hLarge
      intro other hOther
      rw [hNew] at hOther
      cases hOther
      exact hLe
    have hBefore : n.getReservation pvc.namespacedName = none := by
      cases hFound : n.getReservation pvc.namespacedName with
      | none => rfl
      | some found =>
        obtain ⟨other, hOther, _, hKey⟩ := h.origin_key hFound
        exact absurd hKey (hWell.key_ne (List.mem_append_left _ (mem_asPvc.mp hOther)))
    have hAfter : (nodeStep K n (.pvc pvc)).getReservation pvc.namespacedName = none := by
      rw [nodeStep_pvc_getReservation h hNew, if_neg fun hBoth => hBoth.2 hRefuses, hBefore]
    have hFinal := (h.next hWell).run_getReservation_eq_none (by simpa using hWell) hAfter
      (fun other hOther => hWell.key_ne (List.mem_append_right _ hOther))
    intro hPlaced
    have hHeld := hPlaced pvc (by simp) hVolume
    rw [Runs.run_cons, hFinal, hNew] at hHeld
    cases hHeld

theorem placed_iff_guarded (h : Tracks K nodeID done n)
    (hWell : WellPosed K nodeID vols (done ++ events)) (hPlaced : Placed K vols done n) :
    Placed K vols (done ++ events) (Runs.run (nodeStep K) n events) ↔
      Runs.Guarded (nodeStep K) (Fits K vols) n events := by
  induction events generalizing done n with
  | nil => simpa [Runs.Guarded] using hPlaced
  | cons e events ih =>
    rw [Runs.Guarded]
    by_cases hFits : Fits K vols n e
    · rw [and_iff_right hFits, ← ih (h.next hWell) (by simpa using hWell) (hPlaced.next h hWell hFits)]
      simp
    · exact iff_of_false (not_placed_of_not_fits h hWell hFits) fun hBoth => hFits hBoth.1

end

end Handler

end Liteio
