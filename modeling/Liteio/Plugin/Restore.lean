import Liteio.Plugin.Phases
import Liteio.State.Room

/-! # Undoing the reservations of a cycle

Reserve and Unreserve touch the reservations under the IDs of the claims, and
those of bound volumes, which every recomputation drops. What is left differs
from the node before unless none of them was there and the cache was exact.
-/

namespace Liteio.Node

/-- The nodes differ at most in the reservations under these IDs, in those of
bound volumes, and in the cache. -/
structure Touches (ids : List String) (n m : Node) : Prop where
  pool : m.pool = n.pool
  volumes : m.volumes = n.volumes
  others : ∀ id, id ∉ ids → id ∉ n.volResvIDs → m.getReservation id = n.getReservation id

theorem Touches.refl (ids : List String) (n : Node) : Touches ids n n := ⟨rfl, rfl, fun _ _ _ => rfl⟩

theorem Touches.volResvIDs_eq {ids : List String} {n m : Node} (h : Touches ids n m) :
    m.volResvIDs = n.volResvIDs := by
  rw [volResvIDs, hasStorage_congr h.pool, h.volumes, volResvIDs]

theorem Touches.settle {ids : List String} {n m : Node} (h : Touches ids n m) : Touches ids n m.settle := by
  refine ⟨h.pool, h.volumes, ?_⟩
  intro id hId hBound
  rw [← h.others id hId hBound]
  change (m.resvSet.unreserveAll m.volResvIDs).getById id = _
  rw [ReservationSet.getById_unreserveAll, if_pos (h.volResvIDs_eq ▸ hBound)]
  rfl

theorem Touches.unreserve {ids : List String} {n m : Node} (h : Touches ids n m) {removed : String}
    (hRemoved : removed ∈ ids) : Touches ids n (m.unreserve removed) := by
  refine ⟨h.pool, h.volumes, ?_⟩
  intro id hId hBound
  rw [unreserve_getReservation, if_neg, h.others id hId hBound]
  rintro (rfl | hOther)
  · exact hId hRemoved
  · exact hBound (h.volResvIDs_eq ▸ hOther)

theorem Touches.reserve {ids : List String} {n m : Node} (h : Touches ids n m) {r : Reservation}
    (hId : r.id ∈ ids) : Touches ids n (m.reserve r) := by
  by_cases hRefuses : m.Refuses r
  · rw [reserve_of_refuses hRefuses]
    exact h
  · rw [reserve_of_not_refuses hRefuses]
    refine ⟨h.pool, h.volumes, ?_⟩
    intro id hOther hBound
    change ((m.resvSet.reserve r).unreserveAll m.volResvIDs).getById id = _
    rw [ReservationSet.getById_unreserveAll, if_pos (h.volResvIDs_eq ▸ hBound),
      ReservationSet.getById_reserve, if_neg]
    · exact h.others id hOther hBound
    · rintro rfl
      exact hOther hId

theorem Touches.reserveAll {ids : List String} {n m : Node} (h : Touches ids n m) {resvs : List Reservation}
    (hIds : ∀ r ∈ resvs, r.id ∈ ids) : Touches ids n (resvs.foldl Node.reserve m) := by
  induction resvs generalizing m with
  | nil => exact h
  | cons r resvs ih =>
    exact ih (h.reserve (hIds r List.mem_cons_self)) fun other hOther =>
      hIds other (List.mem_cons_of_mem r hOther)

theorem Touches.unreserveAll {ids : List String} {n m : Node} (h : Touches ids n m) {resvs : List Reservation}
    (hIds : ∀ r ∈ resvs, r.id ∈ ids) :
    Touches ids n (resvs.foldl (fun node item => node.unreserve item.id) m) := by
  induction resvs generalizing m with
  | nil => exact h
  | cons r resvs ih =>
    exact ih (h.unreserve (hIds r List.mem_cons_self)) fun other hOther =>
      hIds other (List.mem_cons_of_mem r hOther)

theorem unreserveAll_getReservation_of_none {m : Node} {id : String} (h : m.getReservation id = none)
    (resvs : List Reservation) :
    (resvs.foldl (fun node item => node.unreserve item.id) m).getReservation id = none := by
  induction resvs generalizing m with
  | nil => exact h
  | cons r resvs ih =>
    apply ih
    rw [unreserve_getReservation, h, ite_self]

theorem unreserveAll_getReservation {m : Node} {resvs : List Reservation} {r : Reservation} (hr : r ∈ resvs) :
    (resvs.foldl (fun node item => node.unreserve item.id) m).getReservation r.id = none := by
  induction resvs generalizing m with
  | nil => cases hr
  | cons first resvs ih =>
    rcases List.mem_cons.mp hr with rfl | hr
    · rw [List.foldl_cons]
      apply unreserveAll_getReservation_of_none
      rw [unreserve_getReservation, if_pos (.inl rfl)]
    · exact ih hr

theorem unreserveAll_refreshed {m : Node} {resvs : List Reservation} (hNonempty : resvs ≠ []) :
    ∃ last : Node, resvs.foldl (fun node item => node.unreserve item.id) m = last.refresh := by
  obtain ⟨front, r, rfl⟩ := (List.eq_nil_or_concat' resvs).resolve_left hNonempty
  rw [List.foldl_append]
  exact ⟨_, rfl⟩

theorem getFreeResourceNonLock_congr {n m : Node} (hPool : m.pool = n.pool) (hVolumes : m.volumes = n.volumes)
    (hResv : m.resvSet = n.resvSet) : m.getFreeResourceNonLock.1 = n.getFreeResourceNonLock.1 := by
  apply free_congr hPool
  rw [charges, charges, reservedBytes, reservedBytes, volumeBytes, volumeBytes, openBytes_eq_total,
    openBytes_eq_total, boundIDs, boundIDs, hPool, hVolumes, hResv]

/-- A node with none of the reservations and a fresh cache shows the ledger of
the node before exactly when that one had none of them and was in order. -/
theorem Touches.ledger_eq_iff {ids : List String} {n m : Node} (h : Touches ids n m)
    (hGone : ∀ id ∈ ids, m.getReservation id = none) (hSettled : m.Settled) (hExact : m.CacheExact) :
    (m.resvSet = n.resvSet ∧ m.freeResource = n.freeResource) ↔
      (∀ id ∈ ids, n.getReservation id = none) ∧ n.Settled ∧ n.CacheExact := by
  constructor
  · rintro ⟨hResv, hFree⟩
    have hSame : ∀ id, n.getReservation id = m.getReservation id := by
      intro id
      rw [getReservation, getReservation, hResv]
    refine ⟨?_, ?_, ?_⟩
    · intro id hId
      rw [hSame, hGone id hId]
    · intro id hId
      rw [hSame, hSettled id (h.volResvIDs_eq ▸ hId)]
    · rw [CacheExact, ← hFree, hExact, getFreeResourceNonLock_congr h.pool h.volumes hResv]
  · rintro ⟨hNone, hBound, hCache⟩
    have hResv : m.resvSet = n.resvSet := by
      ext1 id
      change m.getReservation id = n.getReservation id
      by_cases hId : id ∈ ids
      · rw [hGone id hId, hNone id hId]
      · by_cases hVol : id ∈ n.volResvIDs
        · rw [hSettled id (h.volResvIDs_eq ▸ hVol), hBound id hVol]
        · exact h.others id hId hVol
    exact ⟨hResv, by rw [hExact, getFreeResourceNonLock_congr h.pool h.volumes hResv, ← hCache]⟩

theorem Touches.eq_of_ledger {ids : List String} {n m : Node} (h : Touches ids n m)
    (hLedger : m.resvSet = n.resvSet ∧ m.freeResource = n.freeResource) : m = n := by
  obtain ⟨pool, volumes, freeResource, resvSet⟩ := m
  obtain ⟨rfl, rfl⟩ := hLedger
  cases h.pool
  cases h.volumes
  rfl

end Liteio.Node
