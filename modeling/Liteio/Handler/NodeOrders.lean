import Liteio.Handler.Placement

/-! # Two orders of the events of one node

A node that runs through the same events in two orders ends with the same pool,
volumes and cache, and with the same reservations when all claims without a
volume fit in both. Claims that come after the pool and the volumes fit when
the capacity covers everything.
-/

namespace Liteio

open MachineInt

namespace Handler

structure SameNode (a b : Node) : Prop where
  volumes : a.volumes.Perm b.volumes
  reservations : a.resvSet = b.resvSet
  free : a.freeResource = b.freeResource

section

variable {K : Kube} {nodeID : String} {vols : List AntstorVolume} {done events other : List Event} {n : Node}

theorem tracks_placeholder (K : Kube) (nodeID : String) : Tracks K nodeID [] (placeholder nodeID) where
  info := rfl
  pool := rfl
  volumes := rfl
  cache := Node.cacheExact_refresh _
  unbound := by
    intro id hId
    cases hId
  origin := by
    intro id r hr
    cases hr

theorem getReservation_iff (h : Tracks K nodeID events n) (hPlaced : Placed K vols events n)
    (hVols : ∀ vol ∈ vols, vol ∈ events.filterMap asVolume) {id : String} {r : Reservation} :
    n.getReservation id = some r ↔ ∃ pvc ∈ events.filterMap asPvc, ¬ HasVolume vols pvc ∧
      newPvcReservation K pvc = some r ∧ pvc.namespacedName = id := by
  constructor
  · intro hr
    obtain ⟨pvc, hPvc, hNew, hKey⟩ := h.origin_key hr
    refine ⟨pvc, hPvc, ?_, hNew, hKey⟩
    rintro ⟨vol, hVol, hId⟩
    have hBound : id ∈ n.boundIDs := by
      rw [Node.boundIDs, h.volumes, List.mem_map]
      exact ⟨vol, hVols vol hVol, hId.trans hKey⟩
    rw [h.unbound id hBound] at hr
    cases hr
  · rintro ⟨pvc, hPvc, hVolume, hNew, rfl⟩
    rw [hPlaced pvc hPvc hVolume, hNew]

theorem poolAfter_perm (hPerm : events.Perm other) (hPools : (events.filterMap asPool).length ≤ 1) :
    poolAfter K nodeID events = poolAfter K nodeID other := by
  have hPoolsPerm := hPerm.filterMap asPool
  have hEq : events.filterMap asPool = other.filterMap asPool := by
    cases hList : events.filterMap asPool with
    | nil =>
      rw [hList] at hPoolsPerm
      exact hPoolsPerm.symm.eq_nil.symm
    | cons pool rest =>
      rw [hList] at hPools hPoolsPerm
      obtain rfl : rest = [] := List.eq_nil_of_length_eq_zero (by simpa using hPools)
      exact (List.perm_singleton.mp hPoolsPerm.symm).symm
  rw [poolAfter, hEq, poolAfter]

theorem sameNode_of_reservations {m : Node} (h : Tracks K nodeID events n) (hm : Tracks K nodeID other m)
    (hPerm : events.Perm other) (hPools : (events.filterMap asPool).length ≤ 1)
    (hReservations : n.resvSet = m.resvSet) : SameNode n m := by
  have hVolumes : n.volumes.Perm m.volumes := by
    rw [h.volumes, hm.volumes]
    exact hPerm.filterMap asVolume
  have hPool : n.pool = m.pool := by
    rw [h.pool, hm.pool, poolAfter_perm hPerm hPools]
  refine ⟨hVolumes, hReservations, ?_⟩
  rw [h.cache, hm.cache]
  apply Node.free_congr hPool
  rw [h.unbound.charges_eq, hm.unbound.charges_eq, Node.reservedBytes, hPool, hReservations,
    Node.volumeBytes, (hVolumes.map _).sum_eq, Node.reservedBytes, Node.volumeBytes]

/-- Against an order in which every claim fits, an order leaves the same node
exactly when every claim fits in it too. -/
theorem sameNode_iff (hWell : WellPosed K nodeID vols events) (hPerm : events.Perm other)
    (hPools : (events.filterMap asPool).length ≤ 1)
    (hVols : ∀ vol ∈ vols, vol ∈ events.filterMap asVolume)
    (hOther : Runs.Guarded (nodeStep K) (Fits K vols) (placeholder nodeID) other) :
    SameNode (Runs.run (nodeStep K) (placeholder nodeID) events)
        (Runs.run (nodeStep K) (placeholder nodeID) other) ↔
      Runs.Guarded (nodeStep K) (Fits K vols) (placeholder nodeID) events := by
  have hStart : Placed K vols [] (placeholder nodeID) := by
    intro pvc hPvc
    cases hPvc
  have hTracks : Tracks K nodeID events (Runs.run (nodeStep K) (placeholder nodeID) events) :=
    (tracks_placeholder K nodeID).run hWell
  have hOtherTracks : Tracks K nodeID other (Runs.run (nodeStep K) (placeholder nodeID) other) :=
    (tracks_placeholder K nodeID).run (hWell.perm hPerm)
  have hIff : Placed K vols events (Runs.run (nodeStep K) (placeholder nodeID) events) ↔
      Runs.Guarded (nodeStep K) (Fits K vols) (placeholder nodeID) events :=
    placed_iff_guarded (tracks_placeholder K nodeID) hWell hStart
  have hOtherPlaced : Placed K vols other (Runs.run (nodeStep K) (placeholder nodeID) other) :=
    (placed_iff_guarded (tracks_placeholder K nodeID) (hWell.perm hPerm) hStart).mpr hOther
  rw [← hIff]
  constructor
  · intro hSame pvc hPvc hVolume
    have hPvcOther : pvc ∈ other.filterMap asPvc := (hPerm.filterMap _).mem_iff.mp hPvc
    rw [← hOtherPlaced pvc hPvcOther hVolume, Node.getReservation, hSame.reservations]
    rfl
  · intro hPlaced
    refine sameNode_of_reservations hTracks hOtherTracks hPerm hPools ?_
    have hOtherVols : ∀ vol ∈ vols, vol ∈ other.filterMap asVolume := fun vol hVol =>
      (hPerm.filterMap _).mem_iff.mp (hVols vol hVol)
    ext id r
    change Node.getReservation _ id = some r ↔ Node.getReservation _ id = some r
    rw [getReservation_iff hTracks hPlaced hVols, getReservation_iff hOtherTracks hOtherPlaced hOtherVols]
    simp only [(hPerm.filterMap asPvc).mem_iff]

def openRequests (K : Kube) (vols : List AntstorVolume) (pvcs : List PersistentVolumeClaim) : ℤ :=
  ((pvcs.filter fun pvc => ¬ HasVolume vols pvc).map fun pvc => pvc.requestBytes K).sum

theorem openRequests_nonneg {pvcs : List PersistentVolumeClaim}
    (h : ∀ pvc ∈ pvcs, 0 ≤ pvc.requestBytes K) : 0 ≤ openRequests K vols pvcs := by
  apply List.sum_nonneg
  intro size hSize
  obtain ⟨pvc, hPvc, rfl⟩ := List.mem_map.mp hSize
  exact h pvc (List.mem_of_mem_filter hPvc)

theorem capacity_sub_charges_le {n : Node} (h : n.resvSet.Nonneg) :
    storage n.pool.status.capacity - n.charges ≤ n.freeStorage := by
  have hCharges := Node.charges_nonneg h
  cases hStorage : n.hasStorage with
  | true =>
    have hLe : (int64 n.charges : ℚ) ≤ n.charges := by
      exact_mod_cast int64_le_of_nonneg hCharges
    rw [Node.freeStorage_eq hStorage]
    linarith
  | false =>
    have hCast : (0 : ℚ) ≤ n.charges := by exact_mod_cast hCharges
    have hNone : storage n.pool.status.capacity = 0 := by
      rw [Node.hasStorage, Option.isSome_eq_false_iff, Option.isNone_iff_eq_none] at hStorage
      rw [storage, hStorage]
      rfl
    rw [Node.freeStorage_of_hasStorage_eq_false hStorage, hNone]
    linarith

theorem reserve_charges_tracked (h : Tracks K nodeID done n) (hNonneg : n.resvSet.Nonneg)
    {r : Reservation} (hAccepts : ¬ n.Refuses r) : (n.reserve r).charges ≤ n.charges + r.sizeByte := by
  have hTotal := hNonneg.total_unreserve_le r.id
  rw [Node.reserve_of_not_refuses hAccepts, Node.refresh_charges,
    (unbound_reserve h hAccepts).charges_eq, h.unbound.charges_eq]
  change n.reservedBytes + n.volumeBytes + (n.resvSet.reserve r).total ≤ _
  rw [ReservationSet.total_reserve]
  omega

theorem reserve_nonneg_tracked {r : Reservation} (hNonneg : n.resvSet.Nonneg) (hr : 0 ≤ r.sizeByte) :
    (n.reserve r).resvSet.Nonneg := by
  by_cases hRefuses : n.Refuses r
  · rw [Node.reserve_of_refuses hRefuses]
    exact hNonneg
  · rw [Node.reserve_of_not_refuses hRefuses, Node.refresh_resvSet]
    exact (hNonneg.reserve hr).unreserveAll _

theorem fits_of_covered {pvc : PersistentVolumeClaim} {pvcs : List PersistentVolumeClaim} {r : Reservation}
    (h : Tracks K nodeID done n) (hNew : newPvcReservation K pvc = some r)
    (hVols : ∀ vol ∈ vols, vol ∈ done.filterMap asVolume) (hNonneg : n.resvSet.Nonneg)
    (hRequest : 0 ≤ pvc.requestBytes K) (hRest : 0 ≤ openRequests K vols pvcs)
    (hCovers : (n.charges + openRequests K vols (pvc :: pvcs) : ℚ) ≤ storage n.pool.status.capacity) :
    Fits K vols n (.pvc pvc) ∧
      (n.reserve r).charges + openRequests K vols pvcs ≤ n.charges + openRequests K vols (pvc :: pvcs) := by
  have hSize : r.sizeByte = pvc.requestBytes K := newPvcReservation_sizeByte hNew
  by_cases hVolume : HasVolume vols pvc
  · have hSame : openRequests K vols (pvc :: pvcs) = openRequests K vols pvcs := by
      simp [openRequests, hVolume]
    obtain ⟨vol, hVol, hId⟩ := hVolume
    have hRefuses : n.Refuses r := by
      refine .inl ⟨vol, ?_, ?_⟩
      · rw [h.volumes]
        exact hVols vol hVol
      · rw [newPvcReservation_id hNew, hId]
    rw [Node.reserve_of_refuses hRefuses, hSame]
    exact ⟨.inl ⟨vol, hVol, hId⟩, le_rfl⟩
  · have hMore : openRequests K vols (pvc :: pvcs) = r.sizeByte + openRequests K vols pvcs := by
      simp [openRequests, hVolume, hSize]
    have hFree : (r.sizeByte : ℚ) ≤ storage n.freeResource := by
      have hRoom := capacity_sub_charges_le hNonneg
      have hRestCast : (0 : ℚ) ≤ openRequests K vols pvcs := by exact_mod_cast hRest
      rw [hMore] at hCovers
      push_cast at hCovers
      rw [h.cache.storage_eq]
      linarith
    refine ⟨.inr ?_, ?_⟩
    · intro found hFound
      rw [hNew] at hFound
      cases hFound
      exact hFree
    · by_cases hRefuses : n.Refuses r
      · rw [Node.reserve_of_refuses hRefuses]
        omega
      · have hCharges := reserve_charges_tracked h hNonneg hRefuses
        omega

theorem guarded_pvcs {pvcs : List PersistentVolumeClaim} (h : Tracks K nodeID done n)
    (hWell : WellPosed K nodeID vols (done ++ pvcs.map Event.pvc))
    (hVols : ∀ vol ∈ vols, vol ∈ done.filterMap asVolume) (hNonneg : n.resvSet.Nonneg)
    (hSizes : ∀ pvc ∈ pvcs, 0 ≤ pvc.requestBytes K)
    (hCovers : (n.charges + openRequests K vols pvcs : ℚ) ≤ storage n.pool.status.capacity) :
    Runs.Guarded (nodeStep K) (Fits K vols) n (pvcs.map Event.pvc) := by
  induction pvcs generalizing done n with
  | nil => trivial
  | cons pvc pvcs ih =>
    obtain ⟨r, hNew⟩ := hWell.alive pvc (by simp)
    have hStep : nodeStep K n (.pvc pvc) = n.reserve r := by rw [nodeStep, hNew]
    have hSizesRest : ∀ other ∈ pvcs, 0 ≤ other.requestBytes K := fun other hOther =>
      hSizes other (List.mem_cons_of_mem pvc hOther)
    obtain ⟨hFits, hCharges⟩ :=
      fits_of_covered h hNew hVols hNonneg (hSizes pvc List.mem_cons_self)
        (openRequests_nonneg hSizesRest) hCovers
    refine ⟨hFits, ih (h.next hWell) (by simpa using hWell) (by simpa using hVols) ?_ hSizesRest ?_⟩
    · rw [hStep]
      exact reserve_nonneg_tracked hNonneg (newPvcReservation_sizeByte hNew ▸ hSizes pvc List.mem_cons_self)
    · rw [hStep, Node.reserve_pool]
      have hCast : (((n.reserve r).charges + openRequests K vols pvcs : ℤ) : ℚ) ≤
          ((n.charges + openRequests K vols (pvc :: pvcs) : ℤ) : ℚ) := by
        exact_mod_cast hCharges
      push_cast at hCast
      exact hCast.trans hCovers

end

end Handler

end Liteio
