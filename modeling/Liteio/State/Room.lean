import Liteio.State.Store

/-! # Room on a node

A node has room for a number of bytes when its capacity covers the charges and
that much more. The invariant of a node that is not overcommitted is room for
nothing more, with a cache that does not promise more than there is; each
mutator keeps it, given the room that the mutator takes.
-/

namespace Liteio

open MachineInt

namespace Node

/-- The capacity covers the charges and `size` more. A capacity outside the
range of `int64` always exceeds the wrapped sum. -/
def HasRoom (n : Node) (size : ℤ) : Prop :=
  n.hasStorage = true → 2 ^ 63 - 1 ≤ storage n.pool.status.capacity ∨
    (n.charges + size : ℚ) ≤ storage n.pool.status.capacity

def CacheSafe (n : Node) : Prop :=
  n.hasStorage = true → 2 ^ 63 - 1 ≤ storage n.pool.status.capacity ∨
    storage n.freeResource ≤ storage n.pool.status.capacity - n.charges

structure WellFormed (n : Node) : Prop where
  names : n.NamesDistinct
  settled : n.Settled
  nonneg : n.resvSet.Nonneg

structure Sound (n : Node) : Prop extends n.WellFormed where
  room : n.HasRoom 0
  cache : n.CacheSafe

theorem volumeBytes_nonneg (n : Node) : 0 ≤ n.volumeBytes := by
  apply List.sum_nonneg
  intro size hSize
  obtain ⟨vol, _, rfl⟩ := List.mem_map.mp hSize
  exact Int.natCast_nonneg _

theorem reservedBytes_nonneg (n : Node) : 0 ≤ n.reservedBytes := by
  apply List.sum_nonneg
  intro size hSize
  obtain ⟨item, _, rfl⟩ := List.mem_map.mp hSize
  exact Int.natCast_nonneg _

theorem charges_nonneg {n : Node} (h : n.resvSet.Nonneg) : 0 ≤ n.charges := by
  have hVolumes := n.volumeBytes_nonneg
  have hReserved := n.reservedBytes_nonneg
  have hOpen := (h.unreserveAll n.boundIDs).total_nonneg
  rw [charges, openBytes_eq_total]
  omega

theorem Settled.openBytes_eq {n : Node} (h : n.Settled) (hStorage : n.hasStorage = true) :
    n.openBytes = n.resvSet.total := by
  rw [openBytes_eq_total, ← volResvIDs_eq hStorage, ReservationSet.unreserveAll_of_forall h]

theorem freeStorage_of_room {n : Node} (hNonneg : n.resvSet.Nonneg) (hStorage : n.hasStorage = true)
    (hRoom : n.HasRoom 0) (hCapacity : storage n.pool.status.capacity < 2 ^ 63 - 1) :
    n.freeStorage = storage n.pool.status.capacity - n.charges := by
  have hCharges : (n.charges : ℚ) ≤ storage n.pool.status.capacity := by
    rcases hRoom hStorage with hBig | hFits
    · exact absurd hBig (not_le.mpr hCapacity)
    · simpa using hFits
  have hUpper : n.charges < 2 ^ 63 - 1 := by
    have hCast : (n.charges : ℚ) < ((2 ^ 63 - 1 : ℤ) : ℚ) := by
      push_cast
      linarith
    exact_mod_cast hCast
  rw [freeStorage_eq hStorage, int64_of_nonneg_of_le (charges_nonneg hNonneg) hUpper.le (by norm_num)]

theorem freeStorage_nonneg_of_room {n : Node} (hNonneg : n.resvSet.Nonneg) (hRoom : n.HasRoom 0) :
    0 ≤ n.freeStorage := by
  cases hStorage : n.hasStorage with
  | false => rw [freeStorage_of_hasStorage_eq_false hStorage]
  | true =>
    by_cases hCapacity : storage n.pool.status.capacity < 2 ^ 63 - 1
    · rw [freeStorage_of_room hNonneg hStorage hRoom hCapacity]
      rcases hRoom hStorage with hBig | hFits
      · exact absurd hBig (not_le.mpr hCapacity)
      · push_cast at hFits
        linarith
    · have hRange := (int64_inInt64 n.charges).2
      have hCast : ((int64 n.charges : ℤ) : ℚ) ≤ ((2 ^ 63 - 1 : ℤ) : ℚ) := by
        exact_mod_cast (by omega : int64 n.charges ≤ 2 ^ 63 - 1)
      rw [freeStorage_eq hStorage]
      push_cast at hCast
      linarith [not_lt.mp hCapacity]

theorem hasRoom_of_le_freeStorage {n : Node} {size : ℤ} (h : n.Sound) (hSize : (size : ℚ) ≤ n.freeStorage) :
    n.HasRoom size := by
  intro hStorage
  by_cases hCapacity : storage n.pool.status.capacity < 2 ^ 63 - 1
  · rw [freeStorage_of_room h.nonneg hStorage h.room hCapacity] at hSize
    exact .inr (by linarith)
  · exact .inl (not_lt.mp hCapacity)

theorem WellFormed.sound {n : Node} (h : n.WellFormed) (hRange : InInt64 n.charges)
    (hFree : 0 ≤ n.freeStorage) (hCache : storage n.freeResource ≤ n.freeStorage) : n.Sound where
  toWellFormed := h
  room := by
    intro hStorage
    rw [freeStorage_eq hStorage, int64_of_inInt64 hRange] at hFree
    push_cast
    exact .inr (by linarith)
  cache := by
    intro hStorage
    rw [freeStorage_eq hStorage, int64_of_inInt64 hRange] at hCache
    exact .inr hCache

theorem HasRoom.of_charges_le {n n' : Node} {size more : ℤ} (h : n.HasRoom more)
    (hPool : n'.pool = n.pool)
    (hCharges : n.hasStorage = true → n'.charges + size ≤ n.charges + more) : n'.HasRoom size := by
  intro hStorage
  rw [hasStorage_congr hPool] at hStorage
  rw [hPool]
  rcases h hStorage with hBig | hFits
  · exact .inl hBig
  · have hCast : ((n'.charges + size : ℤ) : ℚ) ≤ ((n.charges + more : ℤ) : ℚ) := by
      exact_mod_cast hCharges hStorage
    push_cast at hCast
    exact .inr (hCast.trans hFits)

theorem CacheExact.cacheSafe {n : Node} (h : n.CacheExact) (hNonneg : n.resvSet.Nonneg)
    (hRoom : n.HasRoom 0) : n.CacheSafe := by
  intro hStorage
  by_cases hCapacity : storage n.pool.status.capacity < 2 ^ 63 - 1
  · rw [h.storage_eq, freeStorage_of_room hNonneg hStorage hRoom hCapacity]
    exact .inr le_rfl
  · exact .inl (not_lt.mp hCapacity)

theorem charges_le {n n' : Node} {more : ℤ} (hSettled : n.Settled) (hStorage : n.hasStorage = true)
    (hPool : n'.pool = n.pool) (hNonneg : n'.resvSet.Nonneg)
    (hBytes : n'.volumeBytes + n'.resvSet.total ≤ n.volumeBytes + n.resvSet.total + more) :
    n'.charges ≤ n.charges + more := by
  have hReserved : n'.reservedBytes = n.reservedBytes := by rw [reservedBytes, hPool, reservedBytes]
  have hOpen : n'.openBytes ≤ n'.resvSet.total := by
    rw [openBytes_eq_total]
    exact hNonneg.total_unreserveAll_le n'.boundIDs
  rw [charges, charges, hReserved, hSettled.openBytes_eq hStorage]
  omega

theorem wellFormed_refresh {m : Node} (hNames : m.NamesDistinct) (hNonneg : m.resvSet.Nonneg) :
    m.refresh.WellFormed :=
  ⟨hNames, settled_refresh m, hNonneg.unreserveAll m.volResvIDs⟩

theorem sound_refresh {n m : Node} {size : ℤ} (hRoom : n.HasRoom size) (hPool : m.pool = n.pool)
    (hNames : m.NamesDistinct) (hNonneg : m.resvSet.Nonneg)
    (hCharges : n.hasStorage = true → m.charges ≤ n.charges + size) : m.refresh.Sound := by
  have hWellFormed := wellFormed_refresh hNames hNonneg
  have hRoom' : m.refresh.HasRoom 0 := by
    refine hRoom.of_charges_le hPool ?_
    intro hStorage
    rw [refresh_charges, add_zero]
    exact hCharges hStorage
  exact
    { hWellFormed with
      room := hRoom'
      cache := m.cacheExact_refresh.cacheSafe hWellFormed.nonneg hRoom' }

theorem dropReservation_nonneg {n : Node} (h : n.resvSet.Nonneg) (vol : AntstorVolume) :
    (n.dropReservation vol).resvSet.Nonneg := by
  unfold dropReservation
  split
  · exact h.unreserve _
  · exact h

theorem dropReservation_total_le {n : Node} (h : n.resvSet.Nonneg) (vol : AntstorVolume) :
    (n.dropReservation vol).resvSet.total ≤ n.resvSet.total := by
  unfold dropReservation
  split
  · exact h.total_unreserve_le _
  · exact le_rfl

theorem dropReservation_settled {n : Node} (h : n.Settled) (vol : AntstorVolume) :
    (n.dropReservation vol).Settled := by
  unfold dropReservation
  split
  · intro id hId
    rw [getReservation, ReservationSet.getById_unreserve]
    split
    · rfl
    · exact h id hId
  · exact h

theorem dropReservation_volumeBytes (n : Node) (vol : AntstorVolume) :
    (n.dropReservation vol).volumeBytes = n.volumeBytes := by
  rw [volumeBytes, dropReservation_volumes, volumeBytes]

theorem dropReservation_charges_le {n : Node} (h : n.WellFormed) (vol : AntstorVolume)
    (hStorage : n.hasStorage = true) : (n.dropReservation vol).charges ≤ n.charges + 0 := by
  refine charges_le h.settled hStorage (n.dropReservation_pool vol) (dropReservation_nonneg h.nonneg vol) ?_
  have hTotal := dropReservation_total_le h.nonneg vol
  rw [dropReservation_volumeBytes]
  omega

theorem wellFormed_dropReservation {n : Node} (h : n.WellFormed) (vol : AntstorVolume) :
    (n.dropReservation vol).WellFormed where
  names := by
    rw [NamesDistinct, dropReservation_volumes]
    exact h.names
  settled := dropReservation_settled h.settled vol
  nonneg := dropReservation_nonneg h.nonneg vol

theorem sound_dropReservation {n : Node} (h : n.Sound) (vol : AntstorVolume) :
    (n.dropReservation vol).Sound where
  toWellFormed := wellFormed_dropReservation h.toWellFormed vol
  room := by
    refine h.room.of_charges_le (n.dropReservation_pool vol) ?_
    intro hStorage
    have hLe := dropReservation_charges_le h.toWellFormed vol hStorage
    omega
  cache := by
    intro hStorage
    rw [hasStorage_congr (n.dropReservation_pool vol)] at hStorage
    rw [dropReservation_pool, dropReservation_freeResource]
    rcases h.cache hStorage with hBig | hCache
    · exact .inl hBig
    · have hLe : ((n.dropReservation vol).charges : ℚ) ≤ n.charges := by
        exact_mod_cast (dropReservation_charges_le h.toWellFormed vol hStorage).trans_eq (add_zero _)
      exact .inr (by linarith)

theorem wellFormed_addVolume {n : Node} (vol : AntstorVolume) (h : n.WellFormed) :
    (n.addVolume vol).1.WellFormed := by
  have hNames := namesDistinct_addVolume vol h.names
  have hNonneg := dropReservation_nonneg h.nonneg vol
  rcases n.addVolume_cases vol h.names with ⟨_, hEq⟩ | ⟨_, _, _, _, _, _, hEq⟩ | ⟨_, _, _, _, hEq⟩
  · rw [hEq] at hNames ⊢
    exact wellFormed_refresh hNames hNonneg
  · rw [hEq] at hNames ⊢
    exact wellFormed_refresh hNames hNonneg
  · rw [hEq]
    exact wellFormed_dropReservation h vol

theorem sound_withVolumes {n : Node} {vol : AntstorVolume} {volumes : List AntstorVolume} (h : n.Sound)
    (hRoom : n.HasRoom vol.getTotalSize)
    (hNames : (Node.refresh { n.dropReservation vol with volumes := volumes }).NamesDistinct)
    (hBytes : Node.volumeBytes { n.dropReservation vol with volumes := volumes } ≤
      n.volumeBytes + vol.getTotalSize) :
    (Node.refresh { n.dropReservation vol with volumes := volumes }).Sound := by
  have hTotal := dropReservation_total_le h.nonneg vol
  have hNonneg := dropReservation_nonneg h.nonneg vol
  refine sound_refresh hRoom (n.dropReservation_pool vol) hNames hNonneg ?_
  intro hStorage
  refine charges_le h.settled hStorage (n.dropReservation_pool vol) hNonneg ?_
  change _ + (n.dropReservation vol).resvSet.total ≤ _
  omega

theorem sound_addVolume {n : Node} {vol : AntstorVolume} (h : n.Sound)
    (hRoom : n.HasRoom vol.getTotalSize) : (n.addVolume vol).1.Sound := by
  have hNames := namesDistinct_addVolume vol h.names
  rcases n.addVolume_cases vol h.names with
    ⟨_, hEq⟩ | ⟨before, old, after, hSplit, _, _, hEq⟩ | ⟨_, _, _, _, hEq⟩
  · rw [hEq] at hNames ⊢
    refine sound_withVolumes h hRoom hNames ?_
    simp [volumeBytes]
  · rw [hEq] at hNames ⊢
    refine sound_withVolumes h hRoom hNames ?_
    have hBytes : Node.volumeBytes
        { n.dropReservation vol with volumes := before ++ n.resident vol :: after } =
          n.volumeBytes + vol.getTotalSize - old.getTotalSize := by
      simp [volumeBytes, hSplit]
      ring
    omega
  · rw [hEq]
    exact sound_dropReservation h vol

theorem volumeBytes_eraseP_le (n : Node) (p : AntstorVolume → Bool) :
    Node.volumeBytes { n with volumes := n.volumes.eraseP p } ≤ n.volumeBytes := by
  apply List.Sublist.sum_le_sum
  · exact List.eraseP_sublist.map _
  · intro size hSize
    obtain ⟨vol, _, rfl⟩ := List.mem_map.mp hSize
    exact Int.natCast_nonneg _

theorem wellFormed_removeVolumeByID {n : Node} (volID : String) (h : n.WellFormed) :
    (n.removeVolumeByID volID).WellFormed := by
  unfold removeVolumeByID
  split
  · exact wellFormed_refresh (h.names.sublist (List.eraseP_sublist.map _)) h.nonneg
  · exact h

structure Releases (n n' : Node) : Prop where
  sound : n'.Sound
  pool : n'.pool = n.pool
  charges : n.hasStorage = true → n'.charges ≤ n.charges + 0

theorem Releases.refl {n : Node} (h : n.Sound) : n.Releases n := ⟨h, rfl, fun _ => by omega⟩

theorem Releases.hasRoom {n n' : Node} (h : n.Releases n') {size : ℤ} (hRoom : n.HasRoom size) :
    n'.HasRoom size := by
  refine hRoom.of_charges_le h.pool ?_
  intro hStorage
  have hLe := h.charges hStorage
  omega

theorem Releases.of_refresh {n m : Node} (h : n.Sound) (hPool : m.pool = n.pool) (hNames : m.NamesDistinct)
    (hNonneg : m.resvSet.Nonneg)
    (hBytes : m.volumeBytes + m.resvSet.total ≤ n.volumeBytes + n.resvSet.total) : n.Releases m.refresh := by
  have hCharges : n.hasStorage = true → m.charges ≤ n.charges + 0 := fun hStorage =>
    charges_le h.settled hStorage hPool hNonneg (by omega)
  refine ⟨sound_refresh h.room hPool hNames hNonneg hCharges, hPool, fun hStorage => ?_⟩
  rw [refresh_charges]
  exact hCharges hStorage

theorem removeVolumeByID_releases {n : Node} (h : n.Sound) (volID : String) :
    n.Releases (n.removeVolumeByID volID) := by
  unfold removeVolumeByID
  split
  · refine .of_refresh h rfl (h.names.sublist (List.eraseP_sublist.map _)) h.nonneg ?_
    have hBytes := n.volumeBytes_eraseP_le (fun item => item.spec.uuid = volID)
    change _ + n.resvSet.total ≤ _
    omega
  · exact .refl h

theorem unreserve_releases {n : Node} (h : n.Sound) (id : String) : n.Releases (n.unreserve id) := by
  refine .of_refresh h rfl h.names (h.nonneg.unreserve id) ?_
  have hTotal := h.nonneg.total_unreserve_le id
  change n.volumeBytes + (n.resvSet.unreserve id).total ≤ _
  omega

def Refuses (n : Node) (r : Reservation) : Prop :=
  (∃ vol ∈ n.volumes, r.id = getVolumeReservationID vol) ∨ storage n.freeResource < r.sizeByte

instance (n : Node) (r : Reservation) : Decidable (n.Refuses r) := inferInstanceAs (Decidable (_ ∨ _))

theorem reserve_of_refuses {n : Node} {r : Reservation} (h : n.Refuses r) : n.reserve r = n := by
  unfold reserve
  rcases h with ⟨vol, hVol, hId⟩ | hSize
  · rw [if_pos (List.any_eq_true.mpr ⟨vol, hVol, decide_eq_true hId⟩)]
  · rw [if_pos hSize, ite_self]

theorem reserve_of_not_refuses {n : Node} {r : Reservation} (h : ¬ n.Refuses r) :
    n.reserve r = refresh { n with resvSet := n.resvSet.reserve r } := by
  unfold reserve
  rw [if_neg, if_neg fun hSize => h (.inr hSize)]
  intro hAny
  obtain ⟨vol, hVol, hId⟩ := List.any_eq_true.mp hAny
  exact h (.inl ⟨vol, hVol, of_decide_eq_true hId⟩)

theorem wellFormed_reserve {n : Node} (h : n.WellFormed) {r : Reservation} (hr : 0 ≤ r.sizeByte) :
    (n.reserve r).WellFormed := by
  by_cases hRefuses : n.Refuses r
  · rw [reserve_of_refuses hRefuses]
    exact h
  · rw [reserve_of_not_refuses hRefuses]
    exact wellFormed_refresh h.names (h.nonneg.reserve hr)

theorem reserve_charges_le {n : Node} (h : n.WellFormed) {r : Reservation} (hr : 0 ≤ r.sizeByte)
    (hStorage : n.hasStorage = true) :
    Node.charges { n with resvSet := n.resvSet.reserve r } ≤ n.charges + r.sizeByte := by
  refine charges_le h.settled hStorage rfl (h.nonneg.reserve hr) ?_
  have hTotal := h.nonneg.total_unreserve_le r.id
  change n.volumeBytes + (n.resvSet.reserve r).total ≤ _
  rw [ReservationSet.total_reserve]
  omega

theorem unreserve_getReservation (n : Node) (removed id : String) :
    (n.unreserve removed).getReservation id =
      if id = removed ∨ id ∈ n.volResvIDs then none else n.getReservation id := by
  change ((n.resvSet.unreserve removed).unreserveAll n.volResvIDs).getById id = _
  rw [ReservationSet.getById_unreserveAll, ReservationSet.getById_unreserve]
  by_cases hBound : id ∈ n.volResvIDs
  · simp [hBound]
  · by_cases hRemoved : id = removed
    · simp [hRemoved]
    · simp [hBound, hRemoved, getReservation]

theorem reserve_volResvIDs {n : Node} {r : Reservation} (h : ¬ n.Refuses r) :
    r.id ∉ (n.reserve r).volResvIDs := by
  intro hBound
  rw [volResvIDs, hasStorage_congr (n.reserve_pool r), reserve_volumes, ← volResvIDs] at hBound
  obtain ⟨vol, hVol, hId⟩ := List.mem_map.mp (n.volResvIDs_subset hBound)
  exact h (.inl ⟨vol, hVol, hId.symm⟩)

theorem reserve_getReservation_self {n : Node} {r : Reservation} (h : n.getReservation r.id = none) :
    (n.reserve r).getReservation r.id = none ↔ n.Refuses r := by
  by_cases hRefuses : n.Refuses r
  · rw [reserve_of_refuses hRefuses]
    exact iff_of_true h hRefuses
  · refine iff_of_false ?_ hRefuses
    rw [reserve_of_not_refuses hRefuses]
    change ((n.resvSet.reserve r).unreserveAll n.volResvIDs).getById r.id ≠ none
    rw [ReservationSet.getById_unreserveAll, if_pos, ReservationSet.getById_reserve, if_pos rfl]
    · simp
    · intro hBound
      obtain ⟨vol, hVol, hId⟩ := List.mem_map.mp (n.volResvIDs_subset hBound)
      exact hRefuses (.inl ⟨vol, hVol, hId.symm⟩)

theorem sound_reserve {n : Node} (h : n.Sound) {r : Reservation} (hr : 0 ≤ r.sizeByte) :
    (n.reserve r).Sound := by
  by_cases hRefuses : n.Refuses r
  · rw [reserve_of_refuses hRefuses]
    exact h
  · rw [reserve_of_not_refuses hRefuses]
    have hRoom : n.HasRoom r.sizeByte := by
      intro hStorage
      have hSize : (r.sizeByte : ℚ) ≤ storage n.freeResource := by
        rw [Refuses, not_or, not_lt] at hRefuses
        exact hRefuses.2
      rcases h.cache hStorage with hBig | hCache
      · exact .inl hBig
      · exact .inr (by linarith)
    exact sound_refresh hRoom rfl h.names (h.nonneg.reserve hr) (reserve_charges_le h.toWellFormed hr)

theorem reserve_hasRoom {n : Node} (h : n.Sound) {r : Reservation} (hr : 0 ≤ r.sizeByte) {size : ℤ}
    (hRoom : n.HasRoom size) (hFits : n.Refuses r ∨ (r.sizeByte + size : ℚ) ≤ n.freeStorage) :
    (n.reserve r).HasRoom size := by
  by_cases hRefuses : n.Refuses r
  · rw [reserve_of_refuses hRefuses]
    exact hRoom
  · rw [reserve_of_not_refuses hRefuses]
    have hBoth : n.HasRoom (r.sizeByte + size) := by
      apply hasRoom_of_le_freeStorage h
      push_cast
      exact hFits.resolve_left hRefuses
    refine hBoth.of_charges_le rfl ?_
    intro hStorage
    have hLe := reserve_charges_le h.toWellFormed hr hStorage
    rw [refresh_charges]
    omega

end Node

namespace State

def ReservesNonneg : Action → Prop
  | .reserve _ r => 0 ≤ r.sizeByte
  | _ => True

instance : DecidablePred ReservesNonneg
  | .reserve _ r => inferInstanceAs (Decidable (0 ≤ r.sizeByte))
  | .setStoragePool _ | .bindAntstorVolume _ _ | .unbindAntstorVolume _ | .unreserve _ _
  | .handleDeletion _ => isTrue trivial

theorem wellFormed_step (K : Kube) (s : State) (a : Action) (h : s.AllNodes Node.WellFormed)
    (hNonneg : ReservesNonneg a) : (s.step K a).AllNodes Node.WellFormed := by
  apply allNodes_step h
  · intro pool
    exact Node.wellFormed_refresh List.nodup_nil ReservationSet.nonneg_empty
  · intro node pool hNode
    exact Node.wellFormed_refresh hNode.names hNode.nonneg
  · intro _ vol node _ _ _ hNode
    exact Node.wellFormed_addVolume vol hNode
  · intro node volID hNode
    exact Node.wellFormed_removeVolumeByID volID hNode
  · rintro _ r node rfl _ hNode
    exact Node.wellFormed_reserve hNode hNonneg
  · intro node id hNode
    exact Node.wellFormed_refresh hNode.names (hNode.nonneg.unreserve id)

/-- Every state that non-negative reservations lead to is well formed. -/
theorem wellFormed_run (K : Kube) (actions : List Action)
    (h : Runs.Guarded (step K) (fun _ => ReservesNonneg) newState actions) :
    (run K actions).AllNodes Node.WellFormed :=
  (h.always (allNodes_newState _) (wellFormed_step K)).run

end State

end Liteio
