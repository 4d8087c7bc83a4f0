import Liteio.State.Node
import Mathlib.Algebra.Order.BigOperators.Group.Multiset

/-! # The ledger of a node

What a node owes its volumes, reservations and reserved logical volumes is one
exact sum, `charges`. The recomputation loop of the source is the capacity
minus that sum in 64-bit arithmetic, and each mutator moves the sum by an
amount that can be read off its arguments.
-/

namespace Liteio

open MachineInt

namespace ReservationSet

def total (rs : ReservationSet) : ℤ := (rs.items.map Reservation.sizeByte).sum

def sizeAt (rs : ReservationSet) (id : String) : ℤ := ((rs.getById id).map Reservation.sizeByte).getD 0

theorem sizeAt_of_getById {rs : ReservationSet} {id : String} {r : Reservation}
    (h : rs.getById id = some r) : rs.sizeAt id = r.sizeByte := by
  rw [sizeAt, h]
  rfl

theorem sizeAt_of_getById_eq_none {rs : ReservationSet} {id : String} (h : rs.getById id = none) :
    rs.sizeAt id = 0 := by
  rw [sizeAt, h]
  rfl

theorem total_reserve (rs : ReservationSet) (r : Reservation) :
    (rs.reserve r).total = r.sizeByte + (rs.unreserve r.id).total := by
  rw [total, items, reserve, FiniteMap.values_insert, Multiset.map_cons, Multiset.sum_cons]
  rfl

theorem unreserve_of_getById_eq_none {rs : ReservationSet} {id : String} (h : rs.getById id = none) :
    rs.unreserve id = rs := by
  ext1 other
  exact congrArg (Finmap.lookup other) (FiniteMap.erase_of_lookup_eq_none h)

theorem total_unreserve (rs : ReservationSet) (id : String) :
    (rs.unreserve id).total = rs.total - rs.sizeAt id := by
  cases h : rs.getById id with
  | none => rw [unreserve_of_getById_eq_none h, sizeAt_of_getById_eq_none h, sub_zero]
  | some r =>
    have hValues : rs.items = r ::ₘ (rs.unreserve id).items := FiniteMap.values_of_lookup h
    rw [sizeAt_of_getById h, total, total, hValues, Multiset.map_cons, Multiset.sum_cons,
      add_sub_cancel_left]

theorem items_unreserveAll (rs : ReservationSet) (ids : List String) :
    (rs.unreserveAll ids).items = rs.items.filter (fun r => r.id ∉ ids) := by
  have hKeys : ∀ e ∈ rs.rMap.entries, (e.1 ∉ ids ↔ e.2.id ∉ ids) := by
    intro e he
    rw [rs.keyed e.1 e.2 (Finmap.lookup_eq_some_iff.mpr he)]
  change (rs.rMap.entries.filter (fun e => e.1 ∉ ids)).map (fun e => e.2) = _
  rw [items, FiniteMap.values, Multiset.filter_map, Multiset.filter_congr hKeys]
  rfl

theorem unreserveAll_of_forall {rs : ReservationSet} {ids : List String}
    (h : ∀ id ∈ ids, rs.getById id = none) : rs.unreserveAll ids = rs := by
  ext1 id
  change (rs.unreserveAll ids).getById id = rs.getById id
  rw [getById_unreserveAll]
  split
  · rfl
  · rename_i hMem
    exact (h id (not_not.mp hMem)).symm

theorem getById_unreserveAll_eq_none {rs : ReservationSet} {ids : List String} {id : String}
    (h : id ∈ ids) : (rs.unreserveAll ids).getById id = none := by
  rw [getById_unreserveAll, if_neg (not_not.mpr h)]

theorem unreserveAll_unreserve (rs : ReservationSet) (ids : List String) (id : String) :
    (rs.unreserve id).unreserveAll ids = (rs.unreserveAll ids).unreserve id := by
  ext1 other
  change ((rs.unreserve id).unreserveAll ids).getById other =
    ((rs.unreserveAll ids).unreserve id).getById other
  rw [getById_unreserveAll, getById_unreserve, getById_unreserve, getById_unreserveAll]
  split <;> split <;> rfl

theorem unreserveAll_append (rs : ReservationSet) (ids : List String) (id : String) :
    rs.unreserveAll (ids ++ [id]) = (rs.unreserveAll ids).unreserve id := by
  ext1 other
  change (rs.unreserveAll (ids ++ [id])).getById other = ((rs.unreserveAll ids).unreserve id).getById other
  rw [getById_unreserveAll, getById_unreserve, getById_unreserveAll]
  by_cases hOther : other = id <;> simp [hOther]

def Nonneg (rs : ReservationSet) : Prop := ∀ r ∈ rs.items, 0 ≤ r.sizeByte

theorem nonneg_iff {rs : ReservationSet} :
    rs.Nonneg ↔ ∀ id r, rs.getById id = some r → 0 ≤ r.sizeByte := by
  constructor
  · intro h id r hr
    apply h
    rw [mem_items, id_of_getById hr]
    exact hr
  · intro h r hr
    exact h r.id r (mem_items.mp hr)

theorem nonneg_empty : empty.Nonneg := by
  rw [nonneg_iff]
  intro id r hr
  cases hr

theorem Nonneg.unreserveAll {rs : ReservationSet} (h : rs.Nonneg) (ids : List String) :
    (rs.unreserveAll ids).Nonneg := by
  intro r hr
  rw [items_unreserveAll] at hr
  exact h r (Multiset.mem_of_mem_filter hr)

theorem Nonneg.unreserve {rs : ReservationSet} (h : rs.Nonneg) (id : String) : (rs.unreserve id).Nonneg := by
  rw [nonneg_iff] at h ⊢
  intro other r hr
  rw [getById_unreserve] at hr
  split at hr
  · cases hr
  · exact h other r hr

theorem Nonneg.reserve {rs : ReservationSet} (h : rs.Nonneg) {r : Reservation} (hr : 0 ≤ r.sizeByte) :
    (rs.reserve r).Nonneg := by
  rw [nonneg_iff] at h ⊢
  intro other found hFound
  rw [getById_reserve] at hFound
  split at hFound
  · cases hFound
    exact hr
  · exact h other found hFound

theorem Nonneg.sizeAt_nonneg {rs : ReservationSet} (h : rs.Nonneg) (id : String) : 0 ≤ rs.sizeAt id := by
  cases hGet : rs.getById id with
  | none => rw [sizeAt_of_getById_eq_none hGet]
  | some r =>
    rw [sizeAt_of_getById hGet]
    exact nonneg_iff.mp h id r hGet

theorem Nonneg.total_nonneg {rs : ReservationSet} (h : rs.Nonneg) : 0 ≤ rs.total := by
  apply Multiset.sum_nonneg
  intro size hSize
  obtain ⟨r, hr, rfl⟩ := Multiset.mem_map.mp hSize
  exact h r hr

theorem Nonneg.total_unreserve_le {rs : ReservationSet} (h : rs.Nonneg) (id : String) :
    (rs.unreserve id).total ≤ rs.total := by
  rw [total_unreserve]
  have hSize := h.sizeAt_nonneg id
  omega

theorem Nonneg.total_unreserveAll_le {rs : ReservationSet} (h : rs.Nonneg) (ids : List String) :
    (rs.unreserveAll ids).total ≤ rs.total := by
  have hSplit := Multiset.filter_add_not (fun r : Reservation => r.id ∉ ids) rs.items
  have hRest : 0 ≤ ((rs.items.filter fun r => ¬ r.id ∉ ids).map Reservation.sizeByte).sum := by
    apply Multiset.sum_nonneg
    intro size hSize
    obtain ⟨r, hr, rfl⟩ := Multiset.mem_map.mp hSize
    exact h r (Multiset.mem_of_mem_filter hr)
  rw [total, items_unreserveAll, total]
  nth_rewrite 2 [← hSplit]
  rw [Multiset.map_add, Multiset.sum_add]
  omega

end ReservationSet

namespace Node

def reservedBytes (n : Node) : ℤ :=
  (n.pool.spec.kernelLVM.reservedLVol.map (fun item => (item.sizeByte : ℤ))).sum

def volumeBytes (n : Node) : ℤ := (n.volumes.map (fun vol => (vol.getTotalSize : ℤ))).sum

def boundIDs (n : Node) : List String := n.volumes.map getVolumeReservationID

def openReservations (n : Node) : Multiset Reservation :=
  n.resvSet.items.filter (fun r => r.id ∉ n.boundIDs)

def openBytes (n : Node) : ℤ := (n.openReservations.map Reservation.sizeByte).sum

def charges (n : Node) : ℤ := n.reservedBytes + n.volumeBytes + n.openBytes

def freeStorage (n : Node) : Quantity := storage n.getFreeResourceNonLock.1

def CacheExact (n : Node) : Prop := n.freeResource = n.getFreeResourceNonLock.1

def Settled (n : Node) : Prop := ∀ id ∈ n.volResvIDs, n.getReservation id = none

instance (n : Node) : Decidable n.CacheExact :=
  inferInstanceAs (Decidable (n.freeResource = n.getFreeResourceNonLock.1))

instance (n : Node) : Decidable n.Settled :=
  inferInstanceAs (Decidable (∀ id ∈ n.volResvIDs, n.getReservation id = none))

theorem volResvIDs_eq {n : Node} (h : n.hasStorage = true) : n.volResvIDs = n.boundIDs := by
  rw [volResvIDs, if_pos h, boundIDs]

theorem openBytes_eq_total (n : Node) : n.openBytes = (n.resvSet.unreserveAll n.boundIDs).total := by
  rw [ReservationSet.total, ReservationSet.items_unreserveAll]
  rfl

theorem toMunisBytes_eq {n : Node} (h : n.hasStorage = true) : n.toMunisBytes = int64 n.charges := by
  unfold toMunisBytes
  simp only [h, if_true, addInt64_int64]
  rw [← int64_zero, foldl_addInt64 (fun item : KernelLVol => (item.sizeByte : ℤ)),
    foldl_addInt64 (fun vol : AntstorVolume => (vol.getTotalSize : ℤ)), multiset_foldl_addInt64,
    volResvIDs_eq h, zero_add]
  rfl

theorem free_lookup {n : Node} {q : Quantity}
    (h : n.pool.status.capacity.lookup resourceDiskPoolByte = some q) :
    n.getFreeResourceNonLock.1.lookup resourceDiskPoolByte = some (q - int64 n.charges) := by
  have hStorage : n.hasStorage = true := by rw [hasStorage, h]; rfl
  unfold getFreeResourceNonLock
  simp only [h]
  rw [Finmap.lookup_insert, toMunisBytes_eq hStorage]

theorem free_of_hasStorage_eq_false {n : Node} (h : n.hasStorage = false) :
    n.getFreeResourceNonLock.1 = n.pool.status.capacity := by
  unfold getFreeResourceNonLock
  rw [hasStorage, Option.isSome_eq_false_iff, Option.isNone_iff_eq_none] at h
  simp only [h]

theorem freeStorage_eq {n : Node} (h : n.hasStorage = true) :
    n.freeStorage = storage n.pool.status.capacity - int64 n.charges := by
  obtain ⟨q, hq⟩ := Option.isSome_iff_exists.mp h
  rw [freeStorage, storage, free_lookup hq, storage, hq]
  rfl

theorem freeStorage_of_hasStorage_eq_false {n : Node} (h : n.hasStorage = false) :
    n.freeStorage = 0 := by
  rw [freeStorage, free_of_hasStorage_eq_false h, storage]
  rw [hasStorage, Option.isSome_eq_false_iff, Option.isNone_iff_eq_none] at h
  rw [h]
  rfl

theorem hasStorage_congr {a b : Node} (h : a.pool = b.pool) : a.hasStorage = b.hasStorage := by
  rw [hasStorage, hasStorage, h]

theorem free_congr {a b : Node} (hPool : a.pool = b.pool) (hCharges : a.charges = b.charges) :
    a.getFreeResourceNonLock.1 = b.getFreeResourceNonLock.1 := by
  cases h : a.hasStorage with
  | false =>
    rw [free_of_hasStorage_eq_false h, free_of_hasStorage_eq_false (hasStorage_congr hPool ▸ h), hPool]
  | true =>
    have hBytes : a.toMunisBytes = b.toMunisBytes := by
      rw [toMunisBytes_eq h, toMunisBytes_eq (hasStorage_congr hPool ▸ h), hCharges]
    unfold getFreeResourceNonLock
    rw [hPool, hBytes]

def settle (n : Node) : Node := n.getFreeResourceNonLock.2

@[simp] theorem refresh_pool (n : Node) : n.refresh.pool = n.pool := rfl

@[simp] theorem refresh_volumes (n : Node) : n.refresh.volumes = n.volumes := rfl

@[simp] theorem refresh_boundIDs (n : Node) : n.refresh.boundIDs = n.boundIDs := rfl

@[simp] theorem refresh_hasStorage (n : Node) : n.refresh.hasStorage = n.hasStorage := rfl

@[simp] theorem refresh_volResvIDs (n : Node) : n.refresh.volResvIDs = n.volResvIDs := rfl

theorem refresh_resvSet (n : Node) : n.refresh.resvSet = n.resvSet.unreserveAll n.volResvIDs := rfl

theorem volResvIDs_subset (n : Node) {id : String} (h : id ∈ n.volResvIDs) : id ∈ n.boundIDs := by
  unfold volResvIDs at h
  split at h
  · exact h
  · cases h

theorem unreserveAll_boundIDs_refresh (n : Node) :
    n.refresh.resvSet.unreserveAll n.boundIDs = n.resvSet.unreserveAll n.boundIDs := by
  ext1 id
  change (n.refresh.resvSet.unreserveAll n.boundIDs).getById id =
    (n.resvSet.unreserveAll n.boundIDs).getById id
  rw [ReservationSet.getById_unreserveAll, ReservationSet.getById_unreserveAll, refresh_resvSet,
    ReservationSet.getById_unreserveAll]
  split
  · rename_i hOpen
    rw [if_pos (fun h => hOpen (n.volResvIDs_subset h))]
  · rfl

@[simp] theorem refresh_charges (n : Node) : n.refresh.charges = n.charges := by
  rw [charges, charges, openBytes_eq_total, openBytes_eq_total, refresh_boundIDs,
    unreserveAll_boundIDs_refresh]
  rfl

@[simp] theorem refresh_freeStorage (n : Node) : n.refresh.freeStorage = n.freeStorage := by
  rw [freeStorage, free_congr n.refresh_pool n.refresh_charges, freeStorage]

@[simp] theorem settle_pool (n : Node) : n.settle.pool = n.pool := rfl

@[simp] theorem settle_volumes (n : Node) : n.settle.volumes = n.volumes := rfl

@[simp] theorem settle_boundIDs (n : Node) : n.settle.boundIDs = n.boundIDs := rfl

@[simp] theorem settle_freeResource (n : Node) : n.settle.freeResource = n.freeResource := rfl

@[simp] theorem settle_charges (n : Node) : n.settle.charges = n.charges := n.refresh_charges

@[simp] theorem settle_freeStorage (n : Node) : n.settle.freeStorage = n.freeStorage :=
  n.refresh_freeStorage

theorem cacheExact_refresh (n : Node) : n.refresh.CacheExact :=
  (free_congr n.refresh_pool n.refresh_charges).symm

theorem Settled.settle_eq {n : Node} (h : n.Settled) : n.settle = n := by
  change { n with resvSet := n.resvSet.unreserveAll n.volResvIDs } = n
  rw [ReservationSet.unreserveAll_of_forall h]

theorem settled_settle (n : Node) : n.settle.Settled := by
  intro id hId
  exact ReservationSet.getById_unreserveAll_eq_none hId

theorem settled_refresh (n : Node) : n.refresh.Settled := by
  intro id hId
  exact ReservationSet.getById_unreserveAll_eq_none hId

theorem CacheExact.storage_eq {n : Node} (h : n.CacheExact) : storage n.freeResource = n.freeStorage := by
  rw [h, freeStorage]

theorem replaceVolume_absent {vol : AntstorVolume} {items : List AntstorVolume}
    (h : ∀ item ∈ items, item.name ≠ vol.name) : replaceVolume vol items = (items, .absent) := by
  induction items with
  | nil => rfl
  | cons item items ih =>
    rw [replaceVolume, if_neg (h item List.mem_cons_self),
      ih (fun other hOther => h other (List.mem_cons_of_mem _ hOther))]

theorem replaceVolume_cases (vol : AntstorVolume) (items : List AntstorVolume)
    (hNames : (items.map (fun item => item.name)).Nodup) :
    ((∀ item ∈ items, item.name ≠ vol.name) ∧ replaceVolume vol items = (items, .absent)) ∨
    (∃ before old after, items = before ++ old :: after ∧ old.name = vol.name ∧
      old.spec.sizeByte = vol.spec.sizeByte ∧
      replaceVolume vol items = (before ++ vol :: after, .replaced)) ∨
    (∃ old ∈ items, old.name = vol.name ∧ old.spec.sizeByte ≠ vol.spec.sizeByte ∧
      replaceVolume vol items = (items, .sizeMismatch)) := by
  induction items with
  | nil => exact .inl ⟨by simp, rfl⟩
  | cons item items ih =>
    rw [List.map_cons, List.nodup_cons] at hNames
    by_cases hName : item.name = vol.name
    · have hRest : ∀ other ∈ items, other.name ≠ vol.name := by
        intro other hOther hSame
        exact hNames.1 (List.mem_map.mpr ⟨other, hOther, hSame.trans hName.symm⟩)
      by_cases hSize : item.spec.sizeByte = vol.spec.sizeByte
      · refine .inr (.inl ⟨[], item, items, rfl, hName, hSize, ?_⟩)
        rw [replaceVolume, if_pos hName, if_neg (not_not.mpr hSize), replaceVolume_absent hRest]
        rfl
      · refine .inr (.inr ⟨item, List.mem_cons_self, hName, hSize, ?_⟩)
        rw [replaceVolume, if_pos hName, if_pos hSize]
    · rcases ih hNames.2 with ⟨hAbsent, hEq⟩ | ⟨before, old, after, rfl, hOld, hSize, hEq⟩ |
          ⟨old, hMem, hOld, hSize, hEq⟩
      · refine .inl ⟨?_, by rw [replaceVolume, if_neg hName, hEq]⟩
        intro other hOther
        rcases List.mem_cons.mp hOther with rfl | hOther
        · exact hName
        · exact hAbsent other hOther
      · refine .inr (.inl ⟨item :: before, old, after, rfl, hOld, hSize, ?_⟩)
        rw [replaceVolume, if_neg hName, hEq]
        rfl
      · exact .inr (.inr ⟨old, List.mem_cons_of_mem _ hMem, hOld, hSize, by
          rw [replaceVolume, if_neg hName, hEq]⟩)

@[simp] theorem resident_name (n : Node) (vol : AntstorVolume) : (n.resident vol).name = vol.name := rfl

@[simp] theorem resident_uuid (n : Node) (vol : AntstorVolume) :
    (n.resident vol).spec.uuid = vol.spec.uuid := rfl

@[simp] theorem resident_sizeByte (n : Node) (vol : AntstorVolume) :
    (n.resident vol).spec.sizeByte = vol.spec.sizeByte := rfl

@[simp] theorem resident_getTotalSize (n : Node) (vol : AntstorVolume) :
    (n.resident vol).getTotalSize = vol.getTotalSize := rfl

@[simp] theorem resident_reservationID (n : Node) (vol : AntstorVolume) :
    getVolumeReservationID (n.resident vol) = getVolumeReservationID vol := rfl

@[simp] theorem dropReservation_pool (n : Node) (vol : AntstorVolume) :
    (n.dropReservation vol).pool = n.pool := by
  unfold dropReservation
  split <;> rfl

@[simp] theorem dropReservation_volumes (n : Node) (vol : AntstorVolume) :
    (n.dropReservation vol).volumes = n.volumes := by
  unfold dropReservation
  split <;> rfl

@[simp] theorem dropReservation_freeResource (n : Node) (vol : AntstorVolume) :
    (n.dropReservation vol).freeResource = n.freeResource := by
  unfold dropReservation
  split <;> rfl

def NamesDistinct (n : Node) : Prop := (n.volumes.map (fun item => item.name)).Nodup

theorem getReservation_dropReservation (n : Node) (vol : AntstorVolume) (id : String) :
    (n.dropReservation vol).getReservation id =
      if getVolumeReservationID vol ≠ "" ∧ id = getVolumeReservationID vol then none
      else n.getReservation id := by
  unfold dropReservation
  split
  · rename_i hID
    refine (ReservationSet.getById_unreserve n.resvSet (getVolumeReservationID vol) id).trans ?_
    simp only [hID, ne_eq, not_false_eq_true, true_and]
    rfl
  · rename_i hID
    rw [if_neg fun h => hID h.1]

theorem addVolume_of_absent {n : Node} {vol : AntstorVolume}
    (h : ∀ item ∈ n.volumes, item.name ≠ vol.name) : n.addVolume vol =
      (refresh { n.dropReservation vol with volumes := n.volumes ++ [n.resident vol] }, false) := by
  have hScan : replaceVolume (n.resident vol) n.volumes = (n.volumes, .absent) := replaceVolume_absent h
  rw [addVolume, hScan]

theorem addVolume_cases (n : Node) (vol : AntstorVolume) (hNames : n.NamesDistinct) :
    ((∀ item ∈ n.volumes, item.name ≠ vol.name) ∧ n.addVolume vol =
      (refresh { n.dropReservation vol with volumes := n.volumes ++ [n.resident vol] }, false)) ∨
    (∃ before old after, n.volumes = before ++ old :: after ∧ old.name = vol.name ∧
      old.spec.sizeByte = vol.spec.sizeByte ∧ n.addVolume vol =
        (refresh { n.dropReservation vol with volumes := before ++ n.resident vol :: after }, false)) ∨
    (∃ old ∈ n.volumes, old.name = vol.name ∧ old.spec.sizeByte ≠ vol.spec.sizeByte ∧
      n.addVolume vol = (n.dropReservation vol, true)) := by
  rcases replaceVolume_cases (n.resident vol) n.volumes hNames with
    ⟨hAbsent, hEq⟩ | ⟨before, old, after, hSplit, hOld, hSize, hEq⟩ | ⟨old, hMem, hOld, hSize, hEq⟩
  · exact .inl ⟨hAbsent, addVolume_of_absent hAbsent⟩
  · exact .inr (.inl ⟨before, old, after, hSplit, hOld, hSize, by rw [addVolume, hEq]⟩)
  · refine .inr (.inr ⟨old, hMem, hOld, hSize, ?_⟩)
    rw [addVolume, hEq]
    change ({ n.dropReservation vol with volumes := n.volumes }, true) = _
    rw [← n.dropReservation_volumes vol]

def reservedFor (n : Node) (vol : AntstorVolume) : ℤ :=
  (n.resvSet.unreserveAll n.boundIDs).sizeAt (getVolumeReservationID vol)

theorem dropReservation_unreserve (n : Node) (vol : AntstorVolume) (ids : List String) :
    ((n.dropReservation vol).resvSet.unreserveAll ids).unreserve (getVolumeReservationID vol) =
      (n.resvSet.unreserveAll ids).unreserve (getVolumeReservationID vol) := by
  unfold dropReservation
  split
  · ext1 id
    change (ReservationSet.unreserve _ _).getById id = (ReservationSet.unreserve _ _).getById id
    rw [ReservationSet.unreserveAll_unreserve, ReservationSet.getById_unreserve,
      ReservationSet.getById_unreserve]
    split
    · rfl
    · rfl
  · rfl

theorem addVolume_charges {n : Node} {vol : AntstorVolume}
    (h : ∀ item ∈ n.volumes, item.name ≠ vol.name) :
    (n.addVolume vol).1.charges = n.charges + vol.getTotalSize - n.reservedFor vol := by
  have hReserved : Node.reservedBytes
      { n.dropReservation vol with volumes := n.volumes ++ [n.resident vol] } = n.reservedBytes := by
    rw [reservedBytes, dropReservation_pool, reservedBytes]
  have hVolumes : Node.volumeBytes
      { n.dropReservation vol with volumes := n.volumes ++ [n.resident vol] } =
        n.volumeBytes + vol.getTotalSize := by
    rw [volumeBytes, List.map_append, List.sum_append, volumeBytes]
    simp
  have hOpen : Node.openBytes
      { n.dropReservation vol with volumes := n.volumes ++ [n.resident vol] } =
        n.openBytes - n.reservedFor vol := by
    rw [openBytes_eq_total, openBytes_eq_total, boundIDs, List.map_append, List.map_singleton,
      ReservationSet.unreserveAll_append, resident_reservationID, dropReservation_unreserve,
      ReservationSet.total_unreserve]
    rfl
  rw [addVolume_of_absent h, refresh_charges, charges, hReserved, hVolumes, hOpen, charges]
  ring

theorem addVolume_pool (n : Node) (vol : AntstorVolume) : (n.addVolume vol).1.pool = n.pool := by
  unfold addVolume
  dsimp only
  split <;> simp

theorem namesDistinct_addVolume {n : Node} (vol : AntstorVolume) (h : n.NamesDistinct) :
    (n.addVolume vol).1.NamesDistinct := by
  rcases n.addVolume_cases vol h with
    ⟨hAbsent, hEq⟩ | ⟨before, old, after, hSplit, hOld, _, hEq⟩ | ⟨_, _, _, _, hEq⟩
  · rw [hEq, NamesDistinct, refresh_volumes, List.map_append, List.nodup_append]
    refine ⟨h, by simp, ?_⟩
    intro name hName other hOther
    obtain ⟨item, hItem, rfl⟩ := List.mem_map.mp hName
    rw [List.map_singleton, List.mem_singleton] at hOther
    rw [hOther]
    exact hAbsent item hItem
  · rw [hEq, NamesDistinct, refresh_volumes]
    rw [NamesDistinct, hSplit] at h
    simpa [hOld] using h
  · rw [hEq, NamesDistinct, dropReservation_volumes]
    exact h

theorem removeVolumeByID_pool (n : Node) (volID : String) : (n.removeVolumeByID volID).pool = n.pool := by
  unfold removeVolumeByID
  split <;> rfl

theorem removeVolumeByID_volumes (n : Node) (volID : String) :
    (n.removeVolumeByID volID).volumes = n.volumes.eraseP (fun item => item.spec.uuid = volID) := by
  unfold removeVolumeByID
  split
  · rfl
  · rename_i hNone
    rw [List.eraseP_of_forall_not]
    intro item hItem hUuid
    exact hNone (List.any_eq_true.mpr ⟨item, hItem, hUuid⟩)

theorem namesDistinct_removeVolumeByID {n : Node} (volID : String) (h : n.NamesDistinct) :
    (n.removeVolumeByID volID).NamesDistinct := by
  rw [NamesDistinct, removeVolumeByID_volumes]
  exact h.sublist (List.eraseP_sublist.map _)

theorem reserve_pool (n : Node) (r : Reservation) : (n.reserve r).pool = n.pool := by
  unfold reserve
  split
  · rfl
  · split <;> rfl

theorem reserve_volumes (n : Node) (r : Reservation) : (n.reserve r).volumes = n.volumes := by
  unfold reserve
  split
  · rfl
  · split <;> rfl

@[simp] theorem unreserve_volumes (n : Node) (id : String) : (n.unreserve id).volumes = n.volumes := rfl

@[simp] theorem unreserve_pool (n : Node) (id : String) : (n.unreserve id).pool = n.pool := rfl

end Node

end Liteio
