import Liteio.Scheduler.Filter

/-! # What the basic filter checks and what the ledger charges

The filter compares the free storage, or the size of a reservation, with
`Spec.SizeByte`; binding charges `GetTotalSize`, which the snapshot and
allocated-bytes annotations can raise, and releases the reservation of the
volume. An accepted volume fits exactly when what it is charged does.
-/

namespace Liteio.FilterChain

open MachineInt

theorem Verdict.ofChecks_eq_pass {checks : List (Bool × String)} :
    Verdict.ofChecks checks = .pass ↔ ∀ check ∈ checks, check.1 = false := by
  induction checks with
  | nil => simp [ofChecks]
  | cons check checks ih =>
    obtain ⟨fails, reason⟩ := check
    cases fails <;> simp [ofChecks, ih]

theorem matchReservationFilter_eq_none {vol : AntstorVolume} {n : Node} :
    matchReservationFilter vol n = none ↔ vol.annotationAt reservationIDKey = none := by
  unfold matchReservationFilter
  split
  · rename_i hId
    simp [hId]
  · rename_i resvId hId
    rw [hId]
    split
    · simp
    · split
      · split <;> simp
      · simp

theorem matchReservationFilter_pass {vol : AntstorVolume} {n : Node}
    (h : matchReservationFilter vol n = some .pass) :
    ∃ resvId r, vol.annotationAt reservationIDKey = some resvId ∧
      n.getReservation resvId = some r ∧ int64 vol.spec.sizeByte ≤ r.sizeByte := by
  unfold matchReservationFilter at h
  split at h
  · cases h
  · rename_i resvId hId
    split at h
    · cases h
    · split at h
      · rename_i r hr
        split at h
        · cases h
        · rename_i hSize
          exact ⟨resvId, r, hId, hr, not_lt.mp hSize⟩
      · cases h

theorem basicFilterFunc_pass {cfg : SchedulerConfig} {vol : AntstorVolume} {n n' : Node}
    (h : basicFilterFunc cfg vol n = some (n', .pass)) :
    (n' = n ∧ matchReservationFilter vol n = some .pass) ∨
    (n' = n.settle ∧ vol.annotationAt reservationIDKey = none ∧
      (int64 vol.spec.sizeByte : ℚ) ≤ n.freeStorage ∧
      ∃ host, vol.spec.hostNode = some host ∧
        Verdict.ofChecks (placementChecks cfg vol n.settle host) = .pass) := by
  unfold basicFilterFunc at h
  split at h
  · cases h
  · split at h
    · rename_i verdict hMatch
      cases h
      exact .inl ⟨rfl, hMatch⟩
    · rename_i hMatch
      change (if n.freeStorage < _ then _ else _) = _ at h
      split at h
      · cases h
      · rename_i hFree
        split at h
        · cases h
        · obtain ⟨host, hHost, hVerdict⟩ := Option.map_eq_some_iff.mp h
          exact .inr ⟨(congrArg Prod.fst hVerdict).symm, matchReservationFilter_eq_none.mp hMatch,
            not_lt.mp hFree, host, hHost, congrArg Prod.snd hVerdict⟩

theorem basicFilterFunc_leaves {cfg : SchedulerConfig} {vol : AntstorVolume} {n n' : Node}
    {verdict : Verdict} (h : basicFilterFunc cfg vol n = some (n', verdict)) :
    n' = n ∨ n' = n.settle := by
  unfold basicFilterFunc at h
  split at h
  · cases h
    exact .inl rfl
  · split at h
    · cases h
      exact .inl rfl
    · refine .inr ?_
      change (if n.freeStorage < _ then _ else _) = _ at h
      split at h
      · cases h
        rfl
      · split at h
        · cases h
          rfl
        · obtain ⟨host, _, hHost⟩ := Option.map_eq_some_iff.mp h
          exact (congrArg Prod.fst hHost).symm

theorem settle_reservedFor (n : Node) (vol : AntstorVolume) : n.settle.reservedFor vol = n.reservedFor vol := by
  rw [Node.reservedFor, Node.settle_boundIDs, Node.reservedFor]
  exact congrArg (fun rs => ReservationSet.sizeAt rs _) n.unreserveAll_boundIDs_refresh

theorem addVolume_freeStorage {n : Node} {vol : AntstorVolume}
    (hNew : ∀ item ∈ n.volumes, item.name ≠ vol.name) (hStorage : n.hasStorage = true) :
    (n.addVolume vol).1.freeStorage = storage n.pool.status.capacity -
      int64 (n.charges + vol.getTotalSize - n.reservedFor vol) := by
  have hAfter : (n.addVolume vol).1.hasStorage = true := by
    rw [Node.hasStorage_congr (n.addVolume_pool vol), hStorage]
  rw [Node.freeStorage_eq hAfter, Node.addVolume_pool, Node.addVolume_charges hNew]

theorem addVolume_freeStorage_nonneg_iff {n : Node} {vol : AntstorVolume}
    (hNew : ∀ item ∈ n.volumes, item.name ≠ vol.name) :
    0 ≤ (n.addVolume vol).1.freeStorage ↔ (n.hasStorage = true →
      (int64 (n.charges + vol.getTotalSize - n.reservedFor vol) : ℚ) ≤
        storage n.pool.status.capacity) := by
  cases hStorage : n.hasStorage with
  | false =>
    have hAfter : (n.addVolume vol).1.hasStorage = false := by
      rw [Node.hasStorage_congr (n.addVolume_pool vol), hStorage]
    simp [Node.freeStorage_of_hasStorage_eq_false hAfter]
  | true =>
    rw [addVolume_freeStorage hNew hStorage, sub_nonneg]
    simp

theorem chargeFits_iff {n : Node} {charge released : ℤ} (hStorage : n.hasStorage = true)
    (hNow : InInt64 n.charges) (hThen : InInt64 (n.charges + charge - released)) :
    (int64 (n.charges + charge - released) : ℚ) ≤ storage n.pool.status.capacity ↔
      (charge : ℚ) ≤ n.freeStorage + released := by
  rw [Node.freeStorage_eq hStorage, int64_of_inInt64 hNow, int64_of_inInt64 hThen]
  push_cast
  constructor
  · intro h
    linarith
  · intro h
    linarith

/-- An accepted volume leaves the free storage non-negative exactly when the
charged total, less the reservation it takes over, is covered by the capacity:
inside the `int64` range, by the free storage. -/
theorem accepted_fits_iff (cfg : SchedulerConfig) {vol : AntstorVolume} {n n' : Node}
    (hNew : ∀ item ∈ n.volumes, item.name ≠ vol.name)
    (hAccept : basicFilterFunc cfg vol n = some (n', .pass)) :
    (0 ≤ (n'.addVolume vol).1.freeStorage ↔ (n.hasStorage = true →
      (int64 (n.charges + vol.getTotalSize - n.reservedFor vol) : ℚ) ≤
        storage n.pool.status.capacity)) ∧
    (InInt64 n.charges → InInt64 (n.charges + vol.getTotalSize - n.reservedFor vol) →
      (0 ≤ (n'.addVolume vol).1.freeStorage ↔
        (n.hasStorage = true → (vol.getTotalSize : ℚ) ≤ n.freeStorage + n.reservedFor vol))) := by
  have hFits : 0 ≤ (n'.addVolume vol).1.freeStorage ↔ (n.hasStorage = true →
      (int64 (n.charges + vol.getTotalSize - n.reservedFor vol) : ℚ) ≤
        storage n.pool.status.capacity) := by
    rcases basicFilterFunc_leaves hAccept with rfl | rfl
    · exact addVolume_freeStorage_nonneg_iff hNew
    · rw [addVolume_freeStorage_nonneg_iff (n := n.settle) hNew, Node.settle_charges,
        settle_reservedFor]
      rfl
  refine ⟨hFits, ?_⟩
  intro hNow hThen
  rw [hFits]
  exact forall_congr' fun hStorage => chargeFits_iff hStorage hNow hThen

def readyPool : StoragePool :=
  { name := "n", spec := { nodeInfo := { id := "n" } },
    status := { capacity := Finmap.singleton resourceDiskPoolByte 100, status := .ready } }

def localVolume (annotations : StringMap) : AntstorVolume :=
  { name := "v", annotations := annotations,
    spec := { uuid := "u", sizeByte := 10, hostNode := some { id := "n" } } }

theorem plain_volume_fits :
    0 ≤ ((Node.newNode readyPool).addVolume (localVolume none)).1.freeStorage := by
  refine ((accepted_fits_iff {} (n := Node.newNode readyPool) ?_ ?_).2 ?_ ?_).mpr ?_
  · decide
  · decide +kernel
  · decide +kernel
  · decide +kernel
  · decide +kernel

theorem snapshot_volume_overcommits :
    0 ≤ (Node.newNode readyPool).freeStorage ∧
    basicFilterFunc {} (localVolume (some (Finmap.singleton snapshotReservedSpaceAnnotationKey "200")))
      (Node.newNode readyPool) = some (Node.newNode readyPool, .pass) ∧
    ((Node.newNode readyPool).addVolume (localVolume
      (some (Finmap.singleton snapshotReservedSpaceAnnotationKey "200")))).1.freeStorage < 0 := by
  decide +kernel

end Liteio.FilterChain
