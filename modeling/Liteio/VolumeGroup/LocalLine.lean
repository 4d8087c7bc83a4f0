import Liteio.VolumeGroup.Fits
import Liteio.Scheduler.LocalShare

/-! # The two lines for local storage

The group scheduler leaves the local line to local volumes in whole bytes,
rounded down; the filter compares percentages. They part where the line is not a
whole number of bytes and a size takes all that the group scheduler leaves.
-/

namespace Liteio.VolumeGroup

open MachineInt FilterChain

/-- What the pool leaves to further remote volumes, before it wraps. -/
def budget (K : Kube) (node : Node) (minLocalStoragePct : ℤ) : ℤ :=
  let total := node.pool.getAvailableBytes K
  total - total * minLocalStoragePct / 100 - int64 node.getAllocatedRemoteBytes

/-- Where a size is picked at all, the line is a whole number of bytes or the
size leaves some of the budget, and what it leaves of the pool is an `int64`. -/
def LinesAgree (K : Kube) (node : Node) (minLocalStoragePct volSize : ℤ) : Prop :=
  let total := node.pool.getAvailableBytes K
  let budget := budget K node minLocalStoragePct
  fourMiB ≤ min budget volSize → budget < 2 ^ 63 →
    (100 ∣ total * minLocalStoragePct ∨ ¬ fourMiB ∣ budget ∨ volSize < budget) ∧
      (total - int64 node.getAllocatedRemoteBytes - 2 ^ 63) / fourMiB * fourMiB + fourMiB ≤ min budget volSize

instance (K : Kube) (node : Node) (minLocalStoragePct volSize : ℤ) :
    Decidable (LinesAgree K node minLocalStoragePct volSize) :=
  inferInstanceAs (Decidable (_ → _ → _ ∧ _))

theorem localLine_eq {total minLocalStoragePct : ℤ} (hTotal : 0 < total) (hRange : InInt64 total)
    (hPct : 0 ≤ minLocalStoragePct) (hPct' : minLocalStoragePct ≤ 100) :
    ofFloat ((total : ℚ) * minLocalStoragePct / 100) = total * minLocalStoragePct / 100 := by
  have hNonneg : (0 : ℚ) ≤ (total : ℚ) * minLocalStoragePct / 100 := by
    have hProduct : 0 ≤ total * minLocalStoragePct := mul_nonneg hTotal.le hPct
    have hCast : (0 : ℚ) ≤ (total : ℚ) * minLocalStoragePct := by exact_mod_cast hProduct
    positivity
  have hFloor : ⌊(total : ℚ) * minLocalStoragePct / 100⌋ = total * minLocalStoragePct / 100 := by
    exact_mod_cast Rat.floor_intCast_div_natCast (total * minLocalStoragePct) 100
  have hLe : total * minLocalStoragePct / 100 ≤ total := by
    have hWhole := mul_le_mul_of_nonneg_left hPct' hTotal.le
    omega
  have hLine : 0 ≤ total * minLocalStoragePct / 100 :=
    Int.ediv_nonneg (mul_nonneg hTotal.le hPct) (by norm_num)
  rw [ofFloat, if_pos hNonneg, hFloor, if_pos ⟨by omega, lt_of_le_of_lt hLe hRange.2⟩]

theorem maxResultSize_eq {K : Kube} (hFloats : ExactFloats K) {node : Node} {minLocalStoragePct : ℤ}
    (hTotal : 0 < node.pool.getAvailableBytes K) (hPct : 0 ≤ minLocalStoragePct)
    (hPct' : minLocalStoragePct ≤ 100) :
    maxResultSize K node minLocalStoragePct = int64 (budget K node minLocalStoragePct) := by
  have hLine := localLine_eq hTotal (node.pool.getAvailableBytes_inInt64 K) hPct hPct'
  simp only [maxResultSize, hFloats _, hLine, int64_int64_sub, budget]

theorem getAllocatableRemoteVolumeSize_pos_iff (K : Kube) (node : Node) (volSize minLocalStoragePct : ℤ) :
    0 < getAllocatableRemoteVolumeSize K node volSize minLocalStoragePct ↔
      fourMiB ≤ min (maxResultSize K node minLocalStoragePct) volSize := by
  constructor
  · intro h
    rw [getAllocatableRemoteVolumeSize_eq K node h] at h
    rw [Int.tdiv_eq_ediv_of_nonneg (nonneg_of_cut_pos h)] at h
    unfold fourMiB at h ⊢
    omega
  · intro h
    have hSize := le_trans h (min_le_right _ _)
    have hLimit := le_trans h (min_le_left _ _)
    rw [getAllocatableRemoteVolumeSize_cases]
    unfold fourMiB at hSize hLimit ⊢
    rw [if_neg (by omega), if_neg (by omega), Int.tdiv_eq_ediv_of_nonneg (by omega)]
    omega

theorem accepts_iff {product total alloc limit volSize : ℤ} (hProduct : 0 ≤ product) (hTotal : total < 2 ^ 63)
    (hAlloc : InInt64 alloc) (hLimit : limit = total - product / 100 - alloc)
    (hPos : fourMiB ≤ min limit volSize) :
    product ≤ int64 (total - alloc - min limit volSize / fourMiB * fourMiB) * 100 ↔
      (100 ∣ product ∨ ¬ fourMiB ∣ limit ∨ volSize < limit) ∧
        (total - alloc - 2 ^ 63) / fourMiB * fourMiB + fourMiB ≤ min limit volSize := by
  have hLower := hAlloc.1
  by_cases hFits : total - alloc - min limit volSize / fourMiB * fourMiB < 2 ^ 63
  · have hRange : InInt64 (total - alloc - min limit volSize / fourMiB * fourMiB) := by
      unfold InInt64 fourMiB at *
      omega
    rw [int64_of_inInt64 hRange]
    unfold fourMiB at *
    omega
  · have hUpper : total - alloc - min limit volSize / fourMiB * fourMiB < 2 ^ 64 := by
      unfold fourMiB at *
      omega
    rw [int64_of_overflow (not_lt.mp hFits) hUpper]
    unfold fourMiB at *
    omega

/-- A budget that wraps is negative, and nothing is picked. -/
theorem le_min_int64_iff {limit volSize : ℤ} (hLower : -2 ^ 63 ≤ limit) (hUpper : limit < 2 ^ 64) :
    fourMiB ≤ min (int64 limit) volSize ↔ fourMiB ≤ min limit volSize ∧ limit < 2 ^ 63 := by
  by_cases hBelow : limit < 2 ^ 63
  · rw [int64_of_inInt64 ⟨hLower, hBelow⟩]
    exact (and_iff_left hBelow).symm
  · rw [int64_of_overflow (not_lt.mp hBelow) hUpper]
    unfold fourMiB
    omega

theorem forall_remote_pass_iff {K : Kube} (hFloats : ExactFloats K) {cfg : SchedulerConfig} {node : Node}
    {size : ℤ} (hSize : 0 ≤ size) (hTotal : 0 < node.pool.getAvailableBytes K) :
    (∀ (vol : AntstorVolume) (host : NodeInfo), vol.spec.hostNode = some host → host.id ≠ node.info.id →
        vol.spec.sizeByte = size.toNat → minLocalStorageFilterFunc K cfg vol node = some (node, .pass)) ↔
      node.pool.getAvailableBytes K * cfg.minLocalStoragePct ≤
        int64 (node.pool.getAvailableBytes K - int64 node.getAllocatedRemoteBytes - size) * 100 := by
  have hLeft : int64 (node.pool.getAvailableBytes K - int64 node.getAllocatedRemoteBytes - size) =
      int64 (node.pool.getAvailableBytes K - node.getAllocatedRemoteBytes - size) := by
    rw [← int64_int64_sub, int64_sub_int64, int64_int64_sub]
  rw [hLeft, mul_comm (node.pool.getAvailableBytes K)]
  constructor
  · intro h
    have hRemote : node.info.id ++ "'" ≠ node.info.id := by simp
    have hPass := h { spec := { hostNode := some { id := node.info.id ++ "'" }, sizeByte := size.toNat } } _ rfl
      hRemote rfl
    have hAccepted := ((minLocalStorageFilterFunc_pass_iff hFloats rfl hTotal).mp hPass).2.resolve_left hRemote
    rwa [Int.toNat_of_nonneg hSize] at hAccepted
  · intro h vol host hHost _ hBytes
    refine (minLocalStorageFilterFunc_pass_iff hFloats hHost hTotal).mpr ⟨rfl, .inr ?_⟩
    rwa [hBytes, Int.toNat_of_nonneg hSize]

/-- The filter accepts what the group scheduler picks exactly when the two lines
agree. -/
theorem minLocalStorage_accepts_iff {K : Kube} (hFloats : ExactFloats K) (cfg : SchedulerConfig) (node : Node)
    (volSize : ℤ) (hTotal : 0 < node.pool.getAvailableBytes K) (hPct : 0 ≤ cfg.minLocalStoragePct)
    (hPct' : cfg.minLocalStoragePct ≤ 100) :
    (0 < getAllocatableRemoteVolumeSize K node volSize cfg.minLocalStoragePct →
      ∀ (vol : AntstorVolume) (host : NodeInfo), vol.spec.hostNode = some host → host.id ≠ node.info.id →
        vol.spec.sizeByte = (getAllocatableRemoteVolumeSize K node volSize cfg.minLocalStoragePct).toNat →
        minLocalStorageFilterFunc K cfg vol node = some (node, .pass)) ↔
    LinesAgree K node cfg.minLocalStoragePct volSize := by
  have hUpper := (node.pool.getAvailableBytes_inInt64 K).2
  have hAlloc := int64_inInt64 node.getAllocatedRemoteBytes
  have hProduct := mul_nonneg hTotal.le hPct
  have hWhole := mul_le_mul_of_nonneg_left hPct' hTotal.le
  have hLimit := maxResultSize_eq hFloats hTotal hPct hPct'
  have hPicked : 0 < getAllocatableRemoteVolumeSize K node volSize cfg.minLocalStoragePct ↔
      fourMiB ≤ min (budget K node cfg.minLocalStoragePct) volSize ∧
        budget K node cfg.minLocalStoragePct < 2 ^ 63 := by
    obtain ⟨hAllocLower, hAllocUpper⟩ := hAlloc
    rw [getAllocatableRemoteVolumeSize_pos_iff, hLimit]
    exact le_min_int64_iff (by rw [budget]; omega) (by rw [budget]; omega)
  rw [hPicked, and_imp, LinesAgree]
  refine imp_congr_right fun hPos => imp_congr_right fun hBelow => ?_
  have hPositive := hPicked.mpr ⟨hPos, hBelow⟩
  have hSize := getAllocatableRemoteVolumeSize_eq K node hPositive
  have hInt64 : int64 (budget K node cfg.minLocalStoragePct) = budget K node cfg.minLocalStoragePct := by
    have := hPos.trans (min_le_left _ _)
    unfold fourMiB at this
    exact int64_of_inInt64 ⟨by omega, hBelow⟩
  rw [hLimit, hInt64, Int.tdiv_eq_ediv_of_nonneg (le_trans (by decide) hPos)] at hSize
  rw [forall_remote_pass_iff hFloats hPositive.le hTotal, hSize]
  exact accepts_iff hProduct hUpper hAlloc rfl hPos

def poolOf (bytes : ℕ) : Node := .newNode { spec := { kernelLVM := { bytes := bytes }, nodeInfo := { id := "a" } } }

theorem half_accepted : 0 < getAllocatableRemoteVolumeSize .exact (poolOf (2 ^ 23)) (2 ^ 23) 50 ∧
    (0 < getAllocatableRemoteVolumeSize .exact (poolOf (2 ^ 23)) (2 ^ 23) 50 →
      ∀ (vol : AntstorVolume) (host : NodeInfo), vol.spec.hostNode = some host →
        host.id ≠ (poolOf (2 ^ 23)).info.id →
        vol.spec.sizeByte = (getAllocatableRemoteVolumeSize .exact (poolOf (2 ^ 23)) (2 ^ 23) 50).toNat →
        minLocalStorageFilterFunc .exact { minLocalStoragePct := 50 } vol (poolOf (2 ^ 23)) =
          some (poolOf (2 ^ 23), .pass)) := by
  refine ⟨by decide +kernel, (minLocalStorage_accepts_iff (fun _ => rfl) { minLocalStoragePct := 50 } _ _
    ?_ ?_ ?_).mpr ?_⟩
  · decide +kernel
  · decide
  · decide
  · decide +kernel

/-- One percent of 4236670 bytes is 42366.7 bytes, and the rest up to 42366 bytes
is picked. -/
theorem rounded_line_rejected :
    ¬ (0 < getAllocatableRemoteVolumeSize .exact (poolOf 4236670) (2 ^ 22) 1 →
      ∀ (vol : AntstorVolume) (host : NodeInfo), vol.spec.hostNode = some host →
        host.id ≠ (poolOf 4236670).info.id →
        vol.spec.sizeByte = (getAllocatableRemoteVolumeSize .exact (poolOf 4236670) (2 ^ 22) 1).toNat →
        minLocalStorageFilterFunc .exact { minLocalStoragePct := 1 } vol (poolOf 4236670) =
          some (poolOf 4236670, .pass)) := by
  intro h
  have hVerdict : (minLocalStorageFilterFunc .exact { minLocalStoragePct := 1 }
      { spec := { hostNode := some { id := "h" }, sizeByte := 2 ^ 22 } } (poolOf 4236670)).map Prod.snd =
        some (.reject (some reasonLocalStorageTooLow)) := by
    decide +kernel
  rw [h (by decide +kernel) _ { id := "h" } rfl (by decide) (by decide +kernel)] at hVerdict
  cases hVerdict

end Liteio.VolumeGroup
