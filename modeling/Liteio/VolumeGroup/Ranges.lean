import Liteio.VolumeGroup.Fits

/-! # Whether the entries of a group are in the requested range

The range is tested on a size that is rounded up to 4 MiB afterwards, and then
cut to the limit for remote volumes and rounded down. The first may pass the
maximum, and the second may fall below the minimum.
-/

namespace Liteio.VolumeGroup

open MachineInt

structure InRange (sizeRange : QuantityRange) (size : ℤ) : Prop where
  pos : 0 < size
  whole : fourMiB ∣ size
  min_le : sizeRange.min ≤ size
  le_max : size ≤ sizeRange.max

/-- The largest size of whole 4 MiB within the range, and the smallest. -/
def greatest (sizeRange : QuantityRange) : ℤ := ⌊sizeRange.max⌋ / fourMiB * fourMiB

def least (sizeRange : QuantityRange) : ℤ := (⌈sizeRange.min⌉ + (fourMiB - 1)) / fourMiB * fourMiB

/-- The limit reaches the least size and so do the picked bytes up to their next
4 MiB, and one of both ends before the 4 MiB after the greatest. -/
structure StaysInRange (K : Kube) (sizeRange : QuantityRange) (minLocalStoragePct : ℤ) (node : Node)
    (leftSize : ℤ) : Prop where
  limit : least sizeRange ≤ maxResultSize K node minLocalStoragePct
  bytes : least sizeRange < pickedBytes K sizeRange node leftSize + fourMiB
  within : pickedBytes K sizeRange node leftSize ≤ greatest sizeRange ∨
    maxResultSize K node minLocalStoragePct < greatest sizeRange + fourMiB

instance (K : Kube) (sizeRange : QuantityRange) (minLocalStoragePct : ℤ) (node : Node) (leftSize : ℤ) :
    Decidable (StaysInRange K sizeRange minLocalStoragePct node leftSize) :=
  decidable_of_iff (least sizeRange ≤ maxResultSize K node minLocalStoragePct ∧
      least sizeRange < pickedBytes K sizeRange node leftSize + fourMiB ∧
      (pickedBytes K sizeRange node leftSize ≤ greatest sizeRange ∨
        maxResultSize K node minLocalStoragePct < greatest sizeRange + fourMiB))
    ⟨fun h => ⟨h.1, h.2.1, h.2.2⟩, fun h => ⟨h.limit, h.bytes, h.within⟩⟩

theorem le_cut_iff {bytes limit bound : ℤ}
    (h : 0 < (min limit ((bytes + (fourMiB - 1)) / fourMiB * fourMiB)).tdiv fourMiB * fourMiB) :
    bound ≤ (min limit ((bytes + (fourMiB - 1)) / fourMiB * fourMiB)).tdiv fourMiB * fourMiB ↔
      (bound + (fourMiB - 1)) / fourMiB * fourMiB ≤ limit ∧
        (bound + (fourMiB - 1)) / fourMiB * fourMiB < bytes + fourMiB := by
  rw [Int.tdiv_eq_ediv_of_nonneg (nonneg_of_cut_pos h)]
  unfold fourMiB
  omega

theorem inRange_iff {K : Kube} {sizeRange : QuantityRange} {minLocalStoragePct : ℤ} {node : Node} {leftSize : ℤ}
    (hBelow : pickedBytes K sizeRange node leftSize ≤ 2 ^ 53)
    (h : 0 < getAllocatableRemoteVolumeSize K node (pickSizeFn K sizeRange node leftSize) minLocalStoragePct) :
    InRange sizeRange
        (getAllocatableRemoteVolumeSize K node (pickSizeFn K sizeRange node leftSize) minLocalStoragePct) ↔
      StaysInRange K sizeRange minLocalStoragePct node leftSize := by
  obtain ⟨-, hSize⟩ := sizeOn_eq hBelow h
  rw [hSize] at h ⊢
  have hMin := @le_cut_iff _ _ ⌈sizeRange.min⌉ h
  have hMax := @cut_le_iff _ _ ⌊sizeRange.max⌋ h
  rw [Int.ceil_le] at hMin
  rw [Int.le_floor, Int.lt_add_one_iff] at hMax
  constructor
  · intro hRange
    obtain ⟨hLimit, hBytes⟩ := hMin.mp hRange.min_le
    exact ⟨hLimit, hBytes, hMax.mp hRange.le_max⟩
  · intro hStays
    exact ⟨h, dvd_mul_left _ _, hMin.mpr ⟨hStays.limit, hStays.bytes⟩, hMax.mpr hStays.within⟩

variable {K : Kube} {cfg : SchedulerConfig} {nodes : List Node} {desired : DesiredVolumeSpec}

/-- Conversion to floating point takes no size below 2^53 beyond it. -/
def FloatsBelow (K : Kube) : Prop := ∀ q : Quantity, q < 2 ^ 53 → K.asApproximateFloat64 q ≤ 2 ^ 53

theorem pickedBytes_le (hFloats : FloatsBelow K) {sizeRange : QuantityRange} (hMax : sizeRange.max < 2 ^ 53)
    (node : Node) (leftSize : ℤ) : pickedBytes K sizeRange node leftSize ≤ 2 ^ 53 := by
  have hClipped : clipped sizeRange node leftSize < 2 ^ 53 := lt_of_le_of_lt (min_le_right _ _) hMax
  exact ofFloat_le (by norm_num) (by exact_mod_cast hFloats _ hClipped)

theorem picked_inRange_iff (hFloats : FloatsBelow K) (hMax : desired.sizeRange.max < 2 ^ 53) {c : Cursor}
    {nodeID : String} {size : ℤ} (h : pickNode K cfg nodes desired c = .placed nodeID size) :
    InRange desired.sizeRange size ↔ ∀ node ∈ firstRoom K cfg nodes desired c,
      StaysInRange K desired.sizeRange cfg.minLocalStoragePct node c.leftSize := by
  have hPos := (pickNode_placed h).1
  obtain ⟨node, hFirst, -, rfl⟩ := firstRoom_of_placed h
  rw [hFirst]
  simp only [Option.mem_some_iff, forall_eq']
  exact inRange_iff (pickedBytes_le hFloats hMax node c.leftSize) hPos

def PicksStayInRange (K : Kube) (cfg : SchedulerConfig) (nodes : List Node) (group : AntstorVolumeGroup) :
    Prop :=
  let desired := group.spec.desiredVolumeSpec
  let first := record group.spec.totalSize group.spec.volumes
  ∀ placed, picks K cfg nodes desired
      (placeable (group.spec.volumes.countP fun vol => !vol.scheduled) (roomLeft desired first)) first =
        some placed →
    ∀ pick ∈ placed, pick.2.1 ≠ "" → ∀ node ∈ firstRoom K cfg nodes desired pick.1,
      StaysInRange K desired.sizeRange cfg.minLocalStoragePct node pick.1.leftSize

theorem schedVolGroup_inRange_iff (rand : Random) (cfg : SchedulerConfig) (nodes : List Node)
    {group : AntstorVolumeGroup} (hFloats : FloatsBelow K)
    (hMax : group.spec.desiredVolumeSpec.sizeRange.max < 2 ^ 53) :
    (∀ out, schedVolGroup K rand cfg nodes group = .ok out →
      ∀ vol ∈ newEntries group out, InRange group.spec.desiredVolumeSpec.sizeRange vol.size) ↔
    PicksStayInRange K cfg nodes group := by
  refine (forall_newEntries_iff K rand cfg nodes group
    fun _ => InRange group.spec.desiredVolumeSpec.sizeRange).trans ?_
  refine forall₂_congr fun placed hPicks => forall₃_congr fun pick hPick _ => ?_
  exact picked_inRange_iff hFloats hMax (pickNode_of_mem_picks hPicks hPick).2

theorem twelveMiB_inRange : (schedVolGroup .exact numbered {} pair (twelveMiB 3)).toOption.isSome ∧
    ∀ out, schedVolGroup .exact numbered {} pair (twelveMiB 3) = .ok out →
      ∀ vol ∈ newEntries (twelveMiB 3) out,
        InRange (twelveMiB 3).spec.desiredVolumeSpec.sizeRange vol.size := by
  refine ⟨by decide +kernel, (schedVolGroup_inRange_iff numbered {} pair ?_ ?_).mpr ?_⟩
  · intro q hq
    exact hq.le
  · decide +kernel
  · change ∀ placed ∈ picks .exact {} pair (twelveMiB 3).spec.desiredVolumeSpec 2
        (record (twelveMiB 3).spec.totalSize []),
      ∀ pick ∈ placed, pick.2.1 ≠ "" →
        ∀ node ∈ firstRoom .exact {} pair (twelveMiB 3).spec.desiredVolumeSpec pick.1,
          StaysInRange .exact (twelveMiB 3).spec.desiredVolumeSpec.sizeRange 0 node pick.1.leftSize
    decide +kernel

def onePiece : AntstorVolumeGroup :=
  { twelveMiB 1 with spec := { (twelveMiB 1).spec with
      totalSize := 2 ^ 23
      desiredVolumeSpec := { (twelveMiB 1).spec.desiredVolumeSpec with
        sizeRange := { min := 2 ^ 23, max := 2 ^ 23 } } } }

theorem onePiece_cut_below_min : ¬ ∀ out,
    schedVolGroup .exact numbered { minLocalStoragePct := 50 } pair onePiece = .ok out →
      ∀ vol ∈ newEntries onePiece out, InRange onePiece.spec.desiredVolumeSpec.sizeRange vol.size := by
  intro h
  have hNew : (schedVolGroup .exact numbered { minLocalStoragePct := 50 } pair onePiece).toOption.map
      (newEntries onePiece) =
        some {{ volId := newVolId numbered onePiece 0, targetNodeName := "a", size := 2 ^ 22 }} := by
    decide +kernel
  cases hOut : schedVolGroup .exact numbered { minLocalStoragePct := 50 } pair onePiece with
  | error err => simp [hOut, Except.toOption] at hNew
  | ok out =>
    simp only [hOut, Except.toOption, Option.map_some, Option.some.injEq] at hNew
    have hMin := (h out hOut _ (hNew ▸ Multiset.mem_singleton_self _)).min_le
    revert hMin
    decide +kernel

end Liteio.VolumeGroup
