import Liteio.VolumeGroup.Fits

/-! # When a scheduled group is as large as it was asked for

The loops go through the nodes in order and give each unused node with room one
entry, as large as the node takes and as is still missing. What they reach is so
read off the nodes: the sum of the capacities of as many usable nodes as entries
may be placed.
-/

namespace Liteio.VolumeGroup

open MachineInt

def wholeUp (bytes : ℤ) : ℤ := (bytes + (fourMiB - 1)) / fourMiB * fourMiB

theorem le_wholeUp (bytes : ℤ) : bytes ≤ wholeUp bytes := by
  unfold wholeUp fourMiB
  omega

/-- The largest entry a node takes: its free storage within the size range, up to
whole 4 MiB, and no more than it leaves to remote volumes. -/
def capacity (K : Kube) (cfg : SchedulerConfig) (sizeRange : QuantityRange) (node : Node) : ℤ :=
  if storage node.freeResource < sizeRange.min then 0
  else min (maxResultSize K node cfg.minLocalStoragePct)
    (wholeUp ⌊min (storage node.freeResource) sizeRange.max⌋) / fourMiB * fourMiB

/-- The capacities of the nodes in their order, once for every ID that is not in
use. -/
def capacities (capacity : Node → ℤ) : Finset String → List Node → List ℤ
  | _, [] => []
  | used, node :: nodes =>
    if node.info.id ∉ used ∧ 0 < capacity node then
      capacity node :: capacities capacity (insert node.info.id used) nodes
    else capacities capacity used nodes

/-- The first `n` capacities reach the size. Otherwise one of `n` entries finds no
node: there are not as many nodes, or less than the least size is left for it. -/
def Reaches (least : Quantity) (caps : List ℤ) (n : ℕ) (size : ℤ) : Prop :=
  size ≤ (caps.take n).sum ∨ caps.length < n ∨ 0 < n ∧ ((size - (caps.take (n - 1)).sum : ℤ) : ℚ) < least

instance (least : Quantity) (caps : List ℤ) (n : ℕ) (size : ℤ) : Decidable (Reaches least caps n size) :=
  inferInstanceAs (Decidable (_ ∨ _ ∨ _ ∧ _))

theorem capacities_pos {capacity : Node → ℤ} {used : Finset String} {nodes : List Node} {cap : ℤ}
    (h : cap ∈ capacities capacity used nodes) : 0 < cap := by
  induction nodes generalizing used with
  | nil => cases h
  | cons node nodes ih =>
    rw [capacities] at h
    split at h
    · rename_i hUsable
      rcases List.mem_cons.mp h with rfl | hMem
      · exact hUsable.2
      · exact ih hMem
    · exact ih h

theorem sum_take_nonneg {caps : List ℤ} (h : ∀ cap ∈ caps, 0 < cap) (n : ℕ) : 0 ≤ (caps.take n).sum :=
  List.sum_nonneg fun cap hCap => (h cap (List.mem_of_mem_take hCap)).le

theorem scanNodes_capacities {sizeOn capacity : Node → ℤ} {size : ℤ} {used : Finset String} {nodes : List Node}
    (h : ∀ node ∈ nodes, sizeOn node = min size (max 0 (capacity node))) (hSize : 0 < size) :
    (capacities capacity used nodes = [] ∧ scanNodes sizeOn used 0 nodes = (0, none)) ∨
      ∃ item ∈ nodes, 0 < capacity item ∧
        capacities capacity used nodes = capacity item :: capacities capacity (insert item.info.id used) nodes ∧
        scanNodes sizeOn used 0 nodes = (min size (capacity item), some item) := by
  induction nodes with
  | nil => exact .inl ⟨rfl, rfl⟩
  | cons node nodes ih =>
    have hNode := h node List.mem_cons_self
    have hSkip : ¬ (node.info.id ∉ used ∧ 0 < capacity node) →
        scanNodes sizeOn used 0 (node :: nodes) = scanNodes sizeOn used 0 nodes := by
      intro hUnusable
      rw [scanNodes]
      split
      · rfl
      · rename_i hUnused
        have hZero : sizeOn node = 0 := by
          have hFull : ¬ 0 < capacity node := fun hPos => hUnusable ⟨hUnused, hPos⟩
          omega
        rw [hZero, if_neg (lt_irrefl 0)]
    by_cases hUsable : node.info.id ∉ used ∧ 0 < capacity node
    · have hPicked : sizeOn node = min size (capacity node) := by
        rw [hNode, max_eq_right hUsable.2.le]
      refine .inr ⟨node, List.mem_cons_self, hUsable.2, ?_, ?_⟩
      · simp [capacities, hUsable]
      · rw [scanNodes, if_neg hUsable.1, hPicked, if_pos (lt_min hSize hUsable.2)]
    · rw [hSkip hUsable]
      rcases ih fun item hItem => h item (List.mem_cons_of_mem _ hItem) with
        ⟨hNone, hScan⟩ | ⟨item, hItem, hPos, hCaps, hScan⟩
      · exact .inl ⟨by rw [capacities, if_neg hUsable, hNone], hScan⟩
      · have hStill : ¬ (node.info.id ∉ insert item.info.id used ∧ 0 < capacity node) := fun hNow =>
          hUsable ⟨fun hUsed => hNow.1 (Finset.mem_insert_of_mem hUsed), hNow.2⟩
        refine .inr ⟨item, List.mem_cons_of_mem _ hItem, hPos, ?_, hScan⟩
        rw [capacities, if_neg hUsable, capacities, if_neg hStill, hCaps]

section

variable {K : Kube} {cfg : SchedulerConfig} {nodes : List Node} {desired : DesiredVolumeSpec}

theorem floor_clipped (sizeRange : QuantityRange) (node : Node) (leftSize : ℤ) :
    ⌊clipped sizeRange node leftSize⌋ = min leftSize ⌊min (storage node.freeResource) sizeRange.max⌋ := by
  rw [clipped, min_assoc, Int.floor_mono.map_min, Int.floor_intCast]

theorem sizeOn_eq_capacity {sizeRange : QuantityRange} {node : Node} {leftSize : ℤ}
    (hSizes : ExactSizes K sizeRange nodes) (hMin : 0 ≤ sizeRange.min) (hMax : 0 ≤ sizeRange.max)
    (hNode : node ∈ nodes) (hLeft : 0 < leftSize) :
    getAllocatableRemoteVolumeSize K node (pickSizeFn K sizeRange node leftSize) cfg.minLocalStoragePct =
      if (leftSize : ℚ) < sizeRange.min then 0
      else min (wholeUp leftSize) (max 0 (capacity K cfg sizeRange node)) := by
  have hWhole : 0 < wholeUp leftSize := hLeft.trans_le (le_wholeUp _)
  rw [pickSizeFn_eq, capacity]
  by_cases hLeast : (leftSize : ℚ) < sizeRange.min
  · rw [if_pos ((min_le_left _ _).trans_lt hLeast), if_pos hLeast]
    rfl
  by_cases hFree : storage node.freeResource < sizeRange.min
  · rw [if_pos ((min_le_right _ _).trans_lt hFree), if_neg hLeast, if_pos hFree, max_self,
      min_eq_right hWhole.le]
    rfl
  have hPicked : ¬ min (leftSize : ℚ) (storage node.freeResource) < sizeRange.min :=
    not_lt.mpr (le_min (not_lt.mp hLeast) (not_lt.mp hFree))
  have hClipped : 0 ≤ clipped sizeRange node leftSize := le_min (hMin.trans (not_lt.mp hPicked)) hMax
  have hBelow : clipped sizeRange node leftSize < 2 ^ 53 := hSizes.clipped_lt hNode
  have hFloor : 0 ≤ ⌊clipped sizeRange node leftSize⌋ := Int.floor_nonneg.mpr hClipped
  have hFloor' : ⌊clipped sizeRange node leftSize⌋ < 2 ^ 53 := Int.floor_lt.mpr (by exact_mod_cast hBelow)
  rw [if_neg hPicked, if_neg hLeast, if_neg hFree, hSizes.clipped_eq hNode hLeft, ofFloat_of_nonneg hClipped hBelow,
    alignUp_eq hFloor hFloor'.le, getAllocatableRemoteVolumeSize_cases]
  rw [floor_clipped] at hFloor ⊢
  generalize maxResultSize K node cfg.minLocalStoragePct = limit
  generalize ⌊min (storage node.freeResource) sizeRange.max⌋ = bytes at hFloor ⊢
  unfold wholeUp fourMiB
  split
  · omega
  · split
    · omega
    · rw [Int.tdiv_eq_ediv_of_nonneg (by omega)]
      omega

theorem pickNode_cases {c : Cursor} (hSizes : ExactSizes K desired.sizeRange nodes)
    (hMin : 0 ≤ desired.sizeRange.min) (hMax : 0 ≤ desired.sizeRange.max) (hLeft : 0 < c.leftSize) :
    (pickNode K cfg nodes desired c = .failed ∧ ((c.leftSize : ℚ) < desired.sizeRange.min ∨
      capacities (capacity K cfg desired.sizeRange) c.tgtNodeSet nodes = [])) ∨
    desired.sizeRange.min ≤ c.leftSize ∧ ∃ item ∈ nodes,
      capacities (capacity K cfg desired.sizeRange) c.tgtNodeSet nodes =
        capacity K cfg desired.sizeRange item ::
          capacities (capacity K cfg desired.sizeRange) (insert item.info.id c.tgtNodeSet) nodes ∧
      pickNode K cfg nodes desired c =
        .placed item.info.id (min (wholeUp c.leftSize) (capacity K cfg desired.sizeRange item)) := by
  have hOn : ∀ node ∈ nodes, _ = _ := fun node hNode =>
    @sizeOn_eq_capacity K cfg nodes desired.sizeRange node c.leftSize hSizes hMin hMax hNode hLeft
  unfold pickNode
  dsimp only
  by_cases hLeast : (c.leftSize : ℚ) < desired.sizeRange.min
  · have hNone := @scanNodes_capacities _ (fun _ => 0) 1 c.tgtNodeSet nodes
      (fun node hNode => ((hOn node hNode).trans (if_pos hLeast)).trans (by decide)) one_pos
    rcases hNone with ⟨-, hScan⟩ | ⟨item, -, hPos, -⟩
    · rw [hScan]
      exact .inl ⟨rfl, .inl hLeast⟩
    · exact absurd hPos (lt_irrefl 0)
  · have hWhole : 0 < wholeUp c.leftSize := hLeft.trans_le (le_wholeUp _)
    rcases @scanNodes_capacities _ (capacity K cfg desired.sizeRange) _ c.tgtNodeSet nodes
        (fun node hNode => (hOn node hNode).trans (if_neg hLeast)) hWhole with
      ⟨hNone, hScan⟩ | ⟨item, hItem, -, hCaps, hScan⟩
    · rw [hScan]
      exact .inl ⟨rfl, .inr hNone⟩
    · rw [hScan]
      exact .inr ⟨not_lt.mp hLeast, item, hItem, hCaps, rfl⟩

theorem reaches_of_nonpos {least : Quantity} {caps : List ℤ} (h : ∀ cap ∈ caps, 0 < cap) {n : ℕ} {size : ℤ}
    (hSize : size ≤ 0) : Reaches least caps n size :=
  .inl (hSize.trans (sum_take_nonneg h n))

theorem reaches_cons {least : Quantity} {cap : ℤ} {caps : List ℤ} {n : ℕ} {size : ℤ} (hLeast : least ≤ size) :
    Reaches least (cap :: caps) (n + 1) size ↔ Reaches least caps n (size - cap) := by
  have hSum : size ≤ ((cap :: caps).take (n + 1)).sum ↔ size - cap ≤ (caps.take n).sum := by
    rw [List.take_succ_cons, List.sum_cons, sub_le_iff_le_add']
  have hLength : (cap :: caps).length < n + 1 ↔ caps.length < n := by
    rw [List.length_cons, add_lt_add_iff_right]
  have hRest : (0 < n + 1 ∧ ((size - ((cap :: caps).take (n + 1 - 1)).sum : ℤ) : ℚ) < least) ↔
      0 < n ∧ ((size - cap - (caps.take (n - 1)).sum : ℤ) : ℚ) < least := by
    cases n with
    | zero => simpa using hLeast
    | succ n => simp [sub_sub]
  rw [Reaches, Reaches, hSum, hLength, hRest]

theorem add_leftSize {c : Cursor} (nodeID : String) {size : ℤ} (hLeft : 0 ≤ c.leftSize)
    (hRange : c.leftSize < 2 ^ 63) (hSize : 0 < size) (hSize' : size < 2 ^ 63) :
    (c.add nodeID size).leftSize = c.leftSize - size :=
  int64_of_inInt64 ⟨by omega, by omega⟩

theorem picks_placed_cover_iff {n : ℕ} {c : Cursor} {nodeID : String} {size : ℤ} (hNamed : nodeID ≠ "")
    (hLeft : 0 < c.leftSize) (h : pickNode K cfg nodes desired c = .placed nodeID size)
    (hNext : (c.add nodeID size).leftSize = c.leftSize - size) :
    (∀ placed, picks K cfg nodes desired (n + 1) c = some placed → c.leftSize ≤ pickedSize placed) ↔
      ∀ placed, picks K cfg nodes desired n (c.add nodeID size) = some placed →
        (c.add nodeID size).leftSize ≤ pickedSize placed := by
  rw [picks_placed hLeft h]
  simp only [Option.map_eq_some_iff, forall_exists_index, and_imp, forall_apply_eq_imp_iff₂,
    pickedSize_cons (pickNode_placed h).1, if_neg hNamed, hNext, sub_le_iff_le_add']

/-- The picks of a call cover what is left exactly when the capacities reach it. -/
theorem picks_cover_iff (hSizes : ExactSizes K desired.sizeRange nodes) (hMin : 0 ≤ desired.sizeRange.min)
    (hMax : 0 ≤ desired.sizeRange.max) (hNamed : ∀ node ∈ nodes, node.info.id ≠ "") {n : ℕ} {c : Cursor}
    (hRange : c.leftSize < 2 ^ 63) :
    (∀ placed, picks K cfg nodes desired n c = some placed → c.leftSize ≤ pickedSize placed) ↔
      Reaches desired.sizeRange.min (capacities (capacity K cfg desired.sizeRange) c.tgtNodeSet nodes) n
        c.leftSize := by
  induction n generalizing c with
  | zero => simp [picks, pickedSize, Reaches]
  | succ n ih =>
    have hPos : ∀ cap ∈ capacities (capacity K cfg desired.sizeRange) c.tgtNodeSet nodes, 0 < cap :=
      fun cap hCap => capacities_pos hCap
    rcases le_or_gt c.leftSize 0 with hDone | hLeft
    · exact iff_of_true (fun placed _ => hDone.trans (pickedSize_nonneg placed)) (reaches_of_nonpos hPos hDone)
    rcases @pickNode_cases K cfg nodes desired c hSizes hMin hMax hLeft with
      ⟨hFailed, hShort⟩ | ⟨hLeast, item, hItem, hCaps, hPlaced⟩
    · rw [picks_failed hLeft hFailed]
      refine iff_of_true (fun _ hSome => by cases hSome) (.inr ?_)
      rcases hShort with hLeast | hNone
      · have hLess : c.leftSize - ((capacities _ _ _).take (n + 1 - 1)).sum ≤ c.leftSize :=
          sub_le_self _ (sum_take_nonneg hPos _)
        exact .inr ⟨Nat.succ_pos n, lt_of_le_of_lt (by exact_mod_cast hLess) hLeast⟩
      · rw [hNone]
        exact .inl (Nat.succ_pos n)
    · obtain ⟨hSize, hSize'⟩ := validSize_of_placed hPlaced
      have hNext := add_leftSize item.info.id hLeft.le hRange hSize hSize'
      rw [picks_placed_cover_iff (hNamed item hItem) hLeft hPlaced hNext,
        ih (hNext ▸ (sub_lt_self _ hSize).trans hRange), hNext, hCaps]
      rw [hCaps] at hPos
      -- Either the node takes all that is left, or its whole capacity is used.
      rcases le_or_gt c.leftSize (capacity K cfg desired.sizeRange item) with hLast | hWhole
      · refine iff_of_true (reaches_of_nonpos (fun cap hCap => capacities_pos hCap) ?_) (.inl ?_)
        · exact sub_nonpos.mpr (le_min (le_wholeUp _) hLast)
        · rw [List.take_succ_cons, List.sum_cons]
          exact hLast.trans (le_add_of_nonneg_right
            (sum_take_nonneg (fun cap hCap => hPos cap (List.mem_cons_of_mem _ hCap)) n))
      · rw [min_eq_right (hWhole.le.trans (le_wholeUp _)), reaches_cons hLeast]
        rfl

end

/-- A successful call covers the requested size exactly when the capacities of as
many nodes as entries may be placed reach what the scheduled entries leave, or
when there are too few of them, so that the call fails. -/
theorem schedVolGroup_covers_iff (K : Kube) (rand : Random) (cfg : SchedulerConfig) {nodes : List Node}
    {group : AntstorVolumeGroup} (hTotal : InInt64 group.spec.totalSize)
    (hSizes : ExactSizes K group.spec.desiredVolumeSpec.sizeRange nodes)
    (hMin : 0 ≤ group.spec.desiredVolumeSpec.sizeRange.min) (hMax : 0 ≤ group.spec.desiredVolumeSpec.sizeRange.max)
    (hNamed : ∀ node ∈ nodes, node.info.id ≠ "") :
    (∀ out, schedVolGroup K rand cfg nodes group = .ok out →
      group.spec.totalSize ≤ (out.spec.volumes.map VolumeMeta.size).sum) ↔
    Reaches group.spec.desiredVolumeSpec.sizeRange.min
      (capacities (capacity K cfg group.spec.desiredVolumeSpec.sizeRange) (start group).tgtNodeSet nodes)
      (placeable (group.spec.volumes.countP fun vol => !vol.scheduled)
        (roomLeft group.spec.desiredVolumeSpec (start group)))
      (group.spec.totalSize - placedSize group.spec.volumes) := by
  have hLeft : (start group).leftSize < 2 ^ 63 :=
    lt_of_le_of_lt (sub_le_self _ (placedSize_nonneg _)) hTotal.2
  exact (schedVolGroup_covers_iff_picks K rand cfg nodes hTotal).trans
    (picks_cover_iff hSizes hMin hMax hNamed hLeft)

theorem three_entries_cover : (schedVolGroup .exact numbered {} pair (twelveMiB 3)).toOption.isSome ∧
    ∀ out, schedVolGroup .exact numbered {} pair (twelveMiB 3) = .ok out →
      12 * 2 ^ 20 ≤ (out.spec.volumes.map VolumeMeta.size).sum := by
  have hSizes : ExactSizes .exact (twelveMiB 3).spec.desiredVolumeSpec.sizeRange pair :=
    ⟨by decide +kernel, fun _ _ _ _ _ => rfl⟩
  exact ⟨by decide +kernel, (schedVolGroup_covers_iff .exact numbered {} (by decide) hSizes (by decide)
    (by decide) (by decide)).mpr (by decide +kernel)⟩

end Liteio.VolumeGroup
