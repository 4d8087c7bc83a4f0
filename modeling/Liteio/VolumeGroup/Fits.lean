import Liteio.VolumeGroup.Complete
import Liteio.VolumeGroup.Entries
import Liteio.Scheduler.Winners

/-! # Whether the entries of a group fit their nodes

A size is clipped to the free storage first and rounded up to 4 MiB afterwards;
the limit for remote volumes then clips it again and rounds it down. The result
is within the free storage unless the free storage has a part beyond its last
whole 4 MiB that both the clipped size and the limit reach into.
-/

namespace Liteio.VolumeGroup

open MachineInt

def clipped (sizeRange : QuantityRange) (node : Node) (leftSize : ℤ) : Quantity :=
  min (min (leftSize : ℚ) (storage node.freeResource)) sizeRange.max

def pickedBytes (K : Kube) (sizeRange : QuantityRange) (node : Node) (leftSize : ℤ) : ℤ :=
  ofFloat (K.asApproximateFloat64 (clipped sizeRange node leftSize))

def wholeFree (node : Node) : ℤ := ⌊storage node.freeResource⌋ / fourMiB * fourMiB

def maxResultSize (K : Kube) (node : Node) (minLocalStoragePct : ℤ) : ℤ :=
  let total := node.pool.getAvailableBytes K
  let localLine := ofFloat (K.roundFloat64
    (K.roundFloat64 (K.roundFloat64 total * K.roundFloat64 minLocalStoragePct) / 100))
  int64 (int64 (total - localLine) - int64 node.getAllocatedRemoteBytes)

/-- Sizes below 2^53, which convert to floating point and back without loss. -/
structure ExactSizes (K : Kube) (sizeRange : QuantityRange) (nodes : List Node) : Prop where
  below : ∀ node ∈ nodes, storage node.freeResource < 2 ^ 53
  exact : ∀ node ∈ nodes, ∀ leftSize : ℤ, 0 < leftSize → leftSize ≤ 2 ^ 53 →
    K.asApproximateFloat64 (clipped sizeRange node leftSize) = clipped sizeRange node leftSize

/-- A larger size is clipped to the free storage. -/
theorem ExactSizes.clipped_eq {K : Kube} {sizeRange : QuantityRange} {nodes : List Node} {node : Node}
    {leftSize : ℤ} (h : ExactSizes K sizeRange nodes) (hNode : node ∈ nodes) (hLeft : 0 < leftSize) :
    K.asApproximateFloat64 (clipped sizeRange node leftSize) = clipped sizeRange node leftSize := by
  rcases le_or_gt leftSize (2 ^ 53) with hSmall | hLarge
  · exact h.exact node hNode leftSize hLeft hSmall
  · have hSame : clipped sizeRange node leftSize = clipped sizeRange node (2 ^ 53) := by
      have hFree := (h.below node hNode).le
      have hLarge' : (2 ^ 53 : ℚ) ≤ leftSize := by exact_mod_cast hLarge.le
      have hBelow : storage node.freeResource ≤ ((2 ^ 53 : ℤ) : ℚ) := by exact_mod_cast hFree
      simp only [clipped, min_eq_right (hFree.trans hLarge'), min_eq_right hBelow]
    rw [hSame]
    exact h.exact node hNode (2 ^ 53) (by norm_num) le_rfl

theorem ExactSizes.pickedBytes_eq {K : Kube} {sizeRange : QuantityRange} {nodes : List Node} {node : Node}
    {leftSize : ℤ} (h : ExactSizes K sizeRange nodes) (hNode : node ∈ nodes) (hLeft : 0 < leftSize) :
    pickedBytes K sizeRange node leftSize = ofFloat (clipped sizeRange node leftSize) := by
  rw [pickedBytes, h.clipped_eq hNode hLeft]

theorem ExactSizes.clipped_lt {K : Kube} {sizeRange : QuantityRange} {nodes : List Node} {node : Node}
    {leftSize : ℤ} (h : ExactSizes K sizeRange nodes) (hNode : node ∈ nodes) :
    clipped sizeRange node leftSize < 2 ^ 53 :=
  lt_of_le_of_lt ((min_le_left _ _).trans (min_le_right _ _)) (h.below node hNode)

/-- The size picked on the node, or the limit, ends before its next 4 MiB. -/
def RoundsWithin (K : Kube) (sizeRange : QuantityRange) (minLocalStoragePct : ℤ) (node : Node)
    (leftSize : ℤ) : Prop :=
  clipped sizeRange node leftSize < wholeFree node + 1 ∨
    maxResultSize K node minLocalStoragePct < wholeFree node + fourMiB

theorem roundsWithin_of_aligned {K : Kube} {sizeRange : QuantityRange} {minLocalStoragePct : ℤ} {node : Node}
    {leftSize : ℤ} (h : storage node.freeResource = wholeFree node) :
    RoundsWithin K sizeRange minLocalStoragePct node leftSize := by
  refine .inl (lt_of_le_of_lt ((min_le_left _ _).trans (min_le_right _ _)) ?_)
  rw [h]
  exact lt_add_one _

theorem getAllocatableRemoteVolumeSize_cases (K : Kube) (node : Node) (volSize minLocalStoragePct : ℤ) :
    getAllocatableRemoteVolumeSize K node volSize minLocalStoragePct =
      if volSize = 0 then 0 else if maxResultSize K node minLocalStoragePct < 0 then 0
      else (min (maxResultSize K node minLocalStoragePct) volSize).tdiv fourMiB * fourMiB := by
  rw [min_def_lt]
  rfl

theorem getAllocatableRemoteVolumeSize_eq (K : Kube) (node : Node) {volSize minLocalStoragePct : ℤ}
    (h : 0 < getAllocatableRemoteVolumeSize K node volSize minLocalStoragePct) :
    getAllocatableRemoteVolumeSize K node volSize minLocalStoragePct =
      (min (maxResultSize K node minLocalStoragePct) volSize).tdiv fourMiB * fourMiB := by
  rw [getAllocatableRemoteVolumeSize_cases] at h ⊢
  split at h
  · cases h
  · split at h
    · cases h
    · rename_i hSize hLimit
      rw [if_neg hSize, if_neg hLimit]

theorem ofFloat_of_nonneg {x : ℚ} (hNonneg : 0 ≤ x) (hBelow : x < 2 ^ 53) : ofFloat x = ⌊x⌋ := by
  have hFloor : ⌊x⌋ < 2 ^ 53 := Int.floor_lt.mpr (by exact_mod_cast hBelow)
  have hRange : InInt64 ⌊x⌋ := ⟨by have := Int.floor_nonneg.mpr hNonneg; omega, by omega⟩
  rw [ofFloat, if_pos hNonneg, if_pos hRange]

theorem ofFloat_of_pos {x : ℚ} (hBelow : x < 2 ^ 53) (h : 0 < ofFloat x) : ofFloat x = ⌊x⌋ := by
  rcases le_or_gt 0 x with hx | hx
  · exact ofFloat_of_nonneg hx hBelow
  · have hCeil : ⌈x⌉ ≤ 0 := Int.ceil_le.mpr (by exact_mod_cast hx.le)
    rw [ofFloat, if_neg (not_le.mpr hx)] at h
    split at h <;> omega

theorem ofFloat_le {x : ℚ} {bound : ℤ} (hBound : 0 ≤ bound) (h : x ≤ bound) : ofFloat x ≤ bound := by
  unfold ofFloat
  dsimp only
  have hFloor : ⌊x⌋ ≤ bound := Int.floor_le_iff.mpr (lt_of_le_of_lt h (lt_add_one _))
  have hCeil : ⌈x⌉ ≤ bound := Int.ceil_le.mpr h
  split <;> split <;> omega

def alignUp (bytes : ℤ) : ℤ :=
  if 0 < bytes.tmod fourMiB then int64 (bytes.tdiv fourMiB * fourMiB + fourMiB)
  else bytes.tdiv fourMiB * fourMiB

theorem alignUp_nonpos {bytes : ℤ} (h : bytes ≤ 0) : alignUp bytes ≤ 0 := by
  have hMod : bytes.tmod fourMiB ≤ 0 := by
    have hNeg := Int.tmod_nonneg fourMiB (neg_nonneg.mpr h)
    rw [Int.neg_tmod] at hNeg
    omega
  rw [alignUp, if_neg (not_lt.mpr hMod)]
  exact tdiv_mul_le (by decide) h le_rfl

theorem alignUp_eq {bytes : ℤ} (hNonneg : 0 ≤ bytes) (hBelow : bytes ≤ 2 ^ 53) :
    alignUp bytes = (bytes + (fourMiB - 1)) / fourMiB * fourMiB := by
  rw [alignUp, Int.tmod_eq_emod_of_nonneg hNonneg, Int.tdiv_eq_ediv_of_nonneg hNonneg]
  have hRange : InInt64 (bytes / fourMiB * fourMiB + fourMiB) := by
    unfold InInt64 fourMiB
    omega
  rw [int64_of_inInt64 hRange]
  unfold fourMiB
  split <;> omega

theorem nonneg_of_cut_pos {size : ℤ} (h : 0 < size.tdiv fourMiB * fourMiB) : 0 ≤ size := by
  by_contra hNot
  exact absurd (tdiv_mul_le (by decide) (not_le.mp hNot).le le_rfl) (not_le.mpr h)

theorem cut_le_iff {bytes limit free : ℤ}
    (h : 0 < (min limit ((bytes + (fourMiB - 1)) / fourMiB * fourMiB)).tdiv fourMiB * fourMiB) :
    (min limit ((bytes + (fourMiB - 1)) / fourMiB * fourMiB)).tdiv fourMiB * fourMiB ≤ free ↔
      bytes < free / fourMiB * fourMiB + 1 ∨ limit < free / fourMiB * fourMiB + fourMiB := by
  rw [Int.tdiv_eq_ediv_of_nonneg (nonneg_of_cut_pos h)]
  unfold fourMiB
  omega

theorem pickSizeFn_eq (K : Kube) (sizeRange : QuantityRange) (node : Node) (leftSize : ℤ) :
    pickSizeFn K sizeRange node leftSize =
      if min (leftSize : ℚ) (storage node.freeResource) < sizeRange.min then 0
      else alignUp (ofFloat (K.asApproximateFloat64 (clipped sizeRange node leftSize))) := by
  rw [clipped, min_comm _ sizeRange.max, min_def_lt sizeRange.max, min_def_lt (leftSize : ℚ)]
  rfl

theorem pickSizeFn_of_pos {K : Kube} {sizeRange : QuantityRange} {node : Node} {leftSize : ℤ}
    (h : 0 < pickSizeFn K sizeRange node leftSize) :
    pickSizeFn K sizeRange node leftSize = alignUp (pickedBytes K sizeRange node leftSize) := by
  rw [pickSizeFn_eq] at h ⊢
  split at h
  · exact absurd h (lt_irrefl 0)
  · rename_i hMin
    rw [if_neg hMin]
    rfl

theorem sizeOn_eq {K : Kube} {sizeRange : QuantityRange} {minLocalStoragePct : ℤ} {node : Node} {leftSize : ℤ}
    (hBelow : pickedBytes K sizeRange node leftSize ≤ 2 ^ 53)
    (h : 0 < getAllocatableRemoteVolumeSize K node (pickSizeFn K sizeRange node leftSize) minLocalStoragePct) :
    0 < pickedBytes K sizeRange node leftSize ∧
      getAllocatableRemoteVolumeSize K node (pickSizeFn K sizeRange node leftSize) minLocalStoragePct =
        (min (maxResultSize K node minLocalStoragePct)
          ((pickedBytes K sizeRange node leftSize + (fourMiB - 1)) / fourMiB * fourMiB)).tdiv fourMiB * fourMiB := by
  have hSize := getAllocatableRemoteVolumeSize_eq K node h
  have hPicked : 0 < pickSizeFn K sizeRange node leftSize := by
    by_contra hNot
    have hMin := (min_le_right (maxResultSize K node minLocalStoragePct) _).trans (not_lt.mp hNot)
    exact absurd (tdiv_mul_le (by decide) hMin le_rfl) (not_le.mpr (hSize ▸ h))
  have hAligned := pickSizeFn_of_pos hPicked
  have hBytes : 0 < pickedBytes K sizeRange node leftSize := by
    by_contra hNot
    exact absurd (alignUp_nonpos (not_lt.mp hNot)) (not_le.mpr (hAligned ▸ hPicked))
  rw [hAligned, alignUp_eq hBytes.le hBelow] at hSize
  rw [hAligned, alignUp_eq hBytes.le hBelow]
  exact ⟨hBytes, hSize⟩

theorem size_le_free_iff {K : Kube} {sizeRange : QuantityRange} {minLocalStoragePct : ℤ} {nodes : List Node}
    {node : Node} {leftSize : ℤ} (hSizes : ExactSizes K sizeRange nodes) (hNode : node ∈ nodes)
    (hLeft : 0 < leftSize)
    (h : 0 < getAllocatableRemoteVolumeSize K node (pickSizeFn K sizeRange node leftSize) minLocalStoragePct) :
    (getAllocatableRemoteVolumeSize K node (pickSizeFn K sizeRange node leftSize) minLocalStoragePct : ℚ) ≤
        storage node.freeResource ↔
      RoundsWithin K sizeRange minLocalStoragePct node leftSize := by
  have hClipped : clipped sizeRange node leftSize < 2 ^ 53 := hSizes.clipped_lt hNode
  have hPickedBytes := hSizes.pickedBytes_eq hNode hLeft
  have hBelow : pickedBytes K sizeRange node leftSize ≤ 2 ^ 53 := by
    rw [hPickedBytes]
    exact ofFloat_le (by norm_num) (by exact_mod_cast hClipped.le)
  obtain ⟨hBytes, hSize⟩ := sizeOn_eq hBelow h
  rw [hPickedBytes] at hBytes hSize
  rw [ofFloat_of_pos hClipped hBytes] at hSize
  have hWhole : clipped sizeRange node leftSize < (wholeFree node : ℚ) + 1 ↔
      ⌊clipped sizeRange node leftSize⌋ < wholeFree node + 1 := by
    rw [Int.floor_lt]
    push_cast
    rfl
  rw [hSize] at h
  rw [← Int.le_floor, RoundsWithin, hWhole, wholeFree, hSize]
  exact cut_le_iff h

def FitsOn (nodes : List Node) (nodeID : String) (size : ℤ) : Prop :=
  ∀ node ∈ nodes, node.info.id = nodeID → (size : ℚ) ≤ storage node.freeResource

theorem picked_fits_iff {K : Kube} {cfg : SchedulerConfig} {nodes : List Node} {desired : DesiredVolumeSpec}
    {c : Cursor} {nodeID : String} {size : ℤ} (hSizes : ExactSizes K desired.sizeRange nodes)
    (hDistinct : DistinctIds nodes) (hLeft : 0 < c.leftSize)
    (h : pickNode K cfg nodes desired c = .placed nodeID size) :
    FitsOn nodes nodeID size ↔ ∀ node ∈ nodes, node.info.id = nodeID →
      RoundsWithin K desired.sizeRange cfg.minLocalStoragePct node c.leftSize := by
  obtain ⟨hPos, _, picked, hPicked, hID, rfl⟩ := pickNode_placed h
  refine forall₃_congr fun node hNode hName => ?_
  cases hDistinct picked hPicked node hNode (hID.trans hName.symm)
  exact size_le_free_iff hSizes hPicked hLeft hPos

def newEntries (group out : AntstorVolumeGroup) : Multiset VolumeMeta :=
  (out.spec.volumes : Multiset VolumeMeta) - (group.spec.volumes.filter VolumeMeta.scheduled : List VolumeMeta)

theorem newEntries_eq {group out : AntstorVolumeGroup} {news : List VolumeMeta}
    (h : out.spec.volumes.Perm
      (group.spec.volumes.filter VolumeMeta.scheduled ++ news.filter VolumeMeta.scheduled)) :
    newEntries group out = (news.filter VolumeMeta.scheduled : List VolumeMeta) := by
  rw [newEntries, Multiset.coe_eq_coe.mpr h, ← Multiset.coe_add, add_tsub_cancel_left]

theorem forall_scheduled_iff {news : List VolumeMeta} {placed : List (Cursor × String × ℤ)}
    (h : news.map (fun vol => (vol.targetNodeName, vol.size)) = placed.map Prod.snd)
    (hPos : ∀ pick ∈ placed, 0 < pick.2.2) (fits : String → ℤ → Prop) :
    (∀ vol ∈ news.filter VolumeMeta.scheduled, fits vol.targetNodeName vol.size) ↔
      ∀ pick ∈ placed, pick.2.1 ≠ "" → fits pick.2.1 pick.2.2 := by
  have hEntries : (∀ vol ∈ news.filter VolumeMeta.scheduled, fits vol.targetNodeName vol.size) ↔
      ∀ entry ∈ news.map (fun vol => (vol.targetNodeName, vol.size)),
        0 < entry.2 → entry.1 ≠ "" → fits entry.1 entry.2 := by
    simp [VolumeMeta.scheduled]
  rw [hEntries, h, List.forall_mem_map]
  refine forall₂_congr fun pick hPick => ?_
  rw [forall_prop_of_true (hPos pick hPick)]

theorem forall_newEntries_iff (K : Kube) (rand : Random) (cfg : SchedulerConfig) (nodes : List Node)
    (group : AntstorVolumeGroup) (P : String → ℤ → Prop) :
    (∀ out, schedVolGroup K rand cfg nodes group = .ok out →
      ∀ vol ∈ newEntries group out, P vol.targetNodeName vol.size) ↔
    ∀ placed, picks K cfg nodes group.spec.desiredVolumeSpec
        (placeable (group.spec.volumes.countP fun vol => !vol.scheduled)
          (roomLeft group.spec.desiredVolumeSpec (record group.spec.totalSize group.spec.volumes)))
        (record group.spec.totalSize group.spec.volumes) = some placed →
      ∀ pick ∈ placed, pick.2.1 ≠ "" → P pick.2.1 pick.2.2 := by
  have hPlaces := @placeVolumes_places K cfg nodes group.spec.desiredVolumeSpec (newVolId rand group)
    (record group.spec.totalSize group.spec.volumes) group.spec.volumes
  rw [schedVolGroup_eq]
  generalize placeVolumes _ _ _ _ _ _ _ = out at hPlaces ⊢
  generalize hPicks : picks _ _ _ _ _ _ = ps at hPlaces ⊢
  cases hPlaces with
  | failed => simp
  | @placed vols news last placed hPerm hNews =>
    have hNew : newEntries group (group.withVolumes (vols.filter VolumeMeta.scheduled)) = _ := newEntries_eq hPerm
    simp only [Except.ok.injEq, forall_eq', Option.some.injEq, hNew, Multiset.mem_coe]
    refine forall_scheduled_iff hNews ?_ P
    intro pick hPick
    exact (pickNode_placed (pickNode_of_mem_picks hPicks hPick).2).1

def PicksRoundWithin (K : Kube) (cfg : SchedulerConfig) (nodes : List Node) (group : AntstorVolumeGroup) :
    Prop :=
  let desired := group.spec.desiredVolumeSpec
  let first := record group.spec.totalSize group.spec.volumes
  ∀ placed, picks K cfg nodes desired
      (placeable (group.spec.volumes.countP fun vol => !vol.scheduled) (roomLeft desired first)) first =
        some placed →
    ∀ pick ∈ placed, pick.2.1 ≠ "" → ∀ node ∈ nodes, node.info.id = pick.2.1 →
      RoundsWithin K desired.sizeRange cfg.minLocalStoragePct node pick.1.leftSize

theorem schedVolGroup_fits_iff (K : Kube) (rand : Random) (cfg : SchedulerConfig) {nodes : List Node}
    {group : AntstorVolumeGroup} (hDistinct : DistinctIds nodes)
    (hSizes : ExactSizes K group.spec.desiredVolumeSpec.sizeRange nodes) :
    (∀ out, schedVolGroup K rand cfg nodes group = .ok out →
      ∀ vol ∈ newEntries group out, FitsOn nodes vol.targetNodeName vol.size) ↔
    PicksRoundWithin K cfg nodes group := by
  refine (forall_newEntries_iff K rand cfg nodes group (FitsOn nodes)).trans ?_
  refine forall₂_congr fun placed hPicks => forall₃_congr fun pick hPick _ => ?_
  obtain ⟨hLeft, hPlaced⟩ := pickNode_of_mem_picks hPicks hPick
  exact picked_fits_iff hSizes hDistinct hLeft hPlaced

theorem twelveMiB_fits : (schedVolGroup .exact numbered {} pair (twelveMiB 3)).toOption.isSome ∧
    ∀ out, schedVolGroup .exact numbered {} pair (twelveMiB 3) = .ok out →
      ∀ vol ∈ newEntries (twelveMiB 3) out, FitsOn pair vol.targetNodeName vol.size := by
  refine ⟨by decide +kernel, (schedVolGroup_fits_iff .exact numbered {} ?_ ⟨?_, ?_⟩).mpr ?_⟩
  · intro a ha b hb hab
    revert a b
    decide +kernel
  · decide +kernel
  · intro node _ leftSize _ _
    rfl
  · have hAligned : ∀ node ∈ pair, storage node.freeResource = wholeFree node := by decide +kernel
    intro placed _ pick _ _ node hNode _
    exact roundsWithin_of_aligned (hAligned node hNode)

def sixMiB : List Node := [.newNode
  { spec := { kernelLVM := { bytes := 2 ^ 24 }, nodeInfo := { id := "a" } }
    status := { capacity := Finmap.singleton resourceDiskPoolByte (6 * 2 ^ 20) } }]

def eightMiB : AntstorVolumeGroup := { twelveMiB 3 with spec := { (twelveMiB 3).spec with totalSize := 2 ^ 23 } }

theorem eightMiB_does_not_fit : ¬ ∀ out, schedVolGroup .exact numbered {} sixMiB eightMiB = .ok out →
    ∀ vol ∈ newEntries eightMiB out, FitsOn sixMiB vol.targetNodeName vol.size := by
  intro h
  have hNew : (schedVolGroup .exact numbered {} sixMiB eightMiB).toOption.map (newEntries eightMiB) =
      some {{ volId := newVolId numbered eightMiB 0, targetNodeName := "a", size := 2 ^ 23 }} := by
    decide +kernel
  cases hOut : schedVolGroup .exact numbered {} sixMiB eightMiB with
  | error err => simp [hOut, Except.toOption] at hNew
  | ok out =>
    simp only [hOut, Except.toOption, Option.map_some, Option.some.injEq] at hNew
    have hFits := h out hOut _ (hNew ▸ Multiset.mem_singleton_self _)
    revert hFits
    unfold FitsOn
    decide +kernel

end Liteio.VolumeGroup
