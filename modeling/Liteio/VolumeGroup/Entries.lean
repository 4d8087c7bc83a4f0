import Liteio.VolumeGroup.Complete

/-! # The entries a scheduled group ends with

Scheduling keeps the entries that have a node, gives a node to some that have
none under their old identity, and appends entries with identities of its own,
one pass of the loop each.
-/

namespace Liteio.VolumeGroup

open MachineInt FilterChain

theorem tdiv_mul_le {a b bound : ℤ} (hb : 0 < b) (h : a ≤ bound) (hBound : 0 ≤ bound) :
    a.tdiv b * b ≤ bound := by
  rcases le_or_gt 0 a with ha | ha
  · have hSplit := Int.tmod_add_tdiv_mul a b
    have hMod := Int.tmod_nonneg b ha
    omega
  · have hDiv : a.tdiv b ≤ 0 := by
      have hNeg := Int.tdiv_nonneg (neg_nonneg.mpr ha.le) hb.le
      rw [Int.neg_tdiv] at hNeg
      omega
    exact (mul_nonpos_of_nonpos_of_nonneg hDiv hb.le).trans hBound

theorem getAllocatableRemoteVolumeSize_lt (K : Kube) (node : Node) (volSize minLocalStoragePct : ℤ) :
    getAllocatableRemoteVolumeSize K node volSize minLocalStoragePct < 2 ^ 63 := by
  unfold getAllocatableRemoteVolumeSize
  split
  · norm_num
  · dsimp only
    split
    · norm_num
    · rename_i hNonneg
      refine lt_of_le_of_lt (tdiv_mul_le (by decide) ?_ (not_lt.mp hNonneg)) (int64_inInt64 _).2
      split <;> omega

def ValidSize (size : ℤ) : Prop := 0 < size ∧ size < 2 ^ 63

def Filled (old new : VolumeMeta) : Prop :=
  new = old ∨ old.scheduled = false ∧ new.volId = old.volId ∧ ValidSize new.size

section

variable {K : Kube} {cfg : SchedulerConfig} {nodes : List Node} {desired : DesiredVolumeSpec}
  {newId : ℕ → EntityIdentity}

theorem validSize_of_placed {c : Cursor} {nodeID : String} {size : ℤ}
    (h : pickNode K cfg nodes desired c = .placed nodeID size) : ValidSize size := by
  obtain ⟨hPos, _, n, _, _, rfl⟩ := pickNode_placed h
  exact ⟨hPos, getAllocatableRemoteVolumeSize_lt _ _ _ _⟩

theorem fillVolumes_filled {c last : Cursor} {vols filled : List VolumeMeta}
    (h : fillVolumes K cfg nodes desired c vols = some (filled, last)) : List.Forall₂ Filled vols filled := by
  induction vols generalizing c filled last with
  | nil =>
    cases h
    exact .nil
  | cons vol vols ih =>
    have hCons : ∀ (next : Cursor) (new : VolumeMeta), Filled vol new →
        (fillVolumes K cfg nodes desired next vols).map (consVolume new) = some (filled, last) →
        List.Forall₂ Filled (vol :: vols) filled := by
      intro next new hNew hMap
      obtain ⟨⟨rest, c'⟩, hRest, hOut⟩ := Option.map_eq_some_iff.mp hMap
      cases hOut
      exact .cons hNew (ih hRest)
    rw [fillVolumes] at h
    split at h
    · rename_i hNeed
      have hUnscheduled : vol.scheduled = false := by
        simp only [Bool.and_eq_true, Bool.not_eq_true'] at hNeed
        exact hNeed.1
      split at h
      · rename_i nodeID size hPick
        refine hCons _ _ (.inr ⟨hUnscheduled, ?_, validSize_of_placed hPick⟩) h
        rfl
      · cases h
      · exact hCons _ _ (.inl rfl) h
    · exact hCons _ _ (.inl rfl) h

theorem appendVolumes_passes {fuel i : ℕ} {c last : Cursor} {added : List VolumeMeta}
    (h : appendVolumes K cfg nodes desired newId fuel i c = some (added, last)) :
    ∃ passes : List ℕ, passes.Pairwise (· < ·) ∧ (∀ j ∈ passes, i ≤ j ∧ (j : ℤ) < desired.countRange.max) ∧
      List.Forall₂ (fun j vol => vol.volId = newId j ∧ ValidSize vol.size) passes added := by
  induction fuel generalizing i c added last with
  | zero =>
    cases h
    exact ⟨[], .nil, by simp, .nil⟩
  | succ fuel ih =>
    have hLater : appendVolumes K cfg nodes desired newId fuel (i + 1) c = some (added, last) →
        ∃ passes : List ℕ, passes.Pairwise (· < ·) ∧
          (∀ j ∈ passes, i ≤ j ∧ (j : ℤ) < desired.countRange.max) ∧
          List.Forall₂ (fun j vol => vol.volId = newId j ∧ ValidSize vol.size) passes added := by
      intro hRest
      obtain ⟨passes, hSorted, hRange, hAdded⟩ := ih hRest
      exact ⟨passes, hSorted, fun j hj => ⟨by have := (hRange j hj).1; omega, (hRange j hj).2⟩, hAdded⟩
    rw [appendVolumes] at h
    split at h
    · rename_i hBound
      split at h
      · split at h
        · rename_i nodeID size hPick
          obtain ⟨⟨rest, c'⟩, hRest, hOut⟩ := Option.map_eq_some_iff.mp h
          cases hOut
          obtain ⟨passes, hSorted, hRange, hAdded⟩ := ih hRest
          refine ⟨i :: passes, List.pairwise_cons.mpr ⟨?_, hSorted⟩, ?_,
            .cons ⟨rfl, validSize_of_placed hPick⟩ hAdded⟩
          · intro j hj
            have := (hRange j hj).1
            omega
          · intro j hj
            rcases List.mem_cons.mp hj with rfl | hj
            · exact ⟨le_rfl, by omega⟩
            · exact ⟨by have := (hRange j hj).1; omega, (hRange j hj).2⟩
        · cases h
        · exact hLater h
      · exact hLater h
    · cases h
      exact ⟨[], .nil, by simp, .nil⟩

end

structure Extends (rand : Random) (group : AntstorVolumeGroup) (entries : List VolumeMeta) where
  filled : List VolumeMeta
  added : List VolumeMeta
  passes : List ℕ
  entries_eq : entries = (filled ++ added).filter VolumeMeta.scheduled
  filled_of : List.Forall₂ Filled group.spec.volumes filled
  sorted : passes.Pairwise (· < ·)
  inRange : ∀ j ∈ passes, (j : ℤ) < group.spec.desiredVolumeSpec.countRange.max
  added_of : List.Forall₂ (fun j vol => vol.volId = newVolId rand group j ∧ ValidSize vol.size) passes added

theorem schedVolGroup_extends {K : Kube} {rand : Random} {cfg : SchedulerConfig} {nodes : List Node}
    {group out : AntstorVolumeGroup} (h : schedVolGroup K rand cfg nodes group = .ok out) :
    out = group.withVolumes out.spec.volumes ∧ Nonempty (Extends rand group out.spec.volumes) := by
  unfold schedVolGroup at h
  dsimp only at h
  split at h
  · cases h
  · rename_i filled c hFilled
    split at h
    · cases h
    · rename_i added last hAdded
      cases h
      obtain ⟨passes, hSorted, hRange, hPasses⟩ := appendVolumes_passes hAdded
      exact ⟨rfl, ⟨filled, added, passes, rfl, fillVolumes_filled hFilled, hSorted,
        fun j hj => (hRange j hj).2, hPasses⟩⟩

theorem scheduleVolumeGroup_extends {K : Kube} {rand : Random} {sorter : Sorter moreStorage}
    {cfg : SchedulerConfig} {allNodes nodes : List Node} {group out : AntstorVolumeGroup}
    (h : scheduleVolumeGroup K rand sorter cfg allNodes group = some ⟨nodes, .ok out⟩) :
    out = group ∨
      out = group.withVolumes out.spec.volumes ∧ Nonempty (Extends rand group out.spec.volumes) := by
  unfold scheduleVolumeGroup at h
  split at h
  · cases h
    exact .inl rfl
  · obtain ⟨results, _, hOut⟩ := Option.map_eq_some_iff.mp h
    have hResult := congrArg ScheduledGroup.result hOut
    dsimp only at hResult
    split at hResult
    · cases hResult
    · exact .inr (schedVolGroup_extends hResult)

end Liteio.VolumeGroup
