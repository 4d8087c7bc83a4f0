import Liteio.VolumeGroup.Fits

/-! # What scheduling leaves of a group

`schedVolGroup` changes entries in place, appends others and filters the list.
The nodes in use and the number of entries are counted before the first loop, so
all of the later picks are on nodes of their own and within the count range.
-/

namespace Liteio.VolumeGroup

structure Conserves (group out : AntstorVolumeGroup) : Prop where
  kept : (group.spec.volumes.filter VolumeMeta.scheduled).Sublist out.spec.volumes
  alone : ∀ vol ∈ newEntries group out,
    (out.spec.volumes.map VolumeMeta.targetNodeName).count vol.targetNodeName = 1
  scheduled : ∀ vol ∈ out.spec.volumes, 0 < vol.size ∧ vol.targetNodeName ≠ ""
  count : (out.spec.volumes.length : ℤ) ≤
    max group.spec.desiredVolumeSpec.countRange.max (group.spec.volumes.countP VolumeMeta.scheduled)

theorem filter_sublist_of_filled {vols filled : List VolumeMeta} (h : List.Forall₂ Filled vols filled) :
    (vols.filter VolumeMeta.scheduled).Sublist (filled.filter VolumeMeta.scheduled) := by
  induction h with
  | nil => exact .slnil
  | @cons old new olds news hHead _ ih =>
    rw [filter_scheduled_cons old, filter_scheduled_cons new]
    refine List.Sublist.append ?_ ih
    rcases hHead with rfl | ⟨hUnscheduled, _⟩
    · exact List.Sublist.refl _
    · rw [List.filter_cons_of_neg (by simp [hUnscheduled])]
      exact List.nil_sublist _

section

variable {K : Kube} {cfg : SchedulerConfig} {nodes : List Node} {desired : DesiredVolumeSpec}

structure FreshPicks (n : ℕ) (c : Cursor) (placed : List (Cursor × String × ℤ)) : Prop where
  nodup : (placed.map fun pick => pick.2.1).Nodup
  unused : ∀ pick ∈ placed, pick.2.1 ∉ c.tgtNodeSet
  length_le : placed.length ≤ n

theorem freshPicks_nil (n : ℕ) (c : Cursor) : FreshPicks n c [] := ⟨List.nodup_nil, by simp, Nat.zero_le n⟩

theorem FreshPicks.cons {n : ℕ} {c : Cursor} {nodeID : String} {size : ℤ}
    {placed : List (Cursor × String × ℤ)} (h : FreshPicks n (c.add nodeID size) placed)
    (hUnused : nodeID ∉ c.tgtNodeSet) : FreshPicks (n + 1) c ((c, nodeID, size) :: placed) := by
  have hLater : ∀ pick ∈ placed, pick.2.1 ≠ nodeID ∧ pick.2.1 ∉ c.tgtNodeSet := by
    intro pick hPick
    have hNot := h.unused pick hPick
    simp only [Cursor.add, Finset.mem_insert, not_or] at hNot
    exact hNot
  refine ⟨List.nodup_cons.mpr ⟨?_, h.nodup⟩, ?_, Nat.succ_le_succ h.length_le⟩
  · intro hMem
    obtain ⟨pick, hPick, hName⟩ := List.mem_map.mp hMem
    exact (hLater pick hPick).1 hName
  · intro pick hPick
    rcases List.mem_cons.mp hPick with rfl | hPick
    · exact hUnused
    · exact (hLater pick hPick).2

theorem picks_fresh {n : ℕ} {c : Cursor} {placed : List (Cursor × String × ℤ)}
    (h : picks K cfg nodes desired n c = some placed) : FreshPicks n c placed := by
  induction placed generalizing n c with
  | nil => exact freshPicks_nil n c
  | cons first rest ih =>
    obtain hNil | ⟨m, nodeID, size, _, rfl, -, hPlaced, hRest, ⟨⟩⟩ := picks_cases h
    · cases hNil
    · exact (ih hRest).cons (pickNode_placed hPlaced).2.1

end

theorem placeable_le (unscheduled room : ℕ) : placeable unscheduled room ≤ room := by
  unfold placeable
  omega

theorem schedVolGroup_kept {K : Kube} {rand : Random} {cfg : SchedulerConfig} {nodes : List Node}
    {group out : AntstorVolumeGroup} (h : schedVolGroup K rand cfg nodes group = .ok out) :
    (group.spec.volumes.filter VolumeMeta.scheduled).Sublist out.spec.volumes := by
  obtain ⟨-, ⟨hExtends⟩⟩ := schedVolGroup_extends h
  rw [hExtends.entries_eq, List.filter_append]
  exact (filter_sublist_of_filled hExtends.filled_of).trans (List.sublist_append_left _ _)

theorem count_eq_one {n : ℕ} {c : Cursor} {kept news : List VolumeMeta} {placed : List (Cursor × String × ℤ)}
    (h : FreshPicks n c placed) (hUsed : ∀ vol ∈ kept, vol.targetNodeName ∈ c.tgtNodeSet)
    (hNews : news.map (fun vol => (vol.targetNodeName, vol.size)) = placed.map Prod.snd)
    {vol : VolumeMeta} (hVol : vol ∈ news.filter VolumeMeta.scheduled) :
    ((kept ++ news.filter VolumeMeta.scheduled).map VolumeMeta.targetNodeName).count vol.targetNodeName = 1 := by
  have hNames : news.map VolumeMeta.targetNodeName = placed.map fun pick => pick.2.1 := by
    have hFst := congrArg (List.map Prod.fst) hNews
    rwa [List.map_map, List.map_map] at hFst
  have hNodup : ((news.filter VolumeMeta.scheduled).map VolumeMeta.targetNodeName).Nodup := by
    refine List.Nodup.sublist (List.filter_sublist.map _) ?_
    rw [hNames]
    exact h.nodup
  have hNew : vol.targetNodeName ∉ kept.map VolumeMeta.targetNodeName := by
    intro hMem
    obtain ⟨other, hOther, hSame⟩ := List.mem_map.mp hMem
    have hPicked : vol.targetNodeName ∈ placed.map fun pick => pick.2.1 :=
      hNames ▸ List.mem_map_of_mem (List.mem_of_mem_filter hVol)
    obtain ⟨pick, hPick, hName⟩ := List.mem_map.mp hPicked
    exact h.unused pick hPick (hName.trans hSame.symm ▸ hUsed other hOther)
  rw [List.map_append, List.count_append, List.count_eq_zero_of_not_mem hNew, zero_add]
  exact List.count_eq_one_of_mem hNodup (List.mem_map_of_mem hVol)

theorem schedVolGroup_conserves {K : Kube} {rand : Random} {cfg : SchedulerConfig} {nodes : List Node}
    {group out : AntstorVolumeGroup} (h : schedVolGroup K rand cfg nodes group = .ok out) :
    Conserves group out := by
  obtain ⟨hCount, hUsed⟩ := foldl_add_used group.spec.volumes ⟨0, group.spec.totalSize, ∅⟩
  obtain ⟨news, placed, hPicks, hPerm, hNews⟩ := schedVolGroup_places h
  have hFresh := picks_fresh hPicks
  refine ⟨schedVolGroup_kept h, ?_, ?_, ?_⟩
  · intro vol hVol
    rw [newEntries_eq hPerm] at hVol
    have hNames := (hPerm.map VolumeMeta.targetNodeName).count_eq vol.targetNodeName
    refine hNames.trans (count_eq_one hFresh ?_ hNews hVol)
    intro other hOther
    rw [record, hUsed, Finset.empty_union, List.mem_toFinset]
    exact List.mem_map_of_mem hOther
  · intro vol hVol
    rw [hPerm.mem_iff, ← List.filter_append] at hVol
    simpa [VolumeMeta.scheduled] using (List.mem_filter.mp hVol).2
  · have hLength : news.length = placed.length := by simpa using congrArg List.length hNews
    have hFiltered := List.length_filter_le VolumeMeta.scheduled news
    have hRoom := hFresh.length_le.trans (placeable_le _ _)
    rw [hPerm.length_eq, List.length_append, List.countP_eq_length_filter]
    rw [List.countP_eq_length_filter] at hCount
    change (record group.spec.totalSize group.spec.volumes).cnt = _ at hCount
    rw [roomLeft, hCount] at hRoom
    omega

def halfPlaced : AntstorVolumeGroup :=
  (twelveMiB 2).withVolumes [{ volId := { name := "new" } },
    { volId := { name := "old" }, size := 2 ^ 22, targetNodeName := "a" }]

theorem halfPlaced_conserved :
    ∃ out, schedVolGroup .exact numbered {} pair halfPlaced = .ok out ∧ Conserves halfPlaced out := by
  have hSome : (schedVolGroup .exact numbered {} pair halfPlaced).toOption.isSome := by decide +kernel
  cases hOut : schedVolGroup .exact numbered {} pair halfPlaced with
  | error err => simp [hOut, Except.toOption] at hSome
  | ok out => exact ⟨out, rfl, schedVolGroup_conserves hOut⟩

end Liteio.VolumeGroup
