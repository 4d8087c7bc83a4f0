import Liteio.VolumeGroup.Entries
import Liteio.VolumeGroup.Reconcile

/-! # Entries and the volumes behind them

The invariant that links the entries of a group to the volumes of the API
server: a volume under the name of an entry was made for this entry as it is
now. Creating volumes and scheduling entries keep it; a rollback keeps it when
the volume of the entry it clears is gone.
-/

namespace Liteio.VolumeGroup

open MachineInt FilterChain

structure Backs (entry : VolumeMeta) (vol : AntstorVolume) : Prop where
  scheduled : entry.scheduled
  size : (vol.spec.sizeByte : ℤ) = entry.size
  pinned : vol.spec.poolAffinity = some (pinTo entry.targetNodeName)
  free : vol.annotationAt selectedTgtNodeKey = none
  onNode : vol.spec.targetNodeId = "" ∨ vol.spec.targetNodeId = entry.targetNodeName
  ready : vol.status.status = .ready → vol.spec.targetNodeId ≠ ""

structure Linked (entries : List VolumeMeta) (vols : Volumes) : Prop where
  complete : ∀ entry ∈ entries, entry.volId.complete
  distinct : (entries.map fun entry => entry.volId.key).Nodup
  inInt64 : ∀ entry ∈ entries, entry.size < 2 ^ 63
  backed : ∀ entry ∈ entries, ∀ vol, vols.lookup entry.volId.key = some vol → Backs entry vol

theorem scheduled_iff {vol : VolumeMeta} : vol.scheduled = true ↔ 0 < vol.size ∧ vol.targetNodeName ≠ "" := by
  simp [VolumeMeta.scheduled]

theorem Linked.shrink {entries : List VolumeMeta} {vols fewer : Volumes} (h : Linked entries vols)
    (hFewer : ∀ key vol, fewer.lookup key = some vol → vols.lookup key = some vol) : Linked entries fewer :=
  { h with backed := fun entry hEntry vol hVol => h.backed entry hEntry vol (hFewer _ vol hVol) }

theorem Linked.eq_of_key {entries : List VolumeMeta} {vols : Volumes} (h : Linked entries vols)
    {a b : VolumeMeta} (ha : a ∈ entries) (hb : b ∈ entries) (hKey : a.volId.key = b.volId.key) : a = b :=
  List.inj_on_of_nodup_map h.distinct ha hb hKey

theorem Linked.insert {entries : List VolumeMeta} {vols : Volumes} (h : Linked entries vols) {key : Key}
    {vol : AntstorVolume} (hVol : ∀ entry ∈ entries, entry.volId.key = key → Backs entry vol) :
    Linked entries (vols.insert key vol) := by
  refine { h with backed := ?_ }
  intro entry hEntry other hOther
  rw [FiniteMap.lookup_insert_eq] at hOther
  split at hOther
  · rename_i hKey
    cases hOther
    exact hVol entry hEntry hKey
  · exact h.backed entry hEntry other hOther

theorem Linked.onVolume {entries : List VolumeMeta} {s : Cluster} (h : Linked entries s.volumes) {key : Key}
    {f : AntstorVolume → AntstorVolume} (hf : ∀ entry vol, Backs entry vol → Backs entry (f vol)) :
    Linked entries (onVolume s key f).volumes := by
  unfold VolumeGroup.onVolume
  split
  · rename_i vol hVol
    apply h.insert
    rintro entry hEntry rfl
    exact hf entry vol (h.backed entry hEntry vol hVol)
  · exact h

theorem uint64_of_scheduled {entry : VolumeMeta} (hScheduled : entry.scheduled) (hSize : entry.size < 2 ^ 63) :
    (uint64 entry.size : ℤ) = entry.size := by
  have hPos := (scheduled_iff.mp hScheduled).1
  rw [uint64]
  omega

theorem newVolume_backs {group : AntstorVolumeGroup} {entry : VolumeMeta} (hGroup : selectedTgtNode group = none)
    (hScheduled : entry.scheduled) (hSize : entry.size < 2 ^ 63) (now : ℕ) :
    Backs entry { newVolume group entry.volId entry.size entry.targetNodeName with creationTimestamp := now } where
  scheduled := hScheduled
  size := uint64_of_scheduled hScheduled hSize
  pinned := rfl
  free := (newVolume_selected group entry.volId entry.size entry.targetNodeName).trans hGroup
  onNode := .inl rfl
  ready h := by cases h

section sync

variable {calls : Calls} {group : AntstorVolumeGroup}

theorem syncEntry_linked {entries : List VolumeMeta} {vols : Volumes} (h : Linked entries vols)
    (hGroup : selectedTgtNode group = none) {item : VolumeMeta} (hItem : item ∈ entries) :
    Linked entries (syncEntry calls group vols item).2.1 := by
  unfold syncEntry
  dsimp only
  split
  · split
    · dsimp only
      split
      · rename_i hCreated
        simp only [Bool.and_eq_true, Bool.not_eq_true'] at hCreated
        apply h.insert
        intro entry hEntry hKey
        rw [h.eq_of_key hEntry hItem hKey]
        exact newVolume_backs hGroup hCreated.1.1 (h.inInt64 item hItem) calls.now
      · exact h
    · exact h
  · exact h

theorem syncEntries_linked {entries items : List VolumeMeta} {vols : Volumes} (h : Linked entries vols)
    (hGroup : selectedTgtNode group = none) (hItems : ∀ item ∈ items, item ∈ entries) :
    Linked entries (syncEntries calls group vols items).2.1 := by
  induction items generalizing vols with
  | nil => exact h
  | cons item items ih =>
    exact ih (syncEntry_linked h hGroup (hItems item List.mem_cons_self))
      fun other hOther => hItems other (List.mem_cons_of_mem _ hOther)

theorem syncEntry_lookup {vols : Volumes} {item : VolumeMeta} {key : Key} {vol : AntstorVolume}
    (h : (syncEntry calls group vols item).2.1.lookup key = some vol) :
    vols.lookup key = some vol ∨ item.volId.key = key ∧ vol.creationTimestamp = calls.now := by
  unfold syncEntry at h
  dsimp only at h
  split at h
  · split at h
    · dsimp only at h
      split at h
      · rw [FiniteMap.lookup_insert_eq] at h
        split at h
        · rename_i hKey
          cases h
          exact .inr ⟨hKey.symm, rfl⟩
        · exact .inl h
      · exact .inl h
    · exact .inl h
  · exact .inl h

theorem syncEntries_lookup {vols : Volumes} {items : List VolumeMeta} {key : Key} {vol : AntstorVolume}
    (h : (syncEntries calls group vols items).2.1.lookup key = some vol) :
    vols.lookup key = some vol ∨
      key ∈ items.map (fun item => item.volId.key) ∧ vol.creationTimestamp = calls.now := by
  induction items generalizing vols with
  | nil => exact .inl h
  | cons item items ih =>
    rcases ih h with hOld | ⟨hKey, hNow⟩
    · rcases syncEntry_lookup hOld with hOld | ⟨hKey, hNow⟩
      · exact .inl hOld
      · exact .inr ⟨hKey ▸ List.mem_cons_self, hNow⟩
    · exact .inr ⟨List.mem_cons_of_mem _ hKey, hNow⟩

theorem syncEntry_ready {vols : Volumes} {item : VolumeMeta} (hComplete : item.volId.complete)
    (h : (syncEntry calls group vols item).2.2 = true) :
    (syncEntry calls group vols item).2.1 = vols ∧
      ∃ vol, vols.lookup item.volId.key = some vol ∧ vol.status.status = .ready := by
  unfold syncEntry at h ⊢
  dsimp only at h ⊢
  rw [if_pos hComplete] at h ⊢
  split at h
  · cases h
  · rename_i vol hVol
    refine ⟨rfl, vol, ?_, of_decide_eq_true h⟩
    split at hVol
    · cases hVol
    · exact hVol

theorem syncEntries_ready {vols : Volumes} {items : List VolumeMeta}
    (hComplete : ∀ item ∈ items, item.volId.complete)
    (h : (syncEntries calls group vols items).2.2 = true) :
    (syncEntries calls group vols items).2.1 = vols ∧
      ∀ item ∈ items, ∃ vol, vols.lookup item.volId.key = some vol ∧ vol.status.status = .ready := by
  induction items with
  | nil => exact ⟨rfl, by simp⟩
  | cons item items ih =>
    rw [syncEntries] at h ⊢
    dsimp only at h ⊢
    rw [Bool.and_eq_true] at h
    obtain ⟨hItem, hItems⟩ := h
    obtain ⟨hSame, hVol⟩ := syncEntry_ready (hComplete item List.mem_cons_self) hItem
    rw [hSame] at hItems ⊢
    obtain ⟨hRest, hVols⟩ := ih (fun other hOther => hComplete other (List.mem_cons_of_mem _ hOther)) hItems
    refine ⟨hRest, ?_⟩
    intro other hOther
    rcases List.mem_cons.mp hOther with rfl | hOther
    · exact hVol
    · exact hVols other hOther

end sync

section rollback

def Clears (calls : Calls) (vols : Volumes) (key : Key) : Prop :=
  calls.rollbackGetFails key = false ∧ ∀ vol ∈ vols.lookup key,
    calls.now - vol.creationTimestamp ≤ 60 ∨ calls.deleteFails key = false ∧ vol.finalizers = []

instance (calls : Calls) (vols : Volumes) (key : Key) : Decidable (Clears calls vols key) :=
  inferInstanceAs (Decidable (_ ∧ _))

theorem Clears.shrink {calls : Calls} {vols fewer : Volumes} {key : Key} (h : Clears calls vols key)
    (hFewer : ∀ key vol, fewer.lookup key = some vol → vols.lookup key = some vol) :
    Clears calls fewer key :=
  ⟨h.1, fun vol hVol => h.2 vol (hFewer key vol hVol)⟩

theorem rollbackVolume_clears {calls : Calls} {vols fewer : Volumes} {key : Key} (hClears : Clears calls vols key)
    (h : rollbackVolume calls vols key = some fewer) :
    fewer.lookup key = none ∧ ∀ other vol, fewer.lookup other = some vol → vols.lookup other = some vol := by
  obtain ⟨hGet, hVols⟩ := hClears
  rw [rollbackVolume, hGet, if_neg Bool.false_ne_true] at h
  split at h
  · rename_i hNone
    cases h
    exact ⟨hNone, fun _ _ hVol => hVol⟩
  · rename_i vol hVol
    split at h
    · rename_i hOld
      rcases hVols vol hVol with hYoung | ⟨hDelete, hFinalizers⟩
      · omega
      · rw [hDelete, if_neg Bool.false_ne_true, deleteVolume, if_pos hFinalizers] at h
        cases h
        exact ⟨Finmap.lookup_erase key vols, fun _ _ => FiniteMap.lookup_of_erase⟩
    · cases h

theorem Linked.clear {done entries : List VolumeMeta} {entry : VolumeMeta} {vols : Volumes}
    (h : Linked (done ++ entry :: entries) vols) (hGone : vols.lookup entry.volId.key = none) :
    Linked (done ++ { entry with targetNodeName := "", size := 0 } :: entries) vols := by
  have hMem : ∀ other ∈ done ++ { entry with targetNodeName := "", size := 0 } :: entries,
      other ∈ done ++ entry :: entries ∨ other = { entry with targetNodeName := "", size := 0 } := by
    intro other hOther
    simp only [List.mem_append, List.mem_cons] at hOther ⊢
    tauto
  have hEntry : entry ∈ done ++ entry :: entries := by simp
  refine ⟨?_, ?_, ?_, ?_⟩
  · intro other hOther
    rcases hMem other hOther with hOld | rfl
    · exact h.complete other hOld
    · exact h.complete entry hEntry
  · simpa using h.distinct
  · intro other hOther
    rcases hMem other hOther with hOld | rfl
    · exact h.inInt64 other hOld
    · norm_num
  · intro other hOther vol hVol
    rcases hMem other hOther with hOld | rfl
    · exact h.backed other hOld vol hVol
    · rw [hGone] at hVol
      cases hVol

/-- Every entry whose recorded status reports a scheduling failure can be
cleared. -/
def RollbackClears (calls : Calls) (vols : Volumes) (items : List VolumeTargetStatus)
    (entries : List VolumeMeta) : Prop :=
  ∀ pair ∈ items.zip entries, schedulingFailed pair.1 → Clears calls vols pair.2.volId.key

instance (calls : Calls) (vols : Volumes) (items : List VolumeTargetStatus) (entries : List VolumeMeta) :
    Decidable (RollbackClears calls vols items entries) :=
  inferInstanceAs (Decidable (∀ pair ∈ _, _ → _))

theorem RollbackClears.tail {calls : Calls} {vols fewer : Volumes} {item : VolumeTargetStatus}
    {items : List VolumeTargetStatus} {entry : VolumeMeta} {entries : List VolumeMeta}
    (h : RollbackClears calls vols (item :: items) (entry :: entries))
    (hFewer : ∀ key vol, fewer.lookup key = some vol → vols.lookup key = some vol) :
    RollbackClears calls fewer items entries :=
  fun pair hPair hFailed => (h pair (List.mem_cons_of_mem _ hPair) hFailed).shrink hFewer

theorem rollbackEntries_linked {calls : Calls} {vols : Volumes} {items : List VolumeTargetStatus}
    (done : List VolumeMeta) {entries : List VolumeMeta} (h : Linked (done ++ entries) vols)
    (hClears : RollbackClears calls vols items entries) :
    Linked (done ++ (rollbackEntries calls vols items entries).entries)
        (rollbackEntries calls vols items entries).volumes ∧
      ∀ key vol, (rollbackEntries calls vols items entries).volumes.lookup key = some vol →
        vols.lookup key = some vol := by
  induction items generalizing vols done entries with
  | nil => exact ⟨h, fun _ _ hVol => hVol⟩
  | cons item items ih =>
    cases entries with
    | nil =>
      rw [rollbackEntries]
      split
      · exact ⟨h, fun _ _ hVol => hVol⟩
      · exact ih done h (by simp [RollbackClears])
    | cons entry entries =>
      rw [rollbackEntries]
      split
      · have hMoved : Linked ((done ++ [entry]) ++ entries) vols := by simpa using h
        have hRest := ih _ hMoved (hClears.tail fun _ _ hVol => hVol)
        simpa using hRest
      · rename_i fewer hFewer
        split at hFewer
        · rename_i hFailed
          obtain ⟨hGone, hShrinks⟩ := rollbackVolume_clears
            (hClears (item, entry) List.mem_cons_self hFailed) hFewer
          have hCleared := (h.shrink hShrinks).clear hGone
          have hMoved : Linked ((done ++ [{ entry with targetNodeName := "", size := 0 }]) ++ entries) fewer := by
            simpa using hCleared
          obtain ⟨hRest, hVols⟩ := ih _ hMoved (hClears.tail hShrinks)
          refine ⟨by simpa using hRest, ?_⟩
          intro key vol hVol
          exact hShrinks key vol (hVols key vol hVol)
        · cases hFewer

end rollback

section schedule

def Fresh (rand : Random) (group : AntstorVolumeGroup) (vols : Volumes) : Prop :=
  group.ns ≠ "" ∧ ∀ i < group.spec.desiredVolumeSpec.countRange.max.toNat,
    rand.uuid i ≠ "" ∧ vols.lookup (newVolId rand group i).key = none ∧
    (newVolId rand group i).key ∉ group.spec.volumes.map (fun entry => entry.volId.key) ∧
    ∀ j < i, (newVolId rand group j).key ≠ (newVolId rand group i).key

instance (rand : Random) (group : AntstorVolumeGroup) (vols : Volumes) : Decidable (Fresh rand group vols) :=
  inferInstanceAs (Decidable (_ ∧ _))

theorem Fresh.of_lookup {rand : Random} {group : AntstorVolumeGroup} {vols others : Volumes}
    (h : Fresh rand group vols)
    (hOthers : ∀ key vol, others.lookup key = some vol → vols.lookup key = some vol ∨
      key ∈ group.spec.volumes.map fun entry => entry.volId.key) : Fresh rand group others := by
  refine ⟨h.1, ?_⟩
  intro i hi
  obtain ⟨hUuid, hUnused, hNotEntry, hInjective⟩ := h.2 i hi
  refine ⟨hUuid, ?_, hNotEntry, hInjective⟩
  rw [Option.eq_none_iff_forall_ne_some]
  intro vol hVol
  rcases hOthers _ vol hVol with hOld | hEntry
  · rw [hUnused] at hOld
    cases hOld
  · exact hNotEntry hEntry

theorem newVolId_complete {rand : Random} {group : AntstorVolumeGroup} {i : ℕ} (hNs : group.ns ≠ "")
    (hUuid : rand.uuid i ≠ "") : (newVolId rand group i).complete := by
  have hName : group.name ++ "-" ++ rand.suffix i ≠ "" := by
    intro h
    have hLength := congrArg String.length h
    simp [String.length_append] at hLength
  simp [EntityIdentity.complete, newVolId, hNs, hUuid, hName]

theorem filled_keys {olds news : List VolumeMeta} (h : List.Forall₂ Filled olds news) :
    news.map (fun entry => entry.volId.key) = olds.map (fun entry => entry.volId.key) := by
  induction h with
  | nil => rfl
  | cons hFilled _ ih =>
    rw [List.map_cons, List.map_cons, ih]
    rcases hFilled with rfl | ⟨_, hId, _⟩
    · rfl
    · rw [hId]

theorem Extends.cases {rand : Random} {group : AntstorVolumeGroup} {entries : List VolumeMeta}
    (h : Extends rand group entries) {entry : VolumeMeta} (hEntry : entry ∈ entries) :
    entry ∈ group.spec.volumes ∨
      (∃ old ∈ group.spec.volumes, old.scheduled = false ∧ entry.volId = old.volId ∧ ValidSize entry.size) ∨
      ∃ j ∈ h.passes, entry.volId = newVolId rand group j ∧ ValidSize entry.size := by
  rw [h.entries_eq] at hEntry
  rcases List.mem_append.mp (List.mem_filter.mp hEntry).1 with hFilled | hAdded
  · obtain ⟨old, hOld, rfl | hNew⟩ := Traverse.exists_of_mem_forall₂ h.filled_of hFilled
    · exact .inl hOld
    · exact .inr (.inl ⟨old, hOld, hNew⟩)
  · exact .inr (.inr (Traverse.exists_of_mem_forall₂ h.added_of hAdded))

theorem Extends.keys_sublist {rand : Random} {group : AntstorVolumeGroup} {entries : List VolumeMeta}
    (h : Extends rand group entries) :
    (entries.map fun entry => entry.volId.key).Sublist
      (group.spec.volumes.map (fun entry => entry.volId.key) ++
        h.passes.map fun j => (newVolId rand group j).key) := by
  have hAdded : h.added.map (fun entry => entry.volId.key) =
      h.passes.map fun j => (newVolId rand group j).key := by
    have hEach := h.added_of
    generalize h.added = added at hEach
    generalize h.passes = passes at hEach
    induction hEach with
    | nil => rfl
    | cons hPass _ ih => rw [List.map_cons, List.map_cons, ih, hPass.1]
  have hSublist : ((h.filled ++ h.added).filter VolumeMeta.scheduled).Sublist (h.filled ++ h.added) :=
    List.filter_sublist
  rw [← h.entries_eq] at hSublist
  rw [← filled_keys h.filled_of, ← hAdded, ← List.map_append]
  exact hSublist.map _

theorem Linked.extends {rand : Random} {group : AntstorVolumeGroup} {vols : Volumes}
    {entries : List VolumeMeta} (h : Linked group.spec.volumes vols) (hFresh : Fresh rand group vols)
    (hExtends : Extends rand group entries) : Linked entries vols := by
  obtain ⟨hNs, hIds⟩ := hFresh
  have hPass : ∀ j ∈ hExtends.passes, j < group.spec.desiredVolumeSpec.countRange.max.toNat := by
    intro j hj
    have hRange := hExtends.inRange j hj
    omega
  refine ⟨?_, ?_, ?_, ?_⟩
  · intro entry hEntry
    rcases hExtends.cases hEntry with hOld | ⟨old, hOld, _, hId, _⟩ | ⟨j, hj, hId, _⟩
    · exact h.complete entry hOld
    · exact hId ▸ h.complete old hOld
    · exact hId ▸ newVolId_complete hNs (hIds j (hPass j hj)).1
  · refine hExtends.keys_sublist.nodup (List.nodup_append.mpr ⟨h.distinct, ?_, ?_⟩)
    · refine List.pairwise_map.mpr (hExtends.sorted.imp_of_mem ?_)
      intro i j _ hj hLess
      exact (hIds j (hPass j hj)).2.2.2 i hLess
    · rintro key hKey other hOther rfl
      obtain ⟨j, hj, rfl⟩ := List.mem_map.mp hOther
      exact (hIds j (hPass j hj)).2.2.1 hKey
  · intro entry hEntry
    rcases hExtends.cases hEntry with hOld | ⟨_, _, _, _, hSize⟩ | ⟨_, _, _, hSize⟩
    · exact h.inInt64 entry hOld
    · exact hSize.2
    · exact hSize.2
  · intro entry hEntry vol hVol
    rcases hExtends.cases hEntry with hOld | ⟨old, hOld, hUnscheduled, hId, _⟩ | ⟨j, hj, hId, _⟩
    · exact h.backed entry hOld vol hVol
    · have hBacks := h.backed old hOld vol (hId ▸ hVol)
      exact absurd hBacks.scheduled (by simp [hUnscheduled])
    · rw [hId, (hIds j (hPass j hj)).2.1] at hVol
      cases hVol

end schedule

end Liteio.VolumeGroup
