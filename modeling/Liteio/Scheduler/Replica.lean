import Liteio.Scheduler.Filter

/-! # Replicas of one database on one node

`isReplicaDataConflict` walks through the volumes of a node and stops at the
first label that does not have the form "app.cluster.zone", with the answer that
there is no conflict. A volume that conflicts is seen only if no such label comes
before it, so the answer depends on the order of the volumes.
-/

namespace Liteio.FilterChain

/-- A text of the form "app.cluster.zone"; the zone is all that follows the second dot. -/
def IsHolder (text cluster zone : String) : Prop :=
  ∃ app : String, '.' ∉ app.toList ∧ '.' ∉ cluster.toList ∧ text = app ++ "." ++ cluster ++ "." ++ zone

def Conflicts (volDataHolder : String) (item : AntstorVolume) : Prop :=
  ∃ cluster zone, IsHolder volDataHolder cluster zone ∧
    ∃ val other, item.label volumeDataHolderKey = some val ∧ IsHolder val cluster other ∧ other ≠ zone

def Malformed (item : AntstorVolume) : Prop :=
  ∃ val, item.label volumeDataHolderKey = some val ∧ ∀ cluster zone, ¬ IsHolder val cluster zone

/-- A malformed label comes after a conflict or hides none. -/
def HidesNone (volDataHolder : String) (vols : List AntstorVolume) : Prop :=
  ∀ before item after, vols = before ++ item :: after → Malformed item →
    (∃ earlier ∈ before, Conflicts volDataHolder earlier) ∨ ∀ later ∈ after, ¬ Conflicts volDataHolder later

theorem parseObHolder_eq_some_iff {text cluster zone : String} :
    parseObHolder text = some (cluster, zone) ↔ IsHolder text cluster zone := by
  have hText : ∀ app : String, text = app ++ "." ++ cluster ++ "." ++ zone ↔
      text.toList = app.toList ++ '.' :: (cluster.toList ++ '.' :: zone.toList) := by
    intro app
    rw [← String.toList_inj]
    simp [String.toList_append]
  constructor
  · intro h
    unfold parseObHolder at h
    split at h
    · rename_i app found rest hSplit
      cases h
      obtain ⟨hApp, hCluster, hEq⟩ := Strings.splitN_three_eq_iff.mp hSplit
      refine ⟨String.ofList app, by simpa using hApp, by simpa using hCluster, ?_⟩
      rw [hText]
      simpa using hEq
    · cases h
  · rintro ⟨app, hApp, hCluster, hEq⟩
    rw [parseObHolder, Strings.splitN_three_eq_iff.mpr ⟨hApp, hCluster, (hText app).mp hEq⟩]
    simp

theorem parseObHolder_eq_none_iff {text : String} :
    parseObHolder text = none ↔ ∀ cluster zone, ¬ IsHolder text cluster zone := by
  simp only [← parseObHolder_eq_some_iff]
  rw [Option.eq_none_iff_forall_ne_some, Prod.forall]

theorem malformed_iff {item : AntstorVolume} :
    Malformed item ↔ ∃ val, item.label volumeDataHolderKey = some val ∧ parseObHolder val = none := by
  simp only [Malformed, parseObHolder_eq_none_iff]

theorem conflicts_iff {volDataHolder : String} {item : AntstorVolume} :
    Conflicts volDataHolder item ↔ ∃ cluster zone, parseObHolder volDataHolder = some (cluster, zone) ∧
      ∃ val other, item.label volumeDataHolderKey = some val ∧ parseObHolder val = some (cluster, other) ∧
        other ≠ zone := by
  simp only [Conflicts, parseObHolder_eq_some_iff]

theorem Malformed.not_conflicts {volDataHolder : String} {item : AntstorVolume} (h : Malformed item) :
    ¬ Conflicts volDataHolder item := by
  rintro ⟨cluster, zone, -, val, other, hVal, hHolder, -⟩
  obtain ⟨val', hVal', hNone⟩ := h
  cases hVal.symm.trans hVal'
  exact hNone cluster other hHolder

theorem isReplicaDataConflict_of_none {volDataHolder : String} (h : parseObHolder volDataHolder = none)
    (vols : List AntstorVolume) : isReplicaDataConflict volDataHolder vols = false := by
  induction vols with
  | nil => rfl
  | cons item vols ih =>
    rw [isReplicaDataConflict, h]
    split
    · rfl
    · split
      · exact ih
      · split <;> trivial

theorem isReplicaDataConflict_cons {volDataHolder : String} {item : AntstorVolume} {vols : List AntstorVolume} :
    isReplicaDataConflict volDataHolder (item :: vols) = true ↔
      Conflicts volDataHolder item ∨ ¬ Malformed item ∧ isReplicaDataConflict volDataHolder vols = true := by
  rw [conflicts_iff, malformed_iff]
  cases hHolder : parseObHolder volDataHolder with
  | none => simp [isReplicaDataConflict_of_none hHolder]
  | some parsed =>
    obtain ⟨volCluster, volZone⟩ := parsed
    have hNonempty : volDataHolder ≠ "" := by
      rintro rfl
      cases hHolder
    rw [isReplicaDataConflict, if_neg hNonempty, hHolder]
    cases hLabel : item.label volumeDataHolderKey with
    | none => simp
    | some val =>
      cases hVal : parseObHolder val with
      | none => simp [hVal]
      | some parsed =>
        obtain ⟨cluster, zone⟩ := parsed
        by_cases hConflict : cluster = volCluster ∧ zone ≠ volZone
        · simp [hVal, hConflict]
        · simp only [hVal, hConflict, if_false]
          refine ⟨fun hRest => .inr ⟨?_, hRest⟩, ?_⟩
          · rintro ⟨other, hOther, hNone⟩
            cases hOther
            cases hVal.symm.trans hNone
          · rintro (⟨_, _, hParsed, _, other, hOther, hSame, hNe⟩ | ⟨-, hRest⟩)
            · cases hParsed
              cases hOther
              cases hVal.symm.trans hSame
              exact absurd ⟨rfl, hNe⟩ hConflict
            · exact hRest

theorem exists_conflicts_of_isReplicaDataConflict {volDataHolder : String} {vols : List AntstorVolume}
    (h : isReplicaDataConflict volDataHolder vols = true) : ∃ item ∈ vols, Conflicts volDataHolder item := by
  induction vols with
  | nil => cases h
  | cons item vols ih =>
    rcases isReplicaDataConflict_cons.mp h with hConflicts | ⟨-, hRest⟩
    · exact ⟨item, List.mem_cons_self, hConflicts⟩
    · obtain ⟨other, hMem, hConflicts⟩ := ih hRest
      exact ⟨other, List.mem_cons_of_mem _ hMem, hConflicts⟩

theorem hidesNone_cons {volDataHolder : String} {item : AntstorVolume} {vols : List AntstorVolume} :
    HidesNone volDataHolder (item :: vols) ↔
      Conflicts volDataHolder item ∨
        (Malformed item → ∀ later ∈ vols, ¬ Conflicts volDataHolder later) ∧ HidesNone volDataHolder vols := by
  constructor
  · intro h
    refine or_iff_not_imp_left.mpr fun hNot => ⟨fun hMalformed => ?_, ?_⟩
    · rcases h [] item vols rfl hMalformed with ⟨earlier, hMem, -⟩ | hAfter
      · cases hMem
      · exact hAfter
    · rintro before other after rfl hMalformed
      rcases h (item :: before) other after rfl hMalformed with ⟨earlier, hMem, hEarlier⟩ | hAfter
      · rcases List.mem_cons.mp hMem with rfl | hMem
        · exact absurd hEarlier hNot
        · exact .inl ⟨earlier, hMem, hEarlier⟩
      · exact .inr hAfter
  · rintro h (_ | ⟨first, before⟩) other after hSplit hMalformed
    · cases hSplit
      rcases h with hConflicts | ⟨hNone, -⟩
      · exact absurd hConflicts hMalformed.not_conflicts
      · exact .inr (hNone hMalformed)
    · cases hSplit
      rcases h with hConflicts | ⟨-, hRest⟩
      · exact .inl ⟨_, List.mem_cons_self, hConflicts⟩
      · rcases hRest before other after rfl hMalformed with ⟨earlier, hMem, hEarlier⟩ | hAfter
        · exact .inl ⟨earlier, List.mem_cons_of_mem _ hMem, hEarlier⟩
        · exact .inr hAfter

theorem isReplicaDataConflict_iff_hidesNone (volDataHolder : String) (vols : List AntstorVolume) :
    (isReplicaDataConflict volDataHolder vols = true ↔ ∃ item ∈ vols, Conflicts volDataHolder item) ↔
      HidesNone volDataHolder vols := by
  induction vols with
  | nil => simp [isReplicaDataConflict, HidesNone]
  | cons item vols ih =>
    rw [isReplicaDataConflict_cons, hidesNone_cons, ← ih, List.exists_mem_cons_iff]
    by_cases hConflicts : Conflicts volDataHolder item
    · simp [hConflicts]
    · by_cases hMalformed : Malformed item
      · have hFound : isReplicaDataConflict volDataHolder vols = true →
            ∃ item ∈ vols, Conflicts volDataHolder item := exists_conflicts_of_isReplicaDataConflict
        simp only [hConflicts, hMalformed, false_or, not_true_eq_false, false_and, false_iff, not_exists,
          not_and, true_imp_iff]
        refine ⟨fun hNone => ⟨hNone, fun h => hFound h, fun ⟨other, hMem, hOther⟩ => ?_⟩, And.left⟩
        exact absurd hOther (hNone other hMem)
      · simp [hConflicts, hMalformed]

/-- Volumes that conflict and malformed labels together make the order matter. -/
theorem isReplicaDataConflict_perm_iff (volDataHolder : String) (vols : List AntstorVolume) :
    (∀ vols', vols'.Perm vols →
        isReplicaDataConflict volDataHolder vols' = isReplicaDataConflict volDataHolder vols) ↔
      (∀ item ∈ vols, ¬ Conflicts volDataHolder item) ∨ ∀ item ∈ vols, ¬ Malformed item := by
  constructor
  · intro hSame
    by_contra hNot
    push Not at hNot
    obtain ⟨⟨item, hItem, hConflicts⟩, other, hOther, hMalformed⟩ := hNot
    have hSeen := hSame _ (List.perm_cons_erase hItem).symm
    have hHidden := hSame _ (List.perm_cons_erase hOther).symm
    rw [isReplicaDataConflict_cons.mpr (.inl hConflicts)] at hSeen
    rw [← hSeen, isReplicaDataConflict_cons] at hHidden
    rcases hHidden with hBoth | ⟨hNot, -⟩
    · exact hMalformed.not_conflicts hBoth
    · exact hNot hMalformed
  · intro h vols' hPerm
    have hHides : ∀ list : List AntstorVolume, list.Perm vols → HidesNone volDataHolder list := by
      rintro list hList before item after rfl hItem
      rcases h with hNone | hWell
      · refine .inr fun later hLater => hNone later (hList.subset ?_)
        exact List.mem_append_right _ (List.mem_cons_of_mem _ hLater)
      · exact absurd hItem (hWell item (hList.subset (List.mem_append_right _ List.mem_cons_self)))
    rw [Bool.eq_iff_iff, (isReplicaDataConflict_iff_hidesNone _ _).mpr (hHides _ hPerm),
      (isReplicaDataConflict_iff_hidesNone _ _).mpr (hHides _ (.refl _))]
    simp only [hPerm.mem_iff]

/-- The answer is right, and the same in every order, exactly as far as no malformed label hides a conflict. -/
theorem isReplicaDataConflict_exact (volDataHolder : String) (vols : List AntstorVolume) :
    ((isReplicaDataConflict volDataHolder vols = true ↔ ∃ item ∈ vols, Conflicts volDataHolder item) ↔
      HidesNone volDataHolder vols) ∧
    ((∀ vols', vols'.Perm vols →
        isReplicaDataConflict volDataHolder vols' = isReplicaDataConflict volDataHolder vols) ↔
      (∀ item ∈ vols, ¬ Conflicts volDataHolder item) ∨ ∀ item ∈ vols, ¬ Malformed item) :=
  ⟨isReplicaDataConflict_iff_hidesNone volDataHolder vols, isReplicaDataConflict_perm_iff volDataHolder vols⟩

def heldBy (holder : String) : AntstorVolume :=
  { labels := some (Finmap.singleton volumeDataHolderKey holder) }

/-- A label without a zone in front of a volume of another zone. -/
theorem not_isReplicaDataConflict_heldBy :
    ¬ (isReplicaDataConflict "ob.c1.z1" [heldBy "ob", heldBy "ob.c1.z2"] = true ↔
        ∃ item ∈ [heldBy "ob", heldBy "ob.c1.z2"], Conflicts "ob.c1.z1" item) ∧
      isReplicaDataConflict "ob.c1.z1" [heldBy "ob", heldBy "ob.c1.z2"] ≠
        isReplicaDataConflict "ob.c1.z1" [heldBy "ob.c1.z2", heldBy "ob"] := by
  have hConflicts : Conflicts "ob.c1.z1" (heldBy "ob.c1.z2") :=
    conflicts_iff.mpr ⟨"c1", "z1", by decide, "ob.c1.z2", "z2", by decide, by decide, by decide⟩
  refine ⟨?_, by decide⟩
  rw [isReplicaDataConflict_iff_hidesNone]
  intro hHides
  have hMalformed : Malformed (heldBy "ob") := malformed_iff.mpr ⟨"ob", by decide, by decide⟩
  rcases hHides [] _ _ rfl hMalformed with ⟨earlier, hMem, -⟩ | hAfter
  · cases hMem
  · exact hAfter _ List.mem_cons_self hConflicts

end Liteio.FilterChain
