import Liteio.VolumeGroup.Sched

/-! # How much of a group gets scheduled

A successful `schedVolGroup` covers the requested size only if enough entries
may be placed. Filling the entries without a node costs one entry each, but the
bound of the appending loop shrinks while its counter grows, so that loop places
only half, rounded up, of the entries the count range still allows.
-/

namespace Liteio.VolumeGroup

open MachineInt

def placedSize (vols : List VolumeMeta) : ℤ := ((vols.filter VolumeMeta.scheduled).map VolumeMeta.size).sum

@[simp] theorem placedSize_nil : placedSize [] = 0 := rfl

theorem placedSize_cons (vol : VolumeMeta) (vols : List VolumeMeta) :
    placedSize (vol :: vols) = (if vol.scheduled then vol.size else 0) + placedSize vols := by
  by_cases h : vol.scheduled <;> simp [placedSize, h]

theorem scanNodes_find {sizeOn : Node → ℤ} {used : Finset String} {nodes : List Node} {start result : ℤ}
    {item : Node} (h : scanNodes sizeOn used start nodes = (result, some item)) :
    (nodes.find? fun item => item.info.id ∉ used ∧ 0 < sizeOn item) = some item ∧ sizeOn item = result := by
  induction nodes generalizing start with
  | nil => cases h
  | cons node nodes ih =>
    rw [scanNodes] at h
    split at h
    · rename_i hUsed
      rw [List.find?_cons_of_neg (by simp [hUsed])]
      exact ih h
    · rename_i hUnused
      split at h
      · rename_i hPos
        cases h
        exact ⟨List.find?_cons_of_pos (by simp [hUnused, hPos]), rfl⟩
      · rename_i hPos
        rw [List.find?_cons_of_neg (by simp [hPos])]
        exact ih h

def Yields (out : Option (List VolumeMeta × Cursor)) (missing : ℤ) : Prop :=
  ∀ vols c, out = some (vols, c) → missing ≤ placedSize vols

inductive Places (kept : List VolumeMeta) :
    Option (List VolumeMeta × Cursor) → Option (List (Cursor × String × ℤ)) → Prop
  | failed : Places kept none none
  | placed {vols news : List VolumeMeta} {last : Cursor} {placed : List (Cursor × String × ℤ)}
      (hPerm : (vols.filter VolumeMeta.scheduled).Perm (kept ++ news.filter VolumeMeta.scheduled))
      (hNews : news.map (fun vol => (vol.targetNodeName, vol.size)) = placed.map Prod.snd) :
      Places kept (some (vols, last)) (some placed)

theorem places_nil (c : Cursor) : Places [] (some ([], c)) (some []) :=
  @Places.placed [] [] [] c [] (by simp) rfl

theorem filter_scheduled_cons (vol : VolumeMeta) (vols : List VolumeMeta) :
    (vol :: vols).filter VolumeMeta.scheduled =
      [vol].filter VolumeMeta.scheduled ++ vols.filter VolumeMeta.scheduled := by
  rw [← List.filter_append, List.singleton_append]

theorem Places.cons_kept {kept : List VolumeMeta} {out : Option (List VolumeMeta × Cursor)}
    {ps : Option (List (Cursor × String × ℤ))} (h : Places kept out ps) (vol : VolumeMeta) :
    Places ([vol].filter VolumeMeta.scheduled ++ kept) (out.map (consVolume vol)) ps := by
  cases h with
  | failed => exact .failed
  | @placed vols news last placed hPerm hNews =>
    refine .placed ?_ hNews
    rw [filter_scheduled_cons, List.append_assoc]
    exact hPerm.append_left _

theorem Places.cons_new {kept : List VolumeMeta} {out : Option (List VolumeMeta × Cursor)}
    {ps : Option (List (Cursor × String × ℤ))} (h : Places kept out ps) (c : Cursor) (vol : VolumeMeta) :
    Places kept (out.map (consVolume vol)) (ps.map ((c, vol.targetNodeName, vol.size) :: ·)) := by
  cases h with
  | failed => exact .failed
  | @placed vols news last placed hPerm hNews =>
    refine @Places.placed kept (vol :: vols) (vol :: news) last _ ?_ (by simp [hNews])
    rw [filter_scheduled_cons vol vols, filter_scheduled_cons vol news]
    exact (hPerm.append_left _).trans (List.perm_append_comm_assoc _ _ _)

/-- The bytes of the picks that stay: an entry on a node without an ID is
counted by the loops and then removed as redundant. -/
def pickedSize (placed : List (Cursor × String × ℤ)) : ℤ :=
  (((placed.map Prod.snd).filter fun entry => 0 < entry.2 && entry.1 ≠ "").map Prod.snd).sum

theorem pickedSize_cons {c : Cursor} {nodeID : String} {size : ℤ} {placed : List (Cursor × String × ℤ)}
    (h : 0 < size) :
    pickedSize ((c, nodeID, size) :: placed) = (if nodeID = "" then 0 else size) + pickedSize placed := by
  by_cases hID : nodeID = "" <;> simp [pickedSize, h, hID]

theorem pickedSize_nonneg (placed : List (Cursor × String × ℤ)) : 0 ≤ pickedSize placed := by
  apply List.sum_nonneg
  intro size hSize
  obtain ⟨entry, hEntry, rfl⟩ := List.mem_map.mp hSize
  have hKept := (List.mem_filter.mp hEntry).2
  simp only [Bool.and_eq_true, decide_eq_true_eq] at hKept
  exact hKept.1.le

theorem sum_scheduled {news : List VolumeMeta} {placed : List (Cursor × String × ℤ)}
    (h : news.map (fun vol => (vol.targetNodeName, vol.size)) = placed.map Prod.snd) :
    ((news.filter VolumeMeta.scheduled).map VolumeMeta.size).sum = pickedSize placed := by
  rw [pickedSize, ← h, List.filter_map, List.map_map]
  rfl

theorem Places.yields_iff {vols : List VolumeMeta} {out : Option (List VolumeMeta × Cursor)}
    {ps : Option (List (Cursor × String × ℤ))} (h : Places (vols.filter VolumeMeta.scheduled) out ps)
    (missing : ℤ) :
    Yields out (placedSize vols + missing) ↔ ∀ placed, ps = some placed → missing ≤ pickedSize placed := by
  cases h with
  | failed => simp [Yields]
  | @placed filled news last placed hPerm hNews =>
    have hSum : placedSize filled = placedSize vols + pickedSize placed := by
      rw [placedSize, (hPerm.map _).sum_eq, List.map_append, List.sum_append, sum_scheduled hNews, placedSize]
    simp [Yields, hSum]

/-- The entries that may be placed: one for every entry without a node while the
count allows it, and half of what the count then leaves. -/
def placeable (unscheduled room : ℕ) : ℕ := min unscheduled room + (room - min unscheduled room + 1) / 2

section

variable {K : Kube} {cfg : SchedulerConfig} {nodes : List Node} {desired : DesiredVolumeSpec}
  {newId : ℕ → EntityIdentity}

variable (K cfg nodes desired) in
def firstRoom (c : Cursor) : Option Node :=
  nodes.find? fun item => item.info.id ∉ c.tgtNodeSet ∧ 0 < getAllocatableRemoteVolumeSize K item
    (pickSizeFn K desired.sizeRange item c.leftSize) cfg.minLocalStoragePct

theorem firstRoom_of_placed {c : Cursor} {nodeID : String} {size : ℤ}
    (h : pickNode K cfg nodes desired c = .placed nodeID size) :
    ∃ node, firstRoom K cfg nodes desired c = some node ∧ node.info.id = nodeID ∧
      getAllocatableRemoteVolumeSize K node (pickSizeFn K desired.sizeRange node c.leftSize)
        cfg.minLocalStoragePct = size := by
  unfold pickNode at h
  dsimp only at h
  split at h
  · rename_i result item hScan
    cases h
    obtain ⟨hFirst, hSize⟩ := scanNodes_find hScan
    exact ⟨item, hFirst, rfl, hSize⟩
  · split at h <;> cases h

theorem pickNode_placed {c : Cursor} {nodeID : String} {size : ℤ}
    (h : pickNode K cfg nodes desired c = .placed nodeID size) :
    0 < size ∧ nodeID ∉ c.tgtNodeSet ∧ ∃ n ∈ nodes, n.info.id = nodeID ∧
      getAllocatableRemoteVolumeSize K n (pickSizeFn K desired.sizeRange n c.leftSize)
        cfg.minLocalStoragePct = size := by
  obtain ⟨node, hFirst, rfl, rfl⟩ := firstRoom_of_placed h
  have hRoom := List.find?_some hFirst
  rw [decide_eq_true_iff] at hRoom
  exact ⟨hRoom.2, hRoom.1, node, List.mem_of_find?_eq_some hFirst, rfl, rfl⟩

theorem needSchedNextFn_iff {maxVolCnt : ℤ} {c : Cursor} :
    needSchedNextFn maxVolCnt c = true ↔ c.cnt < maxVolCnt ∧ 0 < c.leftSize := by
  simp [needSchedNextFn]

def roomLeft (desired : DesiredVolumeSpec) (c : Cursor) : ℕ := (desired.countRange.max - c.cnt).toNat

variable (K cfg nodes desired) in
/-- At most `n` picks in a row, each with the counters before it; `none` when one
of them fails with an error. -/
def picks : ℕ → Cursor → Option (List (Cursor × String × ℤ))
  | 0, _ => some []
  | n + 1, c =>
    if 0 < c.leftSize then
      match pickNode K cfg nodes desired c with
      | .placed nodeID size => (picks n (c.add nodeID size)).map ((c, nodeID, size) :: ·)
      | .failed => none
      | .skipped => some []
    else some []

theorem picks_stuck {n : ℕ} {c : Cursor} (h : 0 < c.leftSize → pickNode K cfg nodes desired c = .skipped) :
    picks K cfg nodes desired n c = some [] := by
  cases n with
  | zero => rfl
  | succ n =>
    rw [picks]
    split
    · rename_i hLeft
      rw [h hLeft]
    · rfl

theorem picks_failed {n : ℕ} {c : Cursor} (hLeft : 0 < c.leftSize)
    (h : pickNode K cfg nodes desired c = .failed) : picks K cfg nodes desired (n + 1) c = none := by
  rw [picks, if_pos hLeft, h]

theorem picks_placed {n : ℕ} {c : Cursor} {nodeID : String} {size : ℤ} (hLeft : 0 < c.leftSize)
    (h : pickNode K cfg nodes desired c = .placed nodeID size) :
    picks K cfg nodes desired (n + 1) c =
      (picks K cfg nodes desired n (c.add nodeID size)).map ((c, nodeID, size) :: ·) := by
  rw [picks, if_pos hLeft, h]

theorem picks_cases {n : ℕ} {c : Cursor} {placed : List (Cursor × String × ℤ)}
    (h : picks K cfg nodes desired n c = some placed) :
    placed = [] ∨ ∃ m nodeID size rest, n = m + 1 ∧ 0 < c.leftSize ∧
      pickNode K cfg nodes desired c = .placed nodeID size ∧
      picks K cfg nodes desired m (c.add nodeID size) = some rest ∧ placed = (c, nodeID, size) :: rest := by
  cases n with
  | zero => exact .inl (Option.some.inj h).symm
  | succ n =>
    rw [picks] at h
    split at h
    · rename_i hLeft
      split at h
      · rename_i nodeID size hPlaced
        obtain ⟨rest, hRest, rfl⟩ := Option.map_eq_some_iff.mp h
        exact .inr ⟨n, nodeID, size, rest, rfl, hLeft, hPlaced, hRest, rfl⟩
      · cases h
      · exact .inl (Option.some.inj h).symm
    · exact .inl (Option.some.inj h).symm

theorem pickNode_of_mem_picks {n : ℕ} {c : Cursor} {placed : List (Cursor × String × ℤ)}
    (h : picks K cfg nodes desired n c = some placed) {pick : Cursor × String × ℤ} (hPick : pick ∈ placed) :
    0 < pick.1.leftSize ∧ pickNode K cfg nodes desired pick.1 = .placed pick.2.1 pick.2.2 := by
  induction placed generalizing n c with
  | nil => cases hPick
  | cons first rest ih =>
    obtain hNil | ⟨m, nodeID, size, _, rfl, hLeft, hPlaced, hRest, ⟨⟩⟩ := picks_cases h
    · cases hNil
    · rcases List.mem_cons.mp hPick with rfl | hMem
      · exact ⟨hLeft, hPlaced⟩
      · exact ih hRest hMem

theorem appendVolumes_places {fuel i : ℕ} {c : Cursor} (hFuel : roomLeft desired c ≤ fuel + i) :
    Places [] (appendVolumes K cfg nodes desired newId fuel i c)
      (picks K cfg nodes desired ((roomLeft desired c - i + 1) / 2) c) := by
  induction fuel generalizing i c with
  | zero =>
    rw [appendVolumes, Nat.sub_eq_zero_of_le (by omega)]
    exact places_nil c
  | succ fuel ih =>
    rw [appendVolumes]
    split
    · rename_i hBound
      have hRoom : i < roomLeft desired c := by
        rw [roomLeft]
        omega
      have hSkip : (0 < c.leftSize → pickNode K cfg nodes desired c = .skipped) →
          Places [] (appendVolumes K cfg nodes desired newId fuel (i + 1) c)
            (picks K cfg nodes desired ((roomLeft desired c - i + 1) / 2) c) := by
        intro hStuck
        rw [picks_stuck hStuck, ← picks_stuck hStuck]
        exact ih (by omega)
      obtain ⟨n, hn⟩ : ∃ n, (roomLeft desired c - i + 1) / 2 = n + 1 :=
        ⟨_, (Nat.sub_add_cancel (by omega)).symm⟩
      split
      · rename_i hNeed
        obtain ⟨hCount, hLeft⟩ := needSchedNextFn_iff.mp hNeed
        cases hPick : pickNode K cfg nodes desired c with
        | failed =>
          rw [hn, picks_failed hLeft hPick]
          exact .failed
        | skipped => exact hSkip fun _ => hPick
        | placed nodeID size =>
          have hNext : roomLeft desired (c.add nodeID size) = roomLeft desired c - 1 := by
            simp only [roomLeft, Cursor.add]
            omega
          have hHalf : (roomLeft desired (c.add nodeID size) - (i + 1) + 1) / 2 = n := by omega
          have hRest := ih (i := i + 1) (c := c.add nodeID size) (by omega)
          rw [hHalf] at hRest
          rw [hn, picks_placed hLeft hPick]
          exact hRest.cons_new c { volId := newId i, size := size, targetNodeName := nodeID }
      · rename_i hNeed
        refine hSkip fun hLeft => absurd (needSchedNextFn_iff.mpr ⟨?_, hLeft⟩) hNeed
        omega
    · rename_i hBound
      have hRoom : roomLeft desired c ≤ i := by
        rw [roomLeft]
        omega
      rw [Nat.sub_eq_zero_of_le hRoom]
      exact places_nil c

/-- The fuel `schedVolGroup` starts the loop with lets it run to its end. -/
theorem appendVolumes_fuel {fuel extra i : ℕ} {c : Cursor} (hFuel : roomLeft desired c ≤ fuel + i) :
    appendVolumes K cfg nodes desired newId (fuel + extra) i c =
      appendVolumes K cfg nodes desired newId fuel i c := by
  induction fuel generalizing i c with
  | zero =>
    have hBound : ¬ i < desired.countRange.max - c.cnt := by
      rw [roomLeft] at hFuel
      omega
    cases extra with
    | zero => rfl
    | succ extra =>
      rw [zero_add, appendVolumes, appendVolumes, if_neg hBound]
  | succ fuel ih =>
    have hSame := ih (i := i + 1) (c := c) (by omega)
    have hNext : ∀ nodeID size, roomLeft desired (c.add nodeID size) ≤ fuel + (i + 1) := by
      intro nodeID size
      simp only [roomLeft, Cursor.add] at hFuel ⊢
      omega
    rw [Nat.succ_add, appendVolumes, appendVolumes, hSame]
    cases pickNode K cfg nodes desired c with
    | placed nodeID size =>
      dsimp only
      rw [ih (hNext nodeID size)]
    | failed => rfl
    | skipped => rfl

variable (K cfg nodes desired newId) in
def placeVolumes (c : Cursor) (vols : List VolumeMeta) : Option (List VolumeMeta × Cursor) :=
  (fillVolumes K cfg nodes desired c vols).bind fun filled =>
    (appendVolumes K cfg nodes desired newId (roomLeft desired filled.2) 0 filled.2).map fun added =>
      (filled.1 ++ added.1, added.2)

theorem placeVolumes_of_fillVolumes {c next : Cursor} {vols rest : List VolumeMeta} {vol : VolumeMeta}
    (h : fillVolumes K cfg nodes desired c vols =
      (fillVolumes K cfg nodes desired next rest).map (consVolume vol)) :
    placeVolumes K cfg nodes desired newId c vols =
      (placeVolumes K cfg nodes desired newId next rest).map (consVolume vol) := by
  rw [placeVolumes, h, placeVolumes]
  cases fillVolumes K cfg nodes desired next rest with
  | none => rfl
  | some filled =>
    simp only [Option.map_some, Option.bind_some, consVolume, Option.map_map]
    rfl

theorem placeable_zero (u : ℕ) : placeable u 0 = 0 := by simp [placeable]

theorem placeable_succ {u room : ℕ} (h : 0 < room) : placeable (u + 1) room = placeable u (room - 1) + 1 := by
  unfold placeable
  omega

variable (K cfg nodes desired) in
theorem fillVolumes_cases (c : Cursor) (vol : VolumeMeta) (vols : List VolumeMeta) :
    (fillVolumes K cfg nodes desired c (vol :: vols) =
        (fillVolumes K cfg nodes desired c vols).map (consVolume vol) ∧
      (vol.scheduled ∨ (0 < c.leftSize → pickNode K cfg nodes desired c = .skipped) ∨ roomLeft desired c = 0)) ∨
    ¬ vol.scheduled ∧ 0 < roomLeft desired c ∧ 0 < c.leftSize ∧
      ((pickNode K cfg nodes desired c = .failed ∧ fillVolumes K cfg nodes desired c (vol :: vols) = none) ∨
        ∃ nodeID size, pickNode K cfg nodes desired c = .placed nodeID size ∧
          fillVolumes K cfg nodes desired c (vol :: vols) =
            (fillVolumes K cfg nodes desired (c.add nodeID size) vols).map
              (consVolume { vol with size := size, targetNodeName := nodeID })) := by
  by_cases hScheduled : vol.scheduled
  · exact .inl ⟨by simp [fillVolumes, hScheduled], .inl hScheduled⟩
  by_cases hNeed : needSchedNextFn desired.countRange.max c
  · obtain ⟨hCount, hLeft⟩ := needSchedNextFn_iff.mp hNeed
    have hRoom : 0 < roomLeft desired c := by
      rw [roomLeft]
      omega
    cases hPick : pickNode K cfg nodes desired c with
    | failed => exact .inr ⟨hScheduled, hRoom, hLeft, .inl ⟨rfl, by simp [fillVolumes, hScheduled, hNeed, hPick]⟩⟩
    | skipped => exact .inl ⟨by simp [fillVolumes, hScheduled, hNeed, hPick], .inr (.inl fun _ => rfl)⟩
    | placed nodeID size =>
      exact .inr ⟨hScheduled, hRoom, hLeft, .inr ⟨nodeID, size, rfl, by simp [fillVolumes, hScheduled, hNeed, hPick]⟩⟩
  · refine .inl ⟨by simp [fillVolumes, hNeed], .inr ?_⟩
    -- Not needed any more: nothing is left to place, or the count range is used up.
    by_cases hLeft : 0 < c.leftSize
    · have hCount : ¬ c.cnt < desired.countRange.max := fun h => hNeed (needSchedNextFn_iff.mpr ⟨h, hLeft⟩)
      refine .inr ?_
      rw [roomLeft]
      omega
    · exact .inl fun h => absurd h hLeft

theorem picks_kept {c : Cursor} {vol : VolumeMeta} {vols : List VolumeMeta}
    (h : vol.scheduled ∨ (0 < c.leftSize → pickNode K cfg nodes desired c = .skipped) ∨ roomLeft desired c = 0) :
    picks K cfg nodes desired
        (placeable ((vol :: vols).countP fun vol => !vol.scheduled) (roomLeft desired c)) c =
      picks K cfg nodes desired (placeable (vols.countP fun vol => !vol.scheduled) (roomLeft desired c)) c := by
  rcases h with hScheduled | hPick | hRoom
  · rw [List.countP_cons_of_neg (by simp [hScheduled])]
  · rw [picks_stuck hPick, picks_stuck hPick]
  · rw [hRoom, placeable_zero, placeable_zero]

theorem placeVolumes_places {c : Cursor} {vols : List VolumeMeta} :
    Places (vols.filter VolumeMeta.scheduled) (placeVolumes K cfg nodes desired newId c vols)
      (picks K cfg nodes desired
        (placeable (vols.countP fun vol => !vol.scheduled) (roomLeft desired c)) c) := by
  induction vols generalizing c with
  | nil =>
    have hAppend : placeVolumes K cfg nodes desired newId c [] =
        appendVolumes K cfg nodes desired newId (roomLeft desired c) 0 c := by
      simp [placeVolumes, fillVolumes]
    have hPlaces : Places [] (appendVolumes K cfg nodes desired newId (roomLeft desired c) 0 c)
        (picks K cfg nodes desired ((roomLeft desired c - 0 + 1) / 2) c) := appendVolumes_places (by omega)
    rw [hAppend]
    simpa [placeable] using hPlaces
  | cons vol vols ih =>
    rcases fillVolumes_cases K cfg nodes desired c vol vols with
      ⟨hFill, hKept⟩ | ⟨hScheduled, hRoom, hLeft, hPicked⟩
    · rw [placeVolumes_of_fillVolumes hFill, filter_scheduled_cons, picks_kept hKept]
      exact ih.cons_kept vol
    · rw [List.countP_cons_of_pos (by simp [hScheduled]), placeable_succ hRoom]
      rcases hPicked with ⟨hPick, hFill⟩ | ⟨nodeID, size, hPick, hFill⟩
      · rw [picks_failed hLeft hPick, placeVolumes, hFill]
        exact .failed
      · have hNext : roomLeft desired (c.add nodeID size) = roomLeft desired c - 1 := by
          simp only [roomLeft, Cursor.add]
          omega
        rw [picks_placed hLeft hPick, ← hNext, placeVolumes_of_fillVolumes hFill,
          List.filter_cons_of_neg hScheduled]
        exact ih.cons_new c { vol with size := size, targetNodeName := nodeID }

end

theorem placedSize_nonneg (vols : List VolumeMeta) : 0 ≤ placedSize vols := by
  apply List.sum_nonneg
  intro size hSize
  obtain ⟨vol, hVol, rfl⟩ := List.mem_map.mp hSize
  have hScheduled := (List.mem_filter.mp hVol).2
  simp only [VolumeMeta.scheduled, Bool.and_eq_true, decide_eq_true_eq] at hScheduled
  exact hScheduled.1.le

def start (group : AntstorVolumeGroup) : Cursor where
  cnt := group.spec.volumes.countP VolumeMeta.scheduled
  leftSize := group.spec.totalSize - placedSize group.spec.volumes
  tgtNodeSet := ((group.spec.volumes.filter VolumeMeta.scheduled).map VolumeMeta.targetNodeName).toFinset

theorem foldl_add_used (vols : List VolumeMeta) (c : Cursor) :
    let last := vols.foldl (fun c vol => if vol.scheduled then c.add vol.targetNodeName vol.size else c) c
    last.cnt = c.cnt + vols.countP VolumeMeta.scheduled ∧
      last.tgtNodeSet = c.tgtNodeSet ∪
        ((vols.filter VolumeMeta.scheduled).map VolumeMeta.targetNodeName).toFinset := by
  induction vols generalizing c with
  | nil => simp
  | cons vol vols ih =>
    obtain ⟨hCount, hUsed⟩ := ih (if vol.scheduled then c.add vol.targetNodeName vol.size else c)
    dsimp only at hCount hUsed ⊢
    rw [List.foldl_cons, hCount, hUsed]
    by_cases hVol : vol.scheduled
    · simp [hVol, Cursor.add, add_assoc, add_comm 1]
    · simp [hVol]

theorem foldl_add_leftSize (vols : List VolumeMeta) (c : Cursor) (h : InInt64 c.leftSize) :
    (vols.foldl (fun c vol => if vol.scheduled then c.add vol.targetNodeName vol.size else c) c).leftSize =
      int64 (c.leftSize - placedSize vols) := by
  induction vols generalizing c with
  | nil => simp [int64_of_inInt64 h]
  | cons vol vols ih =>
    rw [List.foldl_cons, placedSize_cons]
    by_cases hVol : vol.scheduled
    · rw [if_pos hVol, ih _ (int64_inInt64 _), if_pos hVol, ← sub_sub]
      simp [Cursor.add]
    · rw [if_neg hVol, ih _ h, if_neg hVol, zero_add]

theorem record_eq_start {group : AntstorVolumeGroup} (hTotal : InInt64 group.spec.totalSize)
    (hLeft : 0 < group.spec.totalSize - placedSize group.spec.volumes) :
    record group.spec.totalSize group.spec.volumes = start group := by
  have hPlaced := placedSize_nonneg group.spec.volumes
  have hSize := foldl_add_leftSize group.spec.volumes ⟨0, group.spec.totalSize, ∅⟩ hTotal
  obtain ⟨hCount, hUsed⟩ := foldl_add_used group.spec.volumes ⟨0, group.spec.totalSize, ∅⟩
  rw [int64_of_nonneg_of_le hLeft.le (sub_le_self _ hPlaced) hTotal.2] at hSize
  rw [zero_add] at hCount
  rw [Finset.empty_union] at hUsed
  unfold record start
  rw [← hCount, ← hSize, ← hUsed]

theorem schedVolGroup_eq (K : Kube) (rand : Random) (cfg : SchedulerConfig) (nodes : List Node)
    (group : AntstorVolumeGroup) :
    schedVolGroup K rand cfg nodes group =
      match placeVolumes K cfg nodes group.spec.desiredVolumeSpec (newVolId rand group)
        (record group.spec.totalSize group.spec.volumes) group.spec.volumes with
      | none => .error {}
      | some out => .ok (group.withVolumes (out.1.filter VolumeMeta.scheduled)) := by
  rw [schedVolGroup, placeVolumes]
  cases fillVolumes K cfg nodes group.spec.desiredVolumeSpec
    (record group.spec.totalSize group.spec.volumes) group.spec.volumes with
  | none => rfl
  | some filled =>
    obtain ⟨vols, c⟩ := filled
    simp only [Option.bind_some, roomLeft]
    cases appendVolumes K cfg nodes group.spec.desiredVolumeSpec (newVolId rand group)
      (group.spec.desiredVolumeSpec.countRange.max - c.cnt).toNat 0 c <;> rfl

theorem schedVolGroup_places {K : Kube} {rand : Random} {cfg : SchedulerConfig} {nodes : List Node}
    {group out : AntstorVolumeGroup} (h : schedVolGroup K rand cfg nodes group = .ok out) :
    ∃ (news : List VolumeMeta) (placed : List (Cursor × String × ℤ)),
      picks K cfg nodes group.spec.desiredVolumeSpec
        (placeable (group.spec.volumes.countP fun vol => !vol.scheduled)
          (roomLeft group.spec.desiredVolumeSpec (record group.spec.totalSize group.spec.volumes)))
        (record group.spec.totalSize group.spec.volumes) = some placed ∧
      out.spec.volumes.Perm
        (group.spec.volumes.filter VolumeMeta.scheduled ++ news.filter VolumeMeta.scheduled) ∧
      news.map (fun vol => (vol.targetNodeName, vol.size)) = placed.map Prod.snd := by
  have hPlaces := @placeVolumes_places K cfg nodes group.spec.desiredVolumeSpec (newVolId rand group)
    (record group.spec.totalSize group.spec.volumes) group.spec.volumes
  rw [schedVolGroup_eq] at h
  generalize placeVolumes _ _ _ _ _ _ _ = result at hPlaces h
  generalize picks _ _ _ _ _ _ = ps at hPlaces ⊢
  cases hPlaces with
  | failed => cases h
  | @placed vols news last placed hPerm hNews =>
    cases h
    exact ⟨news, placed, rfl, hPerm, hNews⟩

/-- A successful call covers the requested size exactly when its picks cover what
the scheduled entries leave. -/
theorem schedVolGroup_covers_iff_picks (K : Kube) (rand : Random) (cfg : SchedulerConfig) (nodes : List Node)
    {group : AntstorVolumeGroup} (hTotal : InInt64 group.spec.totalSize) :
    (∀ out, schedVolGroup K rand cfg nodes group = .ok out →
      group.spec.totalSize ≤ (out.spec.volumes.map VolumeMeta.size).sum) ↔
    ∀ placed, picks K cfg nodes group.spec.desiredVolumeSpec
        (placeable (group.spec.volumes.countP fun vol => !vol.scheduled)
          (roomLeft group.spec.desiredVolumeSpec (start group))) (start group) = some placed →
      (start group).leftSize ≤ pickedSize placed := by
  have hYields : (∀ out, schedVolGroup K rand cfg nodes group = .ok out →
      group.spec.totalSize ≤ (out.spec.volumes.map VolumeMeta.size).sum) ↔
      Yields (placeVolumes K cfg nodes group.spec.desiredVolumeSpec (newVolId rand group)
        (record group.spec.totalSize group.spec.volumes) group.spec.volumes) group.spec.totalSize := by
    rw [schedVolGroup_eq]
    constructor
    · intro h vols c hOut
      rw [hOut] at h
      exact h _ rfl
    · intro h out hOut
      split at hOut
      · cases hOut
      · rename_i placed hPlaced
        cases hOut
        exact h placed.1 placed.2 hPlaced
  have hTotalEq : group.spec.totalSize = placedSize group.spec.volumes + (start group).leftSize :=
    (add_sub_cancel _ _).symm
  rw [hYields]
  nth_rewrite 2 [hTotalEq]
  rw [placeVolumes_places.yields_iff]
  rcases le_or_gt (start group).leftSize 0 with hDone | hLeft
  · exact iff_of_true (fun placed _ => hDone.trans (pickedSize_nonneg placed))
      fun placed _ => hDone.trans (pickedSize_nonneg placed)
  · rw [record_eq_start hTotal hLeft]

def pair : List Node := ["a", "b"].map fun id => .newNode
  { spec := { kernelLVM := { bytes := 2 ^ 23 }, nodeInfo := { id := id } }
    status := { capacity := Finmap.singleton resourceDiskPoolByte (2 ^ 23) } }

def twelveMiB (maxVolCnt : ℤ) : AntstorVolumeGroup where
  ns := "d"
  name := "g"
  spec := {
    uuid := "u"
    totalSize := 12 * 2 ^ 20
    desiredVolumeSpec := {
      countRange := { max := maxVolCnt }
      sizeRange := { max := 2 ^ 30 }
      sizeSymmetry := .asymmetric } }

def numbered : Random where
  suffix i := toString i
  uuid i := toString i

theorem two_entries_fall_short : ¬ ∀ out, schedVolGroup .exact numbered {} pair (twelveMiB 2) = .ok out →
    12 * 2 ^ 20 ≤ (out.spec.volumes.map VolumeMeta.size).sum := by
  intro h
  have hSum : (schedVolGroup .exact numbered {} pair (twelveMiB 2)).toOption.map
      (fun out => (out.spec.volumes.map VolumeMeta.size).sum) = some (8 * 2 ^ 20) := by decide +kernel
  cases hOut : schedVolGroup .exact numbered {} pair (twelveMiB 2) with
  | error err => simp [hOut, Except.toOption] at hSum
  | ok out =>
    have hCovered := h out hOut
    simp only [hOut, Except.toOption, Option.map_some, Option.some.injEq] at hSum
    omega

end Liteio.VolumeGroup
