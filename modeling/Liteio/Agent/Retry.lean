import Liteio.Agent.Engine

/-! # Creating a logical volume twice

The agent repeats `CreateVolume` when the update that follows it is refused. The
second call finds the volume and compares its size with the size asked for, which
the first call may have cut down, and `lvcreate` rounded up.
-/

namespace Liteio.Lvm

open MachineInt VolumeSyncer

theorem roundUp_eq_iff {unit cut size : ℕ} (h : 0 < unit) :
    roundUp unit cut = size ↔ unit ∣ size ∧ cut ≤ size ∧ size < cut + unit := by
  have hDiv := Nat.div_add_mod (cut + (unit - 1)) unit
  have hMod := Nat.mod_lt (cut + (unit - 1)) h
  rw [roundUp, mul_comm]
  constructor
  · rintro rfl
    exact ⟨Nat.dvd_mul_right _ _, by omega, by omega⟩
  · rintro ⟨⟨k, rfl⟩, hLe, hLt⟩
    congr 1
    refine Nat.div_eq_of_lt_le ?_ ?_
    · rw [mul_comm]
      omega
    · rw [add_mul, mul_comm]
      omega

namespace LvmPoolEngine

/-- Between two calls only volumes with other names come and go. -/
def OnlyOthers (volName : String) (vg vg' : VG) : Prop :=
  (vg'.lvs.filter fun lv => lv.name = volName) = vg.lvs.filter fun lv => lv.name = volName

/-- A new volume gets the size it is asked for: whole extents, on every disk if it
is striped, and no whole stripe is lost to the cut by the cached volume group. -/
def WholeExtents (pe : LvmPoolEngine) (vg : VG) (req : CreateVolumeRequest) : Prop :=
  if layoutOf vg req.volName req.lvLayout = lvLayoutLinear then vg.extendSize ∣ req.sizeByte
  else vg.pvCount * vg.extendSize ∣ req.sizeByte ∧
    (pe.pvCount ≤ 0 ∨ req.sizeByte % pe.unitSize < vg.pvCount * vg.extendSize)

section

variable {pe : LvmPoolEngine} {ans : Answers} {vg vg' : VG} {req : CreateVolumeRequest}

theorem OnlyOthers.isVolumeExistent {volName : String} (h : OnlyOthers volName vg vg') :
    (isVolumeExistent volName vg'.lvs).2 = (isVolumeExistent volName vg.lvs).2 := by
  rw [isVolumeExistent_snd, isVolumeExistent_snd, ← List.head?_filter, ← List.head?_filter]
  exact congrArg List.head? h

theorem createVolume_of_exists {target : LV} (hFs : req.fsType = "") (hList : ans.listLVFails = false)
    (hFind : (isVolumeExistent req.volName vg.lvs).2 = some target) :
    pe.createVolume ans vg req =
      (vg, if target.sizeByte = req.sizeByte then .ok ("/dev/" ++ pe.vgName ++ "/" ++ req.volName)
        else .error (.sizeDiffers req.volName target.sizeByte req.sizeByte)) := by
  by_cases hSize : target.sizeByte = req.sizeByte
  · simp [createVolume, allocate, hFs, hList, hFind, hSize]
  · simp [createVolume, allocate, hList, hFind, hSize]

theorem wholeExtents_iff {unit cut : ℕ} (hSize : 0 < roundUp unit cut)
    (hHow : layoutOf vg req.volName req.lvLayout = lvLayoutLinear ∧ unit = vg.extendSize ∧ cut = req.sizeByte ∨
      layoutOf vg req.volName req.lvLayout = lvLayoutStriped ∧ unit = vg.pvCount * vg.extendSize ∧
        pe.roundDown req.sizeByte = .ok cut) :
    roundUp unit cut = req.sizeByte ↔ pe.WholeExtents vg req := by
  have hUnit := unit_pos hSize
  rw [roundUp_eq_iff hUnit, WholeExtents]
  rcases hHow with ⟨hLinear, rfl, rfl⟩ | ⟨hStriped, rfl, hCut⟩
  · rw [if_pos hLinear]
    exact and_iff_left ⟨le_rfl, Nat.lt_add_of_pos_right hUnit⟩
  · rw [hStriped, if_neg (by decide), roundDown_eq_ok hCut]
    refine and_congr_right fun _ => ?_
    have hDiv := Nat.div_add_mod' req.sizeByte pe.unitSize
    split
    · rename_i hCount
      rw [or_iff_right (not_le.mpr hCount)]
      omega
    · rename_i hCount
      exact iff_of_true ⟨le_rfl, Nat.lt_add_of_pos_right hUnit⟩ (.inl (not_lt.mp hCount))

end

/-- A second call for a volume that was created succeeds and changes nothing,
whatever other volumes were made meanwhile, precisely if the first call found it
there or it was asked for in whole extents. -/
theorem createVolume_again_iff {pe : LvmPoolEngine} {ans ans' : Answers} {vg vg' vg'' : VG}
    {req : CreateVolumeRequest} {devPath : String} (hFs : req.fsType = "")
    (h : pe.createVolume ans vg req = (vg', .ok devPath)) (hBetween : OnlyOthers req.volName vg' vg'')
    (hList : ans'.listLVFails = false) :
    pe.createVolume ans' vg'' req = (vg'', .ok devPath) ↔
      (∃ lv ∈ vg.lvs, lv.name = req.volName) ∨ pe.WholeExtents vg req := by
  obtain ⟨vol, hVol, rfl⟩ := createVolume_allocates h
  obtain ⟨hPath, hHow⟩ := allocate_eq_ok hVol
  have hAgain : ∀ {target}, (isVolumeExistent req.volName vg'.lvs).2 = some target →
      (pe.createVolume ans' vg'' req = (vg'', .ok vol.devPath) ↔ target.sizeByte = req.sizeByte) := by
    intro target hFind
    rw [createVolume_of_exists hFs hList (hBetween.isVolumeExistent.trans hFind), hPath]
    by_cases hSize : target.sizeByte = req.sizeByte
    · simp [hSize]
    · simp [hSize]
  -- the first call made the volume, or had found it with its size
  rcases hHow with ⟨hNone, hCreated⟩ | ⟨target, hTarget, hSize, rfl⟩
  · rw [isVolumeExistent_snd] at hNone
    have hNew : ¬ ∃ lv ∈ vg.lvs, lv.name = req.volName := by
      simpa using List.find?_eq_none.mp hNone
    obtain ⟨unit, cut, layout, hSize, hLvs, hHow⟩ := create_eq_ok hCreated
    have hMade : (isVolumeExistent req.volName vg'.lvs).2 = some ⟨req.volName, roundUp unit cut, layout⟩ := by
      rw [isVolumeExistent_snd, hLvs, List.find?_append, hNone]
      simp
    rw [hAgain hMade, or_iff_right hNew]
    exact wholeExtents_iff hSize hHow
  · refine iff_of_true ((hAgain hTarget).mpr hSize) (.inl ?_)
    rw [isVolumeExistent_snd] at hTarget
    exact ⟨target, List.mem_of_find?_eq_some hTarget, by simpa using List.find?_some hTarget⟩

def afterFirst (count : ℕ) : VG :=
  { twoDisks with lvs := [⟨"w", fourMiB, lvLayoutLinear⟩, ⟨"v", count * fourMiB, lvLayoutStriped⟩] }

theorem fourExtents_again :
    (engineOf twoDisks).createVolume {} (afterFirst 4) (extents 4) = (afterFirst 4, .ok "/dev/vg/v") := by
  have hFirst : (engineOf twoDisks).createVolume {} twoDisks (extents 4) =
      ({ twoDisks with lvs := [⟨"v", 4 * fourMiB, lvLayoutStriped⟩] }, .ok "/dev/vg/v") := rfl
  have hBetween : OnlyOthers "v" { twoDisks with lvs := [⟨"v", 4 * fourMiB, lvLayoutStriped⟩] } (afterFirst 4) :=
    rfl
  have hList : ({} : Answers).listLVFails = false := rfl
  refine (createVolume_again_iff rfl hFirst hBetween hList).mpr (.inr ?_)
  unfold WholeExtents
  decide

/-- Of three extents two are made, and the second call finds them too few. -/
theorem threeExtents_refused : ∃ vg', (engineOf twoDisks).createVolume {} twoDisks (extents 3) =
      (vg', .ok "/dev/vg/v") ∧
    (engineOf twoDisks).createVolume {} vg' (extents 3) ≠ (vg', .ok "/dev/vg/v") := by
  refine ⟨_, rfl, fun hAgain => ?_⟩
  cases congrArg Prod.snd hAgain

end LvmPoolEngine

end Liteio.Lvm
