import Liteio.Agent.Volume
import Liteio.Library.Requests

/-! # Making logical volumes

`LvmPoolEngine.CreateVolume` with `CreateLinearLV` and `CreateStripeLV` of
pkg/util/lvm, on the volume group the commands work on. The engine keeps the
count of physical volumes and the extent size it saw when it started, and cuts
the size of a striped volume down by them; `lvcreate` counts the physical volumes
again and rounds up.
-/

namespace Liteio.Lvm

open MachineInt VolumeSyncer

def lvLayoutLinear : String := "linear"

def lvLayoutStriped : String := "striped"

structure LV where
  name : String
  sizeByte : ℕ
  lvLayout : String := ""
  deriving DecidableEq

structure VG where
  pvCount : ℕ
  extendSize : ℕ
  lvs : List LV := []
  deriving DecidableEq

/-- Which of the commands fail for reasons of their own. -/
structure Answers where
  listLVFails : Bool := false
  listVGFails : Bool := false
  createFails : Bool := false
  formatFails : Bool := false

inductive LvmError where
  | listLV
  | listVG
  | foundNoVG (vgName : String)
  | command
  | divideByZero
  | unsupportedLayout (lvLayout : String)
  | sizeDiffers (name : String) (size want : ℕ)
  | format
  deriving DecidableEq

/-- `VgCache` as `PoolInfo` left it. -/
structure LvmPoolEngine where
  vgName : String
  pvCount : ℤ
  extendSize : ℕ

structure CreateVolumeRequest where
  volName : String
  sizeByte : ℕ
  fsType : String := ""
  lvLayout : String := ""

def isVolumeExistent (lvName : String) : List LV → Bool × Option LV
  | [] => (false, none)
  | lv :: lvs =>
    let linear := lv.lvLayout = lvLayoutLinear
    if lv.name = lvName then (linear, some lv)
    else (linear || (isVolumeExistent lvName lvs).1, (isVolumeExistent lvName lvs).2)

/-- `lvcreate -L`, in whole extents on every stripe; a volume without any extent
is not made. -/
def lvcreate (ans : Answers) (vg : VG) (lvName : String) (sizeByte stripes : ℕ) : Option VG :=
  let size := roundUp (stripes * vg.extendSize) sizeByte
  if ans.createFails ∨ size = 0 ∨ (isVolumeExistent lvName vg.lvs).2.isSome then none
  else some { vg with lvs := vg.lvs ++ [{
    name := lvName
    sizeByte := size
    lvLayout := if stripes = 1 then lvLayoutLinear else lvLayoutStriped }] }

def createLinearLV (ans : Answers) (vg : VG) (lvName : String) (sizeByte : ℕ) : Except LvmError VG :=
  match lvcreate ans vg lvName sizeByte 1 with
  | some vg => .ok vg
  | none => .error .command

def createStripeLV (ans : Answers) (vg : VG) (vgName lvName : String) (sizeByte : ℕ) : Except LvmError VG :=
  if ans.listVGFails then .error .listVG
  else if vg.pvCount < 1 then .error (.foundNoVG vgName)
  else
    match lvcreate ans vg lvName sizeByte vg.pvCount with
    | some vg => .ok vg
    | none => .error .command

namespace LvmPoolEngine

def unitSize (pe : LvmPoolEngine) : ℕ := uint64 (uint64 pe.pvCount * pe.extendSize)

/-- The size in whole units; a unit of zero bytes panics. -/
def roundDown (pe : LvmPoolEngine) (size : ℕ) : Except LvmError ℕ :=
  if 0 < pe.pvCount then
    if pe.unitSize = 0 then .error .divideByZero else .ok (size / pe.unitSize * pe.unitSize)
  else .ok size

def layoutOf (vg : VG) (name lvLayout : String) : String :=
  if lvLayout = "" then
    if (isVolumeExistent name vg.lvs).1 then lvLayoutLinear else lvLayoutStriped
  else lvLayout

def create (pe : LvmPoolEngine) (ans : Answers) (vg : VG) (name : String) (size : ℕ) (lvLayout : String) :
    Except LvmError VG :=
  if lvLayout = lvLayoutLinear then createLinearLV ans vg name size
  else if lvLayout = lvLayoutStriped then do
    let size ← pe.roundDown size
    createStripeLV ans vg pe.vgName name size
  else .error (.unsupportedLayout lvLayout)

def allocate (pe : LvmPoolEngine) (ans : Answers) (vg : VG) (name : String) (size : ℕ) (lvLayout : String) :
    Except LvmError (VG × KernelLvol) :=
  let vol : KernelLvol := { name := name, devPath := "/dev/" ++ pe.vgName ++ "/" ++ name }
  if ans.listLVFails then .error .listLV
  else
    match (isVolumeExistent name vg.lvs).2 with
    | none => (pe.create ans vg name size (layoutOf vg name lvLayout)).map fun vg => (vg, vol)
    | some target =>
      if target.sizeByte ≠ size then .error (.sizeDiffers name target.sizeByte size) else .ok (vg, vol)

/-- The volume stays when it cannot be formatted. -/
def createVolume (pe : LvmPoolEngine) (ans : Answers) (vg : VG) (req : CreateVolumeRequest) :
    VG × Except LvmError String :=
  match pe.allocate ans vg req.volName req.sizeByte req.lvLayout with
  | .error err => (vg, .error err)
  | .ok (vg, vol) =>
    if req.fsType ≠ "" ∧ ans.formatFails then (vg, .error .format) else (vg, .ok vol.devPath)

end LvmPoolEngine

theorem le_roundUp_iff {unit size wanted : ℕ} (h : 0 < unit) :
    wanted ≤ roundUp unit size ↔ ∀ k, size ≤ k * unit → wanted ≤ k * unit := by
  have hLeast : ∀ k, (size + (unit - 1)) / unit ≤ k ↔ size ≤ k * unit := by
    intro k
    rw [Nat.div_le_iff_le_mul_add_pred h, mul_comm unit k, Nat.add_le_add_iff_right]
  constructor
  · intro hWanted k hk
    exact hWanted.trans (Nat.mul_le_mul_right unit ((hLeast k).mpr hk))
  · intro hAll
    exact hAll _ ((hLeast _).mp le_rfl)

theorem isVolumeExistent_snd (lvName : String) (lvs : List LV) :
    (isVolumeExistent lvName lvs).2 = lvs.find? fun lv => lv.name = lvName := by
  induction lvs with
  | nil => rfl
  | cons lv lvs ih =>
    rw [isVolumeExistent]
    by_cases hName : lv.name = lvName
    · simp [hName]
    · simp [hName, ih]

theorem isVolumeExistent_eq_none {lvName : String} {lvs : List LV} (h : ∀ lv ∈ lvs, lv.name ≠ lvName) :
    (isVolumeExistent lvName lvs).2 = none := by
  rw [isVolumeExistent_snd, List.find?_eq_none]
  simpa using h

theorem lvcreate_eq_some {ans : Answers} {vg vg' : VG} {lvName : String} {sizeByte stripes : ℕ}
    (h : lvcreate ans vg lvName sizeByte stripes = some vg') :
    0 < roundUp (stripes * vg.extendSize) sizeByte ∧ ∃ layout, vg'.lvs =
      vg.lvs ++ [⟨lvName, roundUp (stripes * vg.extendSize) sizeByte, layout⟩] := by
  unfold lvcreate at h
  dsimp only at h
  split at h
  · cases h
  · rename_i hMade
    cases h
    rw [not_or, not_or] at hMade
    exact ⟨Nat.pos_of_ne_zero hMade.2.1, _, rfl⟩

theorem unit_pos {unit size : ℕ} (h : 0 < roundUp unit size) : 0 < unit := by
  refine Nat.pos_of_ne_zero ?_
  rintro rfl
  simp [roundUp] at h

namespace LvmPoolEngine

/-- Cutting the size down to whole units of the cached volume group passes no
multiple of a stripe: the next one is still as large as the size. -/
def KeepsSize (pe : LvmPoolEngine) (vg : VG) (req : CreateVolumeRequest) : Prop :=
  layoutOf vg req.volName req.lvLayout = lvLayoutLinear ∨ pe.pvCount ≤ 0 ∨
    ∀ k, req.sizeByte / pe.unitSize * pe.unitSize ≤ k * (vg.pvCount * vg.extendSize) →
      req.sizeByte ≤ k * (vg.pvCount * vg.extendSize)

theorem roundDown_eq_ok {pe : LvmPoolEngine} {size cut : ℕ} (h : pe.roundDown size = .ok cut) :
    cut = if 0 < pe.pvCount then size / pe.unitSize * pe.unitSize else size := by
  unfold roundDown at h
  split at h
  · rename_i hCount
    split at h
    · cases h
    · cases h
      rw [if_pos hCount]
  · rename_i hCount
    cases h
    rw [if_neg hCount]

theorem create_eq_ok {pe : LvmPoolEngine} {ans : Answers} {vg vg' : VG} {name lvLayout : String} {size : ℕ}
    (h : pe.create ans vg name size lvLayout = .ok vg') :
    ∃ unit cut layout, 0 < roundUp unit cut ∧ vg'.lvs = vg.lvs ++ [⟨name, roundUp unit cut, layout⟩] ∧
      (lvLayout = lvLayoutLinear ∧ unit = vg.extendSize ∧ cut = size ∨
        lvLayout = lvLayoutStriped ∧ unit = vg.pvCount * vg.extendSize ∧ pe.roundDown size = .ok cut) := by
  unfold create at h
  split at h
  · rename_i hLinear
    unfold createLinearLV at h
    split at h
    · rename_i made hMade
      cases h
      obtain ⟨hSize, layout, hLvs⟩ := lvcreate_eq_some hMade
      exact ⟨_, size, layout, hSize, hLvs, .inl ⟨hLinear, one_mul _, rfl⟩⟩
    · cases h
  · split at h
    · rename_i hStriped
      obtain ⟨cut, hCut, hStripe⟩ := Requests.bind_eq_ok h
      unfold createStripeLV at hStripe
      split at hStripe
      · cases hStripe
      · split at hStripe
        · cases hStripe
        · split at hStripe
          · rename_i made hMade
            cases hStripe
            obtain ⟨hSize, layout, hLvs⟩ := lvcreate_eq_some hMade
            exact ⟨_, cut, layout, hSize, hLvs, .inr ⟨hStriped, rfl, hCut⟩⟩
          · cases hStripe
    · cases h

theorem allocate_eq_ok {pe : LvmPoolEngine} {ans : Answers} {vg vg' : VG} {name lvLayout : String} {size : ℕ}
    {vol : KernelLvol} (h : pe.allocate ans vg name size lvLayout = .ok (vg', vol)) :
    vol.devPath = "/dev/" ++ pe.vgName ++ "/" ++ name ∧
      ((isVolumeExistent name vg.lvs).2 = none ∧
          pe.create ans vg name size (layoutOf vg name lvLayout) = .ok vg' ∨
        ∃ target, (isVolumeExistent name vg.lvs).2 = some target ∧ target.sizeByte = size ∧ vg' = vg) := by
  unfold allocate at h
  dsimp only at h
  split at h
  · cases h
  · split at h
    · rename_i hNone
      obtain ⟨created, hCreated, hPair⟩ := Requests.map_eq_ok h
      cases hPair
      exact ⟨rfl, .inl ⟨hNone, hCreated⟩⟩
    · rename_i target hTarget
      split at h
      · cases h
      · rename_i hSize
        cases h
        exact ⟨rfl, .inr ⟨target, hTarget, not_not.mp hSize, rfl⟩⟩

theorem createVolume_allocates {pe : LvmPoolEngine} {ans : Answers} {vg vg' : VG} {req : CreateVolumeRequest}
    {devPath : String} (h : pe.createVolume ans vg req = (vg', .ok devPath)) :
    ∃ vol, pe.allocate ans vg req.volName req.sizeByte req.lvLayout = .ok (vg', vol) ∧ vol.devPath = devPath := by
  unfold createVolume at h
  split at h
  · cases h
  · rename_i made vol hMade
    split at h
    · cases h
    · cases h
      exact ⟨vol, hMade, rfl⟩

theorem createVolume_eq_ok {pe : LvmPoolEngine} {ans : Answers} {vg vg' : VG} {req : CreateVolumeRequest}
    {devPath : String} (hNew : ∀ lv ∈ vg.lvs, lv.name ≠ req.volName)
    (h : pe.createVolume ans vg req = (vg', .ok devPath)) :
    pe.create ans vg req.volName req.sizeByte (layoutOf vg req.volName req.lvLayout) = .ok vg' := by
  obtain ⟨vol, hVol, -⟩ := createVolume_allocates h
  obtain ⟨-, ⟨-, hCreated⟩ | ⟨target, hTarget, -⟩⟩ := allocate_eq_ok hVol
  · exact hCreated
  · rw [isVolumeExistent_eq_none hNew] at hTarget
    cases hTarget

/-- A volume that was created is as large as it was asked for exactly when its
size survived the cut. -/
theorem createVolume_delivers_iff {pe : LvmPoolEngine} {ans : Answers} {vg vg' : VG}
    {req : CreateVolumeRequest} {devPath : String} (hNew : ∀ lv ∈ vg.lvs, lv.name ≠ req.volName)
    (h : pe.createVolume ans vg req = (vg', .ok devPath)) :
    (∀ lv ∈ vg'.lvs, lv.name = req.volName → req.sizeByte ≤ lv.sizeByte) ↔ pe.KeepsSize vg req := by
  obtain ⟨unit, cut, layout, hSize, hLvs, hHow⟩ := create_eq_ok (createVolume_eq_ok hNew h)
  have hLast : (∀ lv ∈ vg'.lvs, lv.name = req.volName → req.sizeByte ≤ lv.sizeByte) ↔
      req.sizeByte ≤ roundUp unit cut := by
    rw [hLvs]
    constructor
    · intro hAll
      exact hAll _ (List.mem_append_right _ List.mem_cons_self) rfl
    · intro hLe lv hLv hName
      rcases List.mem_append.mp hLv with hOld | hLv
      · exact absurd hName (hNew lv hOld)
      · cases List.mem_singleton.mp hLv
        exact hLe
  rw [hLast, le_roundUp_iff (unit_pos hSize), KeepsSize]
  rcases hHow with ⟨hLinear, rfl, rfl⟩ | ⟨hStriped, rfl, hCut⟩
  · exact iff_of_true (fun k hk => hk) (.inl hLinear)
  · have hNotLinear : layoutOf vg req.volName req.lvLayout ≠ lvLayoutLinear := by
      rw [hStriped]
      decide
    have hEq := roundDown_eq_ok hCut
    split at hEq
    · rename_i hCount
      rw [or_iff_right hNotLinear, or_iff_right (not_le.mpr hCount), hEq]
    · rename_i hCount
      rw [hEq]
      exact iff_of_true (fun k hk => hk) (.inr (.inl (not_lt.mp hCount)))

structure Serves (pe : LvmPoolEngine) (vg : VG) (svc : PoolService) : Prop where
  mode : svc.mode = .kernelLVM
  pvCount : (svc.pvCount : ℤ) = pe.pvCount
  stripes : svc.stripes = vg.pvCount
  extendSize : svc.extendSize = vg.extendSize
  unitSize : svc.pvCount * svc.extendSize = pe.unitSize

/-- The volume syncer's view of a new volume is the size the engine gives it. -/
theorem layOut_of_createVolume {pe : LvmPoolEngine} {ans : Answers} {vg vg' : VG}
    {req : CreateVolumeRequest} {devPath : String} {svc : PoolService} (hServes : pe.Serves vg svc)
    (hNew : ∀ lv ∈ vg.lvs, lv.name ≠ req.volName) (h : pe.createVolume ans vg req = (vg', .ok devPath)) :
    ∃ lv ∈ vg'.lvs, lv.name = req.volName ∧
      svc.layOut req.sizeByte req.lvLayout (isVolumeExistent req.volName vg.lvs).1 = some lv.sizeByte := by
  obtain ⟨unit, cut, layout, hSize, hLvs, hHow⟩ := create_eq_ok (createVolume_eq_ok hNew h)
  refine ⟨⟨req.volName, roundUp unit cut, layout⟩, ?_, rfl, ?_⟩
  · rw [hLvs]
    exact List.mem_append_right _ List.mem_cons_self
  · rw [PoolService.layOut, hServes.mode]
    change (if layoutOf vg req.volName req.lvLayout = lvLayoutLinear then _
      else if layoutOf vg req.volName req.lvLayout = lvLayoutStriped then _ else none) = _
    rcases hHow with ⟨hLinear, rfl, rfl⟩ | ⟨hStriped, rfl, hCut⟩
    · rw [if_pos hLinear, hServes.extendSize]
    · rw [hStriped, if_neg (by decide), if_pos rfl, hServes.unitSize, hServes.stripes, hServes.extendSize]
      have hEq := roundDown_eq_ok hCut
      simp only [← hServes.pvCount, Nat.cast_pos] at hEq
      dsimp only
      rw [← hEq]
      exact Option.filter_some_pos (by simpa using hSize)

theorem keepsSize_iff_dvd {pe : LvmPoolEngine} {vg : VG} {req : CreateVolumeRequest}
    (hStriped : layoutOf vg req.volName req.lvLayout ≠ lvLayoutLinear) (hCount : 0 < pe.pvCount)
    (hFresh : pe.unitSize = vg.pvCount * vg.extendSize) :
    pe.KeepsSize vg req ↔ pe.unitSize ∣ req.sizeByte := by
  rw [KeepsSize, or_iff_right hStriped, or_iff_right (not_le.mpr hCount), ← hFresh]
  constructor
  · intro hAll
    have hLe := hAll _ le_rfl
    exact Nat.dvd_of_mod_eq_zero (by have := Nat.div_add_mod' req.sizeByte pe.unitSize; omega)
  · intro hDvd k hk
    rwa [Nat.div_mul_cancel hDvd] at hk

def twoDisks : VG := { pvCount := 2, extendSize := fourMiB }

def engineOf (vg : VG) : LvmPoolEngine where
  vgName := "vg"
  pvCount := vg.pvCount
  extendSize := vg.extendSize

def extents (count : ℕ) : CreateVolumeRequest := { volName := "v", sizeByte := count * fourMiB }

theorem fourExtents_delivered : ∃ vg', (engineOf twoDisks).createVolume {} twoDisks (extents 4) =
      (vg', .ok "/dev/vg/v") ∧
    ∀ lv ∈ vg'.lvs, lv.name = "v" → 4 * fourMiB ≤ lv.sizeByte := by
  have hNew : ∀ lv ∈ twoDisks.lvs, lv.name ≠ (extents 4).volName := by decide
  have hMade : (engineOf twoDisks).createVolume {} twoDisks (extents 4) =
      ({ twoDisks with lvs := [⟨"v", 4 * fourMiB, lvLayoutStriped⟩] }, .ok "/dev/vg/v") := rfl
  refine ⟨_, hMade, (createVolume_delivers_iff hNew hMade).mpr ?_⟩
  exact (keepsSize_iff_dvd (by decide) (by decide) (by decide)).mpr (by decide)

/-- Of three extents two are left, one on each disk. -/
theorem threeExtents_cut : ∃ vg', (engineOf twoDisks).createVolume {} twoDisks (extents 3) =
      (vg', .ok "/dev/vg/v") ∧
    ¬ ∀ lv ∈ vg'.lvs, lv.name = "v" → 3 * fourMiB ≤ lv.sizeByte := by
  refine ⟨_, rfl, ?_⟩
  decide

end LvmPoolEngine

end Liteio.Lvm
