import Liteio.Agent.Passes

/-! # Expansions are applied once

`ResizePV` records a new size and, in a label, the old one; the agent extends the
logical volume by the difference and then removes the label. The extension is
relative and the record is not, so a pass that is repeated after its extension
extends again, and a second request before the first is carried out loses the
first. Where each extension starts from the recorded size, the label goes only
with the logical volume at the size of the volume.
-/

namespace Liteio.VolumeSyncer

open MachineInt Strconv Worker Optimistic

structure ResizeAnswers extends Answers where
  requestSize : ℤ := 0

def resizePV (requestSize : ℤ) (vol : AntstorVolume) : AntstorVolume :=
  { vol with
    spec := { vol.spec with sizeByte := uint64 requestSize }
    labels := FiniteMap.put vol.labels expansionOriginalSize (itoa (int64 vol.spec.sizeByte)) }

theorem resizePV_label (requestSize : ℤ) (vol : AntstorVolume) :
    (resizePV requestSize vol).label expansionOriginalSize = some (itoa (int64 vol.spec.sizeByte)) :=
  FiniteMap.find_put_self _ _ _

def expansion (svc : PoolService) : Model (Option AntstorVolume) Disk ResizeAnswers Call Reply Write :=
  model svc ResizeAnswers.toAnswers fun ans obj => obj.map fun vol => .update (resizePV ans.requestSize vol)

/-- Sizes are aligned and increase, and an extension starts from the recorded
size. -/
def onceGuards : Guards Call Write (Option AntstorVolume) Disk where
  permitted
    | .expandVolume _ _ originSize, _, disk => disk.lv = some originSize
    | _, _, _ => True
  welcome
    | .update vol, some current, _ =>
      fourMiB ∣ vol.spec.sizeByte ∧ current.spec.sizeByte < vol.spec.sizeByte ∧ vol.spec.sizeByte < 2 ^ 63
    | _, _, _ => True

instance (c : Call) (obj : Option AntstorVolume) (disk : Disk) : Decidable (onceGuards.permitted c obj disk) := by
  cases c <;> first | exact isTrue trivial | exact inferInstanceAs (Decidable (disk.lv = some _))

instance (w : Write) (obj : Option AntstorVolume) (disk : Disk) : Decidable (onceGuards.welcome w obj disk) := by
  cases w <;> cases obj <;> first | exact isTrue trivial | exact inferInstanceAs (Decidable (_ ∧ _ ∧ _))

/-- Without the label the logical volume has the size of the volume. -/
def ExpandedOnce (obj : Option AntstorVolume) (disk : Disk) : Prop :=
  ∀ vol ∈ obj, vol.label expansionOriginalSize = none → disk.lv = some vol.spec.sizeByte

instance (obj : Option AntstorVolume) (disk : Disk) : Decidable (ExpandedOnce obj disk) :=
  match obj with
  | none => isTrue (by simp [ExpandedOnce])
  | some vol =>
    decidable_of_iff (vol.label expansionOriginalSize = none → disk.lv = some vol.spec.sizeByte)
      (by simp [ExpandedOnce])

structure Expanding (vol : AntstorVolume) (disk : Disk) : Prop where
  live : vol.deletionTimestamp = none
  aligned : fourMiB ∣ vol.spec.sizeByte
  small : vol.spec.sizeByte < 2 ^ 63
  exists_lv : ∃ lv, disk.lv = some lv
  settled : vol.label expansionOriginalSize = none → disk.lv = some vol.spec.sizeByte
  recorded : ∀ text, vol.label expansionOriginalSize = some text →
    ∃ origin : ℕ, atoi text = ((origin : ℤ), none) ∧ origin < vol.spec.sizeByte ∧ fourMiB ∣ origin

def Labelled (obj : Option AntstorVolume) : Prop :=
  ∃ vol, obj = some vol ∧ vol.label expansionOriginalSize ≠ none

/-- Only the worker removes labels, and extends only for a label it has seen. -/
def onceSpec : Spec Call Write (Option AntstorVolume) Disk where
  toGuards := onceGuards
  inv obj disk := ∃ vol, obj = some vol ∧ Expanding vol disk
  rel copy obj := Labelled copy → Labelled obj
  callable copy c written _ :=
    match c with
    | .expandVolume .. => written = false ∧ Labelled copy
    | .deleteVolume _ => False
    | _ => True

theorem roundUp_of_dvd {unit size : ℕ} (hUnit : 0 < unit) (h : unit ∣ size) : roundUp unit size = size := by
  obtain ⟨k, rfl⟩ := h
  rw [roundUp, Nat.mul_add_div hUnit, Nat.div_eq_of_lt (by omega), Nat.add_zero, Nat.mul_comm]

theorem extend_of_origin {svc : PoolService} {origin size : ℕ} (hMode : svc.mode = .kernelLVM)
    (hExtent : svc.extendSize = fourMiB) (hLt : origin < size) (hSmall : size < 2 ^ 63)
    (hOrigin : fourMiB ∣ origin) (hSize : fourMiB ∣ size) :
    svc.extend size origin origin = some size := by
  have hDelta : int64 ((size : ℤ) - origin) = ((size - origin : ℕ) : ℤ) := by
    rw [int64_of_inInt64 ⟨by omega, by omega⟩]
    omega
  rw [PoolService.extend, hMode]
  simp only [hDelta]
  rw [if_pos (by omega), hExtent, Int.toNat_natCast,
    roundUp_of_dvd (by decide) ((Nat.dvd_sub_iff_left hLt.le hOrigin).mpr hSize)]
  congr
  omega

variable {svc : PoolService} {vol other : AntstorVolume} {disk : Disk}

theorem Expanding.update (h : Expanding vol disk) (hSize : other.spec.sizeByte = vol.spec.sizeByte)
    (hLabel : other.label expansionOriginalSize = none) (hLv : disk.lv = some vol.spec.sizeByte) :
    onceSpec.inv (Write.apply (.update other) (some vol)) disk := by
  refine ⟨_, finalize_live h.live, h.live, ?_, ?_, h.exists_lv, fun _ => ?_, fun text hText => ?_⟩
  · exact hSize ▸ h.aligned
  · exact hSize ▸ h.small
  · exact hLv.trans (congrArg some hSize.symm)
  · cases hLabel.symm.trans hText

theorem Expanding.updateStatus (h : Expanding vol disk) (other : AntstorVolume) :
    onceSpec.inv (Write.apply (.updateStatus other) (some vol)) disk :=
  ⟨_, finalize_live h.live, h.live, h.aligned, h.small, h.exists_lv, h.settled, h.recorded⟩

theorem Expanding.atSize {disk' : Disk} (h : Expanding vol disk) (hLv : disk'.lv = some vol.spec.sizeByte) :
    Expanding vol disk' :=
  ⟨h.live, h.aligned, h.small, ⟨_, hLv⟩, fun _ => hLv, h.recorded⟩

theorem perform_expandVolume_lv {ans : Answers} {volName : String} {size origin : ℕ}
    (hLv : disk.lv = some origin) (hExtend : svc.extend size origin origin = some size)
    (hOk : (perform svc (.expandVolume volName size origin) ans disk).1 = true) :
    (perform svc (.expandVolume volName size origin) ans disk).2.lv = some size := by
  simp only [perform, hLv, hExtend] at hOk ⊢
  rw [Answers.effect_of_succeeds hOk]

section

variable (hMode : svc.mode = .kernelLVM) (hExtent : svc.extendSize = fourMiB)
include hMode hExtent

theorem expandVolume_meets (h : Expanding vol disk) :
    onceSpec.Meets (expansion svc) (some vol)
      (fun other _ disk => (other.spec.sizeByte = vol.spec.sizeByte ∧
        other.label expansionOriginalSize = none) ∧ disk.lv = some vol.spec.sizeByte)
      (expandVolume vol) false disk := by
  unfold expandVolume
  split
  · rename_i hLabel
    exact ⟨⟨rfl, hLabel⟩, h.settled hLabel⟩
  · rename_i text hLabel
    obtain ⟨origin, hText, hLt, hOrigin⟩ := h.recorded text hLabel
    rw [hText]
    split
    · rename_i volName bdevName hPair hTarget
      cases hPair
      have hLabelled : Labelled (some vol) := ⟨vol, rfl, by simp [hLabel]⟩
      have hUint : uint64 (origin : ℤ) = origin := by
        have := h.small
        rw [uint64]
        omega
      rw [hUint]
      have hExpand : onceSpec.Meets (expansion svc) (some vol) (fun _ _ disk => disk.lv = some vol.spec.sizeByte)
          (Prog.attempt (.expandVolume volName vol.spec.sizeByte origin) id) false disk :=
        Spec.meets_attempt ⟨rfl, hLabelled⟩ fun obj hPermitted ans hOk => perform_expandVolume_lv hPermitted
          (extend_of_origin hMode hExtent hLt h.small hOrigin h.aligned) hOk
      refine hExpand.bind fun _ written disk hLv => ?_
      have hResize : onceSpec.Meets (expansion svc) (some vol) (fun _ _ disk => disk.lv = some vol.spec.sizeByte)
          (resizeAioBdev bdevName vol.spec.sizeByte) written disk := by
        unfold resizeAioBdev
        split
        · refine Spec.meets_attempt trivial fun obj _ ans _ => ?_
          exact perform_lv svc (show Additive (.resizeAioBdev ..) from trivial) hLv _
        · exact hLv
      refine hResize.bind fun _ written disk hLv => ?_
      have hDropped := FiniteMap.find_drop_self vol.labels expansionOriginalSize
      exact ⟨rfl, (h.atSize hLv).update rfl hDropped hLv, ⟨rfl, hDropped⟩, hLv⟩
    · trivial

theorem syncOneVolume_meets (h : Expanding vol disk) :
    onceSpec.Meets (expansion svc) (some vol) (fun _ _ _ => True) (syncOneVolume svc vol) false disk := by
  rw [syncOneVolume]
  split
  · trivial
  · rw [if_neg (by simp [h.live])]
    refine (expandVolume_meets hMode hExtent h).bind fun other written disk hMid => ?_
    obtain ⟨⟨hSize, hLabel⟩, hLv⟩ := hMid
    refine (Spec.meets_of_all (fun disk => disk.lv = some vol.spec.sizeByte)
      (applyVolume_bringUp_all svc other) hLv ?_ ?_).mono fun _ _ _ _ => trivial
    · intro c hCall written disk hLv
      refine ⟨?_, fun ans => perform_lv svc hCall hLv _⟩
      cases c <;> trivial
    · rintro _ (⟨new, rfl, hSame⟩ | ⟨new, rfl⟩) disk hLv
      · refine ⟨rfl, (h.atSize hLv).update (hSame.sizeByte.trans hSize) ?_ hLv⟩
        rw [ObjectMeta.label, hSame.labels]
        exact hLabel
      · exact ⟨rfl, (h.atSize hLv).updateStatus new⟩

end

theorem Expanding.call (svc : PoolService) {c : Call} (ans : Answers) (h : Expanding vol disk) (hCall : Additive c) :
    Expanding vol (perform svc c ans disk).2 := by
  obtain ⟨lv, hLv⟩ := h.exists_lv
  have hSame := perform_lv svc hCall hLv ans
  exact ⟨h.live, h.aligned, h.small, ⟨lv, hSame⟩, fun hNone => by rw [hSame, ← hLv, h.settled hNone], h.recorded⟩

theorem Expanding.expandVolume (svc : PoolService) {volName : String} {targetSize originSize : ℕ}
    (ans : Answers) (h : Expanding vol disk) (hLabel : vol.label expansionOriginalSize ≠ none) :
    Expanding vol (perform svc (.expandVolume volName targetSize originSize) ans disk).2 := by
  obtain ⟨lv, hLv⟩ := h.exists_lv
  have hExists : ∃ lv', (perform svc (.expandVolume volName targetSize originSize) ans disk).2.lv = some lv' := by
    simp only [perform, hLv, Answers.effect]
    split
    · split <;> exact ⟨_, by first | rfl | exact hLv⟩
    · exact ⟨lv, hLv⟩
  obtain ⟨lv', hLv'⟩ := hExists
  exact ⟨h.live, h.aligned, h.small, ⟨lv', hLv'⟩, fun hNone => absurd hNone hLabel, h.recorded⟩

theorem Expanding.resize {requestSize : ℤ} (h : Expanding vol disk)
    (hWelcome : onceGuards.welcome (.update (resizePV requestSize vol)) (some vol) disk) :
    Expanding (resizePV requestSize vol) disk := by
  obtain ⟨hAligned, hLt, hSmall⟩ := hWelcome
  refine ⟨h.live, hAligned, hSmall, h.exists_lv, fun hNone => ?_, fun text hText => ?_⟩
  · rw [resizePV_label] at hNone
    cases hNone
  · rw [resizePV_label, Option.some_inj] at hText
    subst hText
    have hSize := h.small
    rw [int64_of_inInt64 ⟨by omega, by omega⟩]
    exact ⟨vol.spec.sizeByte, atoi_itoa hSize, hLt, h.aligned⟩

theorem onceSpec_valid (hMode : svc.mode = .kernelLVM) (hExtent : svc.extendSize = fourMiB) :
    onceSpec.Valid (expansion svc) where
  refl _ h := h
  program := by
    rintro _ disk ⟨vol, rfl, h⟩
    exact syncOneVolume_meets hMode hExtent h
  call := by
    rintro copy c written ans _ disk ⟨vol, rfl, h⟩ hRel hCallable -
    refine ⟨vol, rfl, ?_⟩
    cases c with
    | expandVolume volName targetSize originSize =>
      obtain ⟨_, ⟨⟩, hLabel⟩ := hRel hCallable.1 hCallable.2
      exact h.expandVolume svc _ hLabel
    | deleteVolume volName => exact hCallable.elim
    | _ => exact h.call svc _ trivial
  writer := by
    rintro ans copy w _ disk hWriter hCurrent ⟨vol, rfl, h⟩ hWelcome
    obtain ⟨read, rfl, rfl⟩ := Option.map_eq_some_iff.mp hWriter
    cases hCurrent rfl
    have hApply : Write.apply (.update (resizePV ans.requestSize vol)) (some vol) =
        some (resizePV ans.requestSize vol) := finalize_live h.live
    rw [show (expansion svc).apply = Write.apply from rfl, hApply]
    refine ⟨⟨_, rfl, h.resize hWelcome⟩, fun _ _ _ => ⟨_, rfl, ?_⟩⟩
    rw [resizePV_label]
    exact Option.some_ne_none _

/-- In a run whose sizes are aligned and increase, and in which every extension
starts from the recorded size, the label is gone only when the logical volume
has the size of the volume. -/
theorem always_expandedOnce (hMode : svc.mode = .kernelLVM) (hExtent : svc.extendSize = fourMiB)
    (hLive : vol.deletionTimestamp = none) (hAligned : fourMiB ∣ vol.spec.sizeByte)
    (hSmall : vol.spec.sizeByte < 2 ^ 63) (hLabel : vol.label expansionOriginalSize = none)
    (hLv : disk.lv = some vol.spec.sizeByte) {events : List (Event Process ResizeAnswers)}
    (hGuarded : Runs.Guarded (expansion svc).protocol.step (onceGuards.Met (expansion svc))
      (System.init (some vol) disk) events) :
    Runs.Always (expansion svc).protocol.step (fun t => ExpandedOnce t.object.value t.world)
      (System.init (some vol) disk) events := by
  have hInit : onceSpec.inv (some vol) disk := by
    refine ⟨vol, rfl, hLive, hAligned, hSmall, ⟨_, hLv⟩, fun _ => hLv, fun text hText => ?_⟩
    cases hLabel.symm.trans hText
  refine ((onceSpec_valid hMode hExtent).always hInit hGuarded).mono fun t hInv => ?_
  rintro current hCurrent hNone
  obtain ⟨_, hObject, h⟩ := hInv
  cases hObject.symm.trans hCurrent
  exact h.settled hNone

def eightMiBVolume : AntstorVolume where
  name := "vol"
  finalizers := [inStateFinalizer, logicVolumeFinalizer]
  spec := { uuid := "u", type := .kernelLVol, sizeByte := 2 * fourMiB, targetNodeId := "node-a",
            hostNode := some { id := "node-a" }, kernelLvol := some { name := "vol" } }
  status := { status := .ready }

def resizeTo (requestSize : ℕ) : List (Event Process ResizeAnswers) :=
  [.read (.writer 0), .act (.writer 0) { requestSize := requestSize }, .write (.writer 0)]

def extendOnce : List (Event Process ResizeAnswers) := [.read .worker, .act .worker {}, .act .worker {}]

def finishExpansion : List (Event Process ResizeAnswers) := [.act .worker {}, .write .worker]

def plainExpansion : List (Event Process ResizeAnswers) :=
  resizeTo (3 * fourMiB) ++ extendOnce ++ finishExpansion

theorem plainExpansion_expandedOnce :
    Runs.Guarded (expansion {}).protocol.step (onceGuards.Met (expansion {}))
      (System.init (some eightMiBVolume) { lv := some (2 * fourMiB) }) plainExpansion ∧
    Runs.Always (expansion {}).protocol.step (fun t => ExpandedOnce t.object.value t.world)
      (System.init (some eightMiBVolume) { lv := some (2 * fourMiB) }) plainExpansion := by
  have hGuarded : Runs.Guarded (expansion {}).protocol.step (onceGuards.Met (expansion {}))
      (System.init (some eightMiBVolume) { lv := some (2 * fourMiB) }) plainExpansion := by
    decide
  exact ⟨hGuarded, always_expandedOnce rfl rfl rfl (by decide) (by decide) (by decide) rfl hGuarded⟩

/-- The pass fails between the extension and its update, and is repeated. -/
def repeatedExpansion : List (Event Process ResizeAnswers) :=
  resizeTo (3 * fourMiB) ++ extendOnce ++ [.fail .worker] ++ extendOnce ++ finishExpansion

theorem repeatedExpansion_not_expandedOnce :
    let t := Runs.run (expansion {}).protocol.step
      (System.init (some eightMiBVolume) { lv := some (2 * fourMiB) }) repeatedExpansion
    ¬ ExpandedOnce t.object.value t.world ∧ t.world.lv = some (4 * fourMiB) := by
  decide

end Liteio.VolumeSyncer
