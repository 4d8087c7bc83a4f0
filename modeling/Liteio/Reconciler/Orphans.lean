import Liteio.Agent.Passes
import Liteio.Reconciler.Volume

/-! # No orphaned storage

The agent makes a logical volume or a target before it records the finalizer
that protects it, and the controller lets the object go once only its own
finalizer is left. While the object is being deleted, everything on the disk has
to be covered: by a finalizer, and a target also by its name in the object. This
is kept by all passes that delete, and it is there from the start if the user
deletes only a covered volume and nothing uncovered is made afterwards.
-/

namespace Liteio.VolumeReconciler

open Worker VolumeSyncer Optimistic

inductive Actor where
  | user (now : ℕ)
  | controller (scheduled : Scheduled) (state : State)

structure LifeAnswers extends VolumeSyncer.Answers where
  actor : Actor := .user 0

def lifeWriter (actor : Actor) (vol : AntstorVolume) : Option Write :=
  match actor with
  | .user now => some (.delete now)
  | .controller scheduled state =>
    (reconcile { pool := .found {}, scheduled := scheduled } state vol).write

def life (svc : PoolService) : Model (Option AntstorVolume) Disk LifeAnswers Call Reply Write :=
  model svc LifeAnswers.toAnswers fun ans obj => obj.bind (lifeWriter ans.actor)

def NoOrphan (obj : Option AntstorVolume) (disk : Disk) : Prop :=
  obj = none → disk.lv = none ∧ disk.targets = []

instance (obj : Option AntstorVolume) (disk : Disk) : Decidable (NoOrphan obj disk) :=
  inferInstanceAs (Decidable (_ → _ ∧ _))

def CoversTarget (vol : AntstorVolume) (nqn : String) : Prop :=
  vol.spec.spdkTarget.map SpdkTarget.subsysNQN = some nqn ∧
    (spdkTargetFinalizer ∈ vol.finalizers ∨ hasLogicVolFinalizer vol = true)

instance (vol : AntstorVolume) (nqn : String) : Decidable (CoversTarget vol nqn) :=
  inferInstanceAs (Decidable (_ ∧ _))

structure Covered (vol : AntstorVolume) (disk : Disk) : Prop where
  lv : disk.lv ≠ none → hasLogicVolFinalizer vol = true
  targets : ∀ nqn ∈ disk.targets, nqn ≠ "" ∧ CoversTarget vol nqn

instance (vol : AntstorVolume) (disk : Disk) : Decidable (Covered vol disk) :=
  decidable_of_iff ((disk.lv ≠ none → hasLogicVolFinalizer vol = true) ∧
    ∀ nqn ∈ disk.targets, nqn ≠ "" ∧ CoversTarget vol nqn) ⟨fun h => ⟨h.1, h.2⟩, fun h => ⟨h.lv, h.targets⟩⟩

/-- What is made for a volume that is being deleted is covered already; the user
deletes a covered volume; and no patch takes a finalizer from a volume that is
being deleted. -/
def lifeGuards : Guards Call Write (Option AntstorVolume) Disk where
  permitted
    | .createVolume .., obj, _ | .createLvolClone .., obj, _ =>
      ∃ vol ∈ obj, vol.deletionTimestamp = none ∨ hasLogicVolFinalizer vol = true
    | .exposeAccess access, obj, _ =>
      ∃ vol ∈ obj, vol.deletionTimestamp = none ∨ CoversTarget vol access.openAccess.nqn
    | _, _, _ => True
  welcome
    | .delete _, obj, disk => ∀ vol ∈ obj, Covered vol disk
    | .patch _ (some finalizers) _, obj, _ =>
      ∀ vol ∈ obj, vol.deletionTimestamp = none ∨ ∀ item ∈ vol.finalizers, item ∈ finalizers
    | _, _, _ => True

instance (c : Call) (obj : Option AntstorVolume) (disk : Disk) : Decidable (lifeGuards.permitted c obj disk) :=
  match c with
  | .createVolume .. | .createLvolClone .. => inferInstanceAs (Decidable (∃ vol ∈ obj,
      vol.deletionTimestamp = none ∨ hasLogicVolFinalizer vol = true))
  | .exposeAccess access => inferInstanceAs (Decidable (∃ vol ∈ obj,
      vol.deletionTimestamp = none ∨ CoversTarget vol access.openAccess.nqn))
  | .expandVolume .. | .resizeAioBdev .. | .getVolume _ | .deleteVolume _ | .inflateLvol .. | .removeAccess _
  | .getStoragePool _ | .getSnapshot .. | .listSnapshots .. => isTrue trivial

instance (w : Write) (obj : Option AntstorVolume) (disk : Disk) : Decidable (lifeGuards.welcome w obj disk) :=
  match w with
  | .update _ | .updateStatus _ | .patch _ none _ => isTrue trivial
  | .patch _ (some finalizers) _ => inferInstanceAs (Decidable (∀ vol ∈ obj,
      vol.deletionTimestamp = none ∨ ∀ item ∈ vol.finalizers, item ∈ finalizers))
  | .delete _ => inferInstanceAs (Decidable (∀ vol ∈ obj, Covered vol disk))

def lifeSpec : Spec Call Write (Option AntstorVolume) Disk where
  toGuards := lifeGuards
  inv obj disk := NoOrphan obj disk ∧ ∀ vol ∈ obj, vol.deletionTimestamp ≠ none → Covered vol disk
  rel _ _ := True
  callable _ _ _ _ := True

variable {svc : PoolService} {vol : AntstorVolume} {disk disk' : Disk} {written : Bool}

theorem inv_finalize (h : vol.deletionTimestamp ≠ none → Covered vol disk) :
    lifeSpec.inv (finalize vol) disk := by
  rw [finalize]
  split
  · rename_i hGone
    have hCovered := h (Option.isSome_iff_ne_none.mp hGone.1)
    have hEmpty : hasLogicVolFinalizer vol = false := by
      simp [hasLogicVolFinalizer, hGone.2]
    refine ⟨fun _ => ⟨?_, List.eq_nil_iff_forall_not_mem.mpr fun nqn hMem => ?_⟩, fun _ hVol => by cases hVol⟩
    · by_contra hLv
      simp [hCovered.lv hLv] at hEmpty
    · rcases (hCovered.targets nqn hMem).2.2 with hFinalizer | hLogic
      · rw [hGone.2] at hFinalizer
        cases hFinalizer
      · simp [hLogic] at hEmpty
  · refine ⟨fun hNone => absurd hNone (Option.some_ne_none _), ?_⟩
    rintro _ ⟨⟩ hDeleted
    exact h hDeleted

theorem inv_live (hLive : vol.deletionTimestamp = none) : lifeSpec.inv (finalize vol) disk :=
  inv_finalize fun hDeleted => absurd hLive hDeleted

def MakesLv : Call → Prop
  | .createVolume .. | .createLvolClone .. => True
  | _ => False

def MakesTarget (nqn : String) : Call → Prop
  | .exposeAccess access => access.openAccess.nqn = nqn
  | _ => False

structure Adds (c : Call) (disk disk' : Disk) : Prop where
  lv : disk'.lv ≠ none → disk.lv ≠ none ∨ MakesLv c
  targets : ∀ nqn ∈ disk'.targets, nqn ∈ disk.targets ∨ (nqn ≠ "" ∧ MakesTarget nqn c)

theorem Adds.refl (c : Call) (disk : Disk) : Adds c disk disk := ⟨.inl, fun _ => .inl⟩

theorem Adds.effect {c : Call} (ans : VolumeSyncer.Answers) (h : Adds c disk disk') :
    Adds c disk (ans.effect disk disk') := by
  unfold Answers.effect
  split
  · exact .refl c disk
  · exact h

theorem perform_adds (svc : PoolService) (c : Call) (ans : VolumeSyncer.Answers) (disk : Disk) :
    Adds c disk (perform svc c ans disk).2 := by
  cases c with
  | expandVolume volName targetSize originSize =>
    simp only [perform]
    split
    · rename_i lv hLv
      split
      · exact .effect ans ⟨fun _ => .inl (by simp [hLv]), fun _ => .inl⟩
      · exact .refl _ disk
    · exact .refl _ disk
  | createVolume volName sizeByte fsType lvLayout =>
    simp only [perform]
    split
    · exact .refl _ disk
    · split
      · exact .effect ans ⟨fun _ => .inr trivial, fun _ => .inl⟩
      · exact .refl _ disk
  | deleteVolume volName => exact .effect ans ⟨fun hLv => absurd rfl hLv, fun _ => .inl⟩
  | createLvolClone lvStore snapName cloneName => exact .effect ans ⟨fun _ => .inr trivial, fun _ => .inl⟩
  | exposeAccess access =>
    simp only [perform]
    split
    · exact .refl _ disk
    · rename_i hNonempty
      refine .effect ans ⟨.inl, fun nqn hMem => ?_⟩
      rcases List.mem_insert_iff.mp hMem with rfl | hMem
      · exact .inr ⟨hNonempty, rfl⟩
      · exact .inl hMem
  | removeAccess access => exact .effect ans ⟨.inl, fun _ hMem => .inl (List.mem_of_mem_filter hMem)⟩
  | _ => exact .refl _ disk

theorem Covered.add {c : Call} (h : Covered vol disk) (hAdds : Adds c disk disk')
    (hLv : MakesLv c → hasLogicVolFinalizer vol = true) (hTarget : ∀ nqn, MakesTarget nqn c → CoversTarget vol nqn) :
    Covered vol disk' :=
  ⟨fun hSome => (hAdds.lv hSome).elim h.lv hLv, fun nqn hMem =>
    (hAdds.targets nqn hMem).elim (h.targets nqn) fun hMade => ⟨hMade.1, hTarget nqn hMade.2⟩⟩

theorem permitted_lv {c : Call} {obj : Option AntstorVolume} (h : lifeGuards.permitted c obj disk) (hMakes : MakesLv c) :
    ∃ vol ∈ obj, vol.deletionTimestamp = none ∨ hasLogicVolFinalizer vol = true := by
  cases c with
  | createVolume | createLvolClone => exact h
  | _ => exact hMakes.elim

theorem permitted_target {c : Call} {obj : Option AntstorVolume} {nqn : String}
    (h : lifeGuards.permitted c obj disk) (hMakes : MakesTarget nqn c) :
    ∃ vol ∈ obj, vol.deletionTimestamp = none ∨ CoversTarget vol nqn := by
  cases c with
  | exposeAccess access => exact hMakes ▸ h
  | _ => exact hMakes.elim

theorem inv_call (svc : PoolService) {c : Call} {obj : Option AntstorVolume} (ans : VolumeSyncer.Answers)
    (h : lifeSpec.inv obj disk) (hPermitted : lifeGuards.permitted c obj disk) :
    lifeSpec.inv obj (perform svc c ans disk).2 := by
  have hAdds := perform_adds svc c ans disk
  cases obj with
  | none =>
    obtain ⟨hLv, hTargets⟩ := h.1 rfl
    refine ⟨fun _ => ⟨?_, List.eq_nil_iff_forall_not_mem.mpr fun nqn hMem => ?_⟩, fun _ hVol => by cases hVol⟩
    · by_contra hSome
      obtain ⟨_, hVol, _⟩ := permitted_lv hPermitted ((hAdds.lv hSome).resolve_left (not_not.mpr hLv))
      cases hVol
    · rcases hAdds.targets nqn hMem with hOld | hMade
      · rw [hTargets] at hOld
        cases hOld
      · obtain ⟨_, hVol, _⟩ := permitted_target hPermitted hMade.2
        cases hVol
  | some vol =>
    refine ⟨fun hNone => absurd hNone (Option.some_ne_none _), ?_⟩
    rintro _ ⟨⟩ hDeleted
    refine (h.2 vol rfl hDeleted).add hAdds (fun hMakes => ?_) fun nqn hMakes => ?_
    · obtain ⟨_, ⟨⟩, hLive | hLogic⟩ := permitted_lv hPermitted hMakes
      · exact absurd hLive hDeleted
      · exact hLogic
    · obtain ⟨_, ⟨⟩, hLive | hCovers⟩ := permitted_target hPermitted hMakes
      · exact absurd hLive hDeleted
      · exact hCovers

theorem hasLogicVolFinalizer_filter :
    hasLogicVolFinalizer { vol with finalizers := vol.finalizers.filter fun item => item ≠ spdkTargetFinalizer } =
      hasLogicVolFinalizer vol := by
  have hKernel : kernelLVolFinalizer ≠ spdkTargetFinalizer := by decide
  have hSpdk : spdkLvolFinalizer ≠ spdkTargetFinalizer := by decide
  have hLogic : logicVolumeFinalizer ≠ spdkTargetFinalizer := by decide
  simp [hasLogicVolFinalizer, hKernel, hSpdk, hLogic]

theorem Covered.removeAccess_targets (svc : PoolService) {tgt : SpdkTarget} {access : Access} {ans : VolumeSyncer.Answers}
    (h : Covered vol disk) (hTarget : vol.spec.spdkTarget = some tgt) (hNQN : access.openAccess.nqn = tgt.subsysNQN)
    (hOk : (perform svc (.removeAccess access) ans disk).1 = true) :
    (perform svc (.removeAccess access) ans disk).2.targets = [] := by
  simp only [perform] at hOk ⊢
  rw [Answers.effect_of_succeeds hOk]
  refine List.filter_eq_nil_iff.mpr fun nqn hMem => ?_
  obtain ⟨hNonempty, hSame, _⟩ := h.targets nqn hMem
  rw [hTarget, Option.map_some, Option.some_inj] at hSame
  simp [hNQN, hSame, hNonempty]

theorem removeTarget_meets (h : Covered vol disk) :
    lifeSpec.Meets (life svc) (some vol) (fun _ _ disk => Covered vol disk ∧ disk.targets = [])
      (removeTarget vol) written disk := by
  unfold removeTarget
  split
  · rename_i tgt hTarget
    have hRemove : lifeSpec.Meets (life svc) (some vol) (fun _ _ disk => Covered vol disk ∧ disk.targets = [])
        (Prog.attempt (.removeAccess
          { aio := some { bdevName := tgt.bdevName }
            openAccess := { transAddr := tgt.address, transType := tgt.transType, nqn := tgt.subsysNQN } }) id)
        written disk := by
      refine Spec.meets_attempt trivial fun obj _ ans hOk => ?_
      exact ⟨h.add (perform_adds svc _ _ disk) False.elim fun _ => False.elim, h.removeAccess_targets svc hTarget rfl hOk⟩
    refine hRemove.bind fun _ written disk hMid => ?_
    split
    · refine ⟨rfl, inv_finalize fun _ => ⟨fun hLv => ?_, fun nqn hMem => ?_⟩, trivial⟩
      · exact hasLogicVolFinalizer_filter.trans (hMid.1.lv hLv)
      · rw [hMid.2] at hMem
        cases hMem
    · exact hMid
  · rename_i hTarget
    split
    · trivial
    · refine ⟨h, List.eq_nil_iff_forall_not_mem.mpr fun nqn hMem => ?_⟩
      have hSame := (h.targets nqn hMem).2.1
      rw [hTarget] at hSame
      cases hSame

def Passive : Call → Prop
  | .inflateLvol .. | .listSnapshots .. => True
  | _ => False

theorem inflateLvol_all (needed : Bool) :
    (inflateLvol svc vol needed).All Passive (fun _ => False) fun _ => True := by
  unfold inflateLvol
  split
  · exact Prog.all_attempt trivial
  · trivial

theorem detachSnapshots_all : (detachSnapshots svc vol).All Passive (fun _ => False) fun _ => True := by
  unfold detachSnapshots
  split
  · exact (inflateLvol_all _).bind fun _ _ => (Prog.all_fetch trivial).bind fun _ _ => inflateLvol_all _
  · trivial

theorem deleteLogicVolume_meets (h : disk.targets = []) :
    lifeSpec.Meets (life svc) (some vol) (fun _ _ _ => True) (deleteLogicVolume svc vol) written disk := by
  have hDetach : lifeSpec.Meets (life svc) (some vol) (fun _ _ disk => True ∧ disk.targets = [])
      (detachSnapshots svc vol) written disk := by
    refine Spec.meets_of_all (fun disk : Disk => disk.targets = []) detachSnapshots_all h ?_ fun w hw => hw.elim
    intro c hCall written disk h
    refine ⟨trivial, fun ans => ?_⟩
    cases c <;> first | exact h | exact hCall.elim
  refine hDetach.bind fun _ written disk hMid => ?_
  have hDelete : lifeSpec.Meets (life svc) (some vol) (fun _ _ disk => disk.lv = none ∧ disk.targets = [])
      (Prog.attempt (.deleteVolume vol.name) id) written disk := by
    refine Spec.meets_attempt trivial fun obj _ ans hOk => ?_
    change (ans.toAnswers.effect disk { disk with lv := none }).lv = none ∧
      (ans.toAnswers.effect disk { disk with lv := none }).targets = []
    rw [Answers.effect_of_succeeds hOk]
    exact ⟨rfl, hMid.2⟩
  refine hDelete.bind fun _ written disk hGone => ⟨rfl, inv_finalize fun _ => ?_, trivial⟩
  exact ⟨fun hLv => absurd hGone.1 hLv, fun nqn hMem => by rw [hGone.2] at hMem; cases hMem⟩

theorem handleDeletion_meets (h : Covered vol disk) :
    lifeSpec.Meets (life svc) (some vol) (fun _ _ _ => True) (VolumeSyncer.handleDeletion svc vol) written disk := by
  refine (removeTarget_meets h).bind fun _ written disk hMid => ?_
  split
  · exact deleteLogicVolume_meets hMid.2
  · trivial

theorem syncOneVolume_meets_live (hLive : vol.deletionTimestamp = none) :
    lifeSpec.Meets (life svc) (some vol) (fun _ _ _ => True) (syncOneVolume svc vol) written disk := by
  refine (Spec.meets_of_all (fun _ => True) (syncOneVolume_carries svc hLive) trivial (fun _ _ _ _ _ => ⟨trivial, fun _ => trivial⟩)
    ?_).mono fun _ _ _ _ => trivial
  rintro _ (⟨new, rfl, -⟩ | ⟨new, rfl⟩) disk -
  · exact ⟨rfl, inv_live hLive⟩
  · exact ⟨rfl, inv_live hLive⟩

inductive ControllerWrite (vol : AntstorVolume) : Write → Prop where
  | release (hDeleted : vol.deletionTimestamp ≠ none) (h : vol.finalizers = [inStateFinalizer]) :
      ControllerWrite vol (.update { vol with finalizers := [] })
  | update (new : AntstorVolume) (hLive : vol.deletionTimestamp = none) : ControllerWrite vol (.update new)
  | updateStatus (new : AntstorVolume) (hLive : vol.deletionTimestamp = none) : ControllerWrite vol (.updateStatus new)
  | patch (labels : List (String × String)) (finalizers : Option (List String)) (targetNodeId : Option String) :
      ControllerWrite vol (.patch labels finalizers targetNodeId)

section controller

variable {scheduled : Scheduled} {state : State} {pool : StoragePool} {w : Write}

theorem handleDeletion_write (hDeleted : vol.deletionTimestamp ≠ none)
    (h : (handleDeletion { pool := .found pool, scheduled := scheduled } state vol).write = some w) :
    ControllerWrite vol w := by
  unfold handleDeletion at h
  split at h
  · rename_i hFinalizers
    cases h
    exact .release hDeleted hFinalizers
  · dsimp only [VolumeReconciler.Answers.targetPool] at h
    rw [if_neg (by simp)] at h
    cases h

theorem schedule_write (hLive : vol.deletionTimestamp = none) (h : (schedule scheduled state vol).write = some w) :
    ControllerWrite vol w := by
  unfold schedule at h
  split at h
  · cases h
  · split at h
    · cases h
    · cases h
      exact .updateStatus _ hLive
  · split at h
    · cases h
    · cases h
      exact .patch _ _ _

theorem scheduleVolume_write (hLive : vol.deletionTimestamp = none)
    (h : (scheduleVolume scheduled state vol).write = some w) : ControllerWrite vol w := by
  unfold scheduleVolume at h
  split at h
  · split at h
    · cases h
      exact .update _ hLive
    · exact schedule_write hLive h
  · exact schedule_write hLive h

theorem handleReconcile_write {ans : Answers} (hLive : vol.deletionTimestamp = none)
    (h : (handleReconcile ans state vol).write = some w) : ControllerWrite vol w := by
  by_cases hTarget : vol.spec.targetNodeId = ""
  · unfold handleReconcile at h
    split at h
    · cases h
    · split at h
      · exact scheduleVolume_write hLive h
      · split at h
        · rename_i hError
          dsimp only at h
          rw [h] at hError
          rcases validate_error hError with hNone | ⟨new, hNew⟩ | hPatch
          · cases hNone
          · cases hNew
            exact .updateStatus _ hLive
          · cases hPatch
            exact .patch _ _ _
        · rw [if_neg (not_not.mpr hTarget)] at h
          exact scheduleVolume_write hLive h
  · rcases (handleReconcile_binds ans state hTarget).write h with ⟨new, rfl⟩ | ⟨labels, finalizers, rfl, _⟩
    · exact .updateStatus _ hLive
    · exact .patch _ _ _

theorem lifeWriter_controller (h : lifeWriter (.controller scheduled state) vol = some w) : ControllerWrite vol w := by
  change (reconcile _ state vol).write = some w at h
  unfold reconcile at h
  split at h
  · rename_i hDeleted
    exact handleDeletion_write (Option.isSome_iff_ne_none.mp hDeleted) h
  · rename_i hLive
    exact handleReconcile_write (by simpa using hLive) h

end controller

theorem Covered.congr {other : AntstorVolume} (h : Covered vol disk) (hTarget : other.spec.spdkTarget = vol.spec.spdkTarget)
    (hFinalizers : ∀ item ∈ vol.finalizers, item ∈ other.finalizers) : Covered other disk := by
  have hLogic : hasLogicVolFinalizer vol = true → hasLogicVolFinalizer other = true := by
    simp only [hasLogicVolFinalizer, Bool.or_eq_true, decide_eq_true_eq]
    rintro ((h | h) | h)
    · exact .inl (.inl (hFinalizers _ h))
    · exact .inl (.inr (hFinalizers _ h))
    · exact .inr (hFinalizers _ h)
  refine ⟨fun hLv => hLogic (h.lv hLv), fun nqn hMem => ?_⟩
  obtain ⟨hNonempty, hSame, hHeld⟩ := h.targets nqn hMem
  exact ⟨hNonempty, hTarget ▸ hSame, hHeld.imp (hFinalizers _) hLogic⟩

/-- The controller lets go of a volume only when nothing of the agent's is left. -/
theorem Covered.released (h : Covered vol disk) (hFinalizers : vol.finalizers = [inStateFinalizer]) (other : AntstorVolume) :
    Covered other disk := by
  have hLogic : hasLogicVolFinalizer vol = false := by
    rw [hasLogicVolFinalizer, hFinalizers]
    decide
  refine ⟨fun hLv => ?_, fun nqn hMem => ?_⟩
  · cases hLogic.symm.trans (h.lv hLv)
  · rcases (h.targets nqn hMem).2.2 with hTarget | hHeld
    · rw [hFinalizers] at hTarget
      exact absurd hTarget (by decide)
    · cases hLogic.symm.trans hHeld

theorem inv_write {w : Write} {copy : AntstorVolume} (hw : ControllerWrite copy w)
    (hCurrent : w.guarded = true → copy = vol) (h : lifeSpec.inv (some vol) disk)
    (hWelcome : lifeGuards.welcome w (some vol) disk) : lifeSpec.inv (w.apply (some vol)) disk := by
  apply inv_finalize
  intro hDeleted
  cases hw with
  | release hCopy hFinalizers =>
    cases hCurrent rfl
    exact (h.2 _ rfl hDeleted).released hFinalizers _
  | update new hLive =>
    cases hCurrent rfl
    exact absurd hLive hDeleted
  | updateStatus new hLive =>
    cases hCurrent rfl
    exact absurd hLive hDeleted
  | patch labels finalizers targetNodeId =>
    refine (h.2 vol rfl hDeleted).congr rfl fun item hItem => ?_
    cases finalizers with
    | none => exact hItem
    | some new => exact (hWelcome vol rfl).resolve_left hDeleted item hItem

theorem lifeSpec_valid (svc : PoolService) : lifeSpec.Valid (life svc) where
  refl _ := trivial
  program := by
    intro copy disk h
    cases copy with
    | none => trivial
    | some vol =>
      by_cases hLive : vol.deletionTimestamp = none
      · exact syncOneVolume_meets_live hLive
      · change lifeSpec.Meets (life svc) (some vol) _ (syncOneVolume svc vol) false disk
        rw [syncOneVolume]
        split
        · trivial
        · rw [if_pos (Option.isSome_iff_ne_none.mpr hLive)]
          exact handleDeletion_meets (h.2 vol rfl hLive)
  call copy c written ans obj disk h _ _ hPermitted := inv_call svc _ h hPermitted
  writer := by
    intro ans copy w obj disk hWriter hCurrent h hWelcome
    refine ⟨?_, fun _ _ => trivial⟩
    obtain ⟨read, rfl, hSent⟩ := Option.bind_eq_some_iff.mp hWriter
    cases obj with
    | none => exact h
    | some vol =>
      have hSame : w.guarded = true → read = vol := fun hGuarded => Option.some.inj (hCurrent hGuarded)
      cases hActor : ans.actor with
      | user now =>
        rw [hActor] at hSent
        cases hSent
        exact inv_finalize fun _ => (hWelcome vol rfl).congr rfl fun _ => id
      | controller scheduled state =>
        rw [hActor] at hSent
        exact inv_write (lifeWriter_controller hSent) hSame h hWelcome

/-- In every run in which the user deletes the volume only when it is covered, no
call makes anything uncovered for a volume that is being deleted or gone, and no
patch takes finalizers from it, the node is clean when the object is gone. -/
theorem always_noOrphan (hLive : vol.deletionTimestamp = none) {events : List (Event Process LifeAnswers)}
    (hGuarded : Runs.Guarded (life svc).protocol.step (lifeGuards.Met (life svc)) (System.init (some vol) disk) events) :
    Runs.Always (life svc).protocol.step (fun t => NoOrphan t.object.value t.world)
      (System.init (some vol) disk) events := by
  have hInit : lifeSpec.inv (some vol) disk := by
    refine ⟨fun hNone => absurd hNone (Option.some_ne_none _), ?_⟩
    rintro _ ⟨⟩ hDeleted
    exact absurd hLive hDeleted
  exact ((lifeSpec_valid svc).always hInit hGuarded).mono fun t h => h.1

def boundVolume : AntstorVolume where
  name := "vol"
  labels := some (Finmap.singleton uuidLabelKey "u")
  finalizers := [inStateFinalizer]
  spec := { uuid := "u", type := .kernelLVol, sizeByte := fourMiB, targetNodeId := "node-a",
            hostNode := some { id := "node-a" } }
  status := { status := .creating }

def makeLv : List (Event Process LifeAnswers) :=
  [.read .worker, .act .worker {}, .act .worker { hasLinearLV := true }]

def recordLv : List (Event Process LifeAnswers) := [.act .worker {}, .write .worker, .act .worker {}]

def userDeletes : List (Event Process LifeAnswers) :=
  [.read (.writer 0), .act (.writer 0) { actor := .user 1 }, .write (.writer 0)]

def removeLv : List (Event Process LifeAnswers) :=
  [.read .worker, .act .worker {}, .act .worker {}, .act .worker {}, .write .worker, .act .worker {}]

def controllerReleases : List (Event Process LifeAnswers) :=
  [.read (.writer 0), .act (.writer 0) { actor := .controller (.error "") State.newState }, .write (.writer 0)]

/-- The volume is deleted once its finalizer is recorded. -/
def coveredDeletion : List (Event Process LifeAnswers) :=
  makeLv ++ recordLv ++ userDeletes ++ removeLv ++ controllerReleases

theorem coveredDeletion_noOrphan :
    (Runs.run (life {}).protocol.step (System.init (some boundVolume) {}) coveredDeletion).object.value = none ∧
      Runs.Always (life {}).protocol.step (fun t => NoOrphan t.object.value t.world)
        (System.init (some boundVolume) {}) coveredDeletion := by
  have hGuarded : Runs.Guarded (life {}).protocol.step (lifeGuards.Met (life {}))
      (System.init (some boundVolume) {}) coveredDeletion := by
    decide
  exact ⟨by decide, always_noOrphan rfl hGuarded⟩

/-- The volume is deleted between the making of the logical volume and the
update that records its finalizer. -/
theorem uncoveredDeletion_orphan :
    let t := Runs.run (life {}).protocol.step (System.init (some boundVolume) {})
      (makeLv ++ userDeletes ++ controllerReleases ++ recordLv)
    ¬ NoOrphan t.object.value t.world ∧ t.world.lv = some fourMiB := by
  decide

end Liteio.VolumeReconciler
