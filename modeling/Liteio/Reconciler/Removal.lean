import Liteio.Reconciler.Converges

/-! # A deleted volume goes

What holds a volume are the finalizer of the controller and, once it is there,
those of the agent. Rounds that nothing disturbs take them one after another: the
agent removes the target, then the logical volume, and the controller lets go of
the volume when only its own finalizer is left. So a volume that is being deleted
is gone after three of them, and its node is clean.
-/

namespace Liteio.VolumeReconciler

open Worker VolumeSyncer Optimistic

variable {svc : PoolService} {vol other base : AntstorVolume} {disk : Disk}

structure Held (vol : AntstorVolume) : Prop where
  nodup : vol.finalizers.Nodup
  known : ∀ item ∈ vol.finalizers, item = inStateFinalizer ∨ item = spdkTargetFinalizer ∨
    item ∈ [kernelLVolFinalizer, spdkLvolFinalizer, logicVolumeFinalizer]
  start : vol.finalizers ≠ [] → inStateFinalizer ∈ vol.finalizers
  target : spdkTargetFinalizer ∈ vol.finalizers → vol.spec.spdkTarget ≠ none

def Remains (vol : AntstorVolume) : Prop := vol.deletionTimestamp ≠ none → vol.finalizers ≠ []

/-- The controller adds its finalizer to those the volume has. -/
def holdingGuards : Guards Call Write (Option AntstorVolume) Disk where
  permitted _ _ _ := True
  welcome
    | .patch _ finalizers _, obj, _ => ∀ vol ∈ obj, ∀ new ∈ finalizers, new = vol.finalizers ++ [inStateFinalizer]
    | _, _, _ => True

instance (c : Call) (obj : Option AntstorVolume) (disk : Disk) : Decidable (holdingGuards.permitted c obj disk) :=
  isTrue trivial

instance (w : Write) (obj : Option AntstorVolume) (disk : Disk) : Decidable (holdingGuards.welcome w obj disk) :=
  match w with
  | .update _ | .updateStatus _ | .delete _ => isTrue trivial
  | .patch _ finalizers _ =>
    inferInstanceAs (Decidable (∀ vol ∈ obj, ∀ new ∈ finalizers, new = vol.finalizers ++ [inStateFinalizer]))

def holding : Spec Call Write (Option AntstorVolume) Disk where
  toGuards := holdingGuards
  inv obj _ := ∀ vol ∈ obj, Held vol ∧ Remains vol
  rel _ _ := True
  callable _ _ _ _ := True

namespace Held

theorem congr (h : Held vol) (hFinalizers : other.finalizers = vol.finalizers)
    (hTarget : other.spec.spdkTarget = vol.spec.spdkTarget) : Held other where
  nodup := hFinalizers ▸ h.nodup
  known := hFinalizers ▸ h.known
  start := hFinalizers ▸ h.start
  target := hFinalizers ▸ hTarget ▸ h.target

theorem filter (h : Held vol) {keep : String → Bool} (hStart : keep inStateFinalizer = true)
    (hFinalizers : other.finalizers = vol.finalizers.filter keep)
    (hTarget : other.spec.spdkTarget = vol.spec.spdkTarget) : Held other where
  nodup := hFinalizers ▸ h.nodup.filter _
  known item hItem := h.known item (List.mem_of_mem_filter (hFinalizers ▸ hItem))
  start hSome := by
    rw [hFinalizers] at hSome ⊢
    refine List.mem_filter.mpr ⟨h.start fun hNil => hSome ?_, hStart⟩
    rw [hNil, List.filter_nil]
  target hItem := hTarget ▸ h.target (List.mem_of_mem_filter (hFinalizers ▸ hItem))

theorem add (h : Held vol) {item : String} (hNew : item ∉ vol.finalizers)
    (hKnown : item = inStateFinalizer ∨ item = spdkTargetFinalizer ∨
      item ∈ [kernelLVolFinalizer, spdkLvolFinalizer, logicVolumeFinalizer])
    (hStart : item = inStateFinalizer ∨ inStateFinalizer ∈ vol.finalizers)
    (hFinalizers : other.finalizers = vol.finalizers ++ [item])
    (hTarget : other.spec.spdkTarget = vol.spec.spdkTarget ∧ item ≠ spdkTargetFinalizer ∨
      other.spec.spdkTarget ≠ none) : Held other where
  nodup := by
    rw [hFinalizers, ← List.concat_eq_append]
    exact h.nodup.concat hNew
  known other hOther := by
    rw [hFinalizers, List.mem_append, List.mem_singleton] at hOther
    rcases hOther with hOld | rfl
    · exact h.known other hOld
    · exact hKnown
  start _ := by
    rw [hFinalizers, List.mem_append, List.mem_singleton]
    rcases hStart with rfl | hIn
    · exact .inr rfl
    · exact .inl hIn
  target hItem := by
    rcases hTarget with ⟨hSame, hOther⟩ | hSome
    · rw [hFinalizers, List.mem_append, List.mem_singleton] at hItem
      exact hSame ▸ h.target (hItem.resolve_right hOther.symm)
    · exact hSome

end Held

theorem inv_held {w : Write} (h : Held (w.applyTo vol)) (disk : Disk) : holding.inv (w.apply (some vol)) disk := by
  intro current hCurrent
  obtain ⟨hNot, rfl⟩ := applied_eq hCurrent
  exact ⟨h, fun hDeleted hNil => hNot ⟨Option.isSome_iff_ne_none.mpr hDeleted, hNil⟩⟩

/-! ## The passes -/

structure Started (vol : AntstorVolume) : Prop where
  held : Held vol
  start : inStateFinalizer ∈ vol.finalizers

theorem Started.congr (h : Started vol) (hFinalizers : other.finalizers = vol.finalizers)
    (hTarget : other.spec.spdkTarget = vol.spec.spdkTarget) : Started other :=
  ⟨h.held.congr hFinalizers hTarget, hFinalizers ▸ h.start⟩

abbrev Holds {β : Type} (post : β → Prop) (p : Pass β) : Prop := p.All (fun _ => True) (Carries Held) post

theorem expandVolume_holds (h : Started vol) : Holds Started (expandVolume vol) := by
  unfold expandVolume
  split
  · exact h
  · dsimp only
    split
    · refine (Prog.all_attempt trivial).bind fun _ _ => ?_
      refine ((resizeAioBdev_all _ _).mono (fun _ _ => trivial) (fun _ hw => hw) fun _ hPost => hPost).bind fun _ _ => ?_
      exact ⟨.inl ⟨_, rfl, h.held.congr rfl rfl⟩, h.congr rfl rfl⟩
    · trivial

theorem applyVolume_holds (h : Started vol) : Holds Started (applyVolume vol) := by
  have hSize : Holds Started (applyAllocatedSize vol) := by
    refine applyAllocatedSize_all.mono (fun _ _ => trivial) ?_ ?_
    · rintro _ ⟨sizeByte, rfl⟩
      exact .inl ⟨_, rfl, h.held.congr rfl rfl⟩
    · rintro _ (rfl | ⟨sizeByte, rfl⟩)
      · exact h
      · exact h.congr rfl rfl
  refine hSize.bind fun other hOther => ?_
  refine ((applyAllowHosts_harmless other).mono (fun _ _ => trivial) (fun _ hw => hw.elim) fun _ hPost => hPost).bind ?_
  exact fun _ _ => hOther

theorem createVolume_holds (h : Started vol) : Holds (fun other => other = vol) (createVolume svc vol) := by
  refine (createVolume_all svc vol).mono (fun _ _ => trivial) ?_ fun _ hPost => hPost.2
  rintro _ ⟨hLogic, _, ⟨kernelLvol, spdkLvol, rfl, -⟩, rfl⟩
  have hNew : logicVolumeFinalizer ∉ vol.finalizers := by
    simp only [hasLogicVolFinalizer, Bool.or_eq_false_iff, decide_eq_false_iff_not] at hLogic
    exact hLogic.2
  exact .inl ⟨_, rfl, h.held.add hNew (.inr (.inr (by decide))) (.inr h.start) rfl (.inl ⟨rfl, by decide⟩)⟩

theorem createOpenAccess_holds (h : Started vol) : Holds (fun other => other = vol) (createOpenAccess svc vol) := by
  refine (createOpenAccess_harmless svc vol).mono (fun _ _ => trivial) ?_ fun _ hPost => hPost
  rintro _ ⟨hNew, tgt, rfl⟩
  exact .inl ⟨_, rfl, h.held.add hNew (.inr (.inl rfl)) (.inr h.start) rfl (.inr (Option.some_ne_none tgt))⟩

theorem bringUp_holds (h : Started vol) : Holds (fun _ => True) (bringUp svc vol) := by
  unfold bringUp
  split
  · trivial
  split
  · exact ⟨.inl ⟨_, rfl, h.held.congr rfl rfl⟩, trivial⟩
  · refine (createVolume_holds h).bind ?_
    rintro _ rfl
    refine (createOpenAccess_holds h).bind ?_
    rintro _ rfl
    exact ⟨.inr ⟨_, rfl⟩, trivial⟩

def Removing : Call → Prop
  | .removeAccess _ | .deleteVolume _ | .inflateLvol .. | .listSnapshots .. => True
  | _ => False

theorem Removing.permitted {c : Call} (h : Removing c) (obj : Option AntstorVolume) (disk : Disk) :
    lifeGuards.permitted c obj disk := by
  cases c <;> first | exact h.elim | trivial

theorem removeTarget_removing (h : Held vol) : (removeTarget vol).All Removing (Carries Held) fun _ => True := by
  unfold removeTarget
  split
  · refine (Prog.all_attempt trivial).bind fun _ _ => ?_
    split
    · refine ⟨.inl ⟨_, rfl, h.filter ?_ rfl rfl⟩, trivial⟩
      decide
    · trivial
  · split <;> trivial

theorem handleDeletion_removing (h : Held vol) :
    (VolumeSyncer.handleDeletion svc vol).All Removing (Carries Held) fun _ => True := by
  refine (removeTarget_removing h).bind fun _ _ => ?_
  split
  · refine (detachSnapshots_all.mono ?_ (fun _ hw => hw.elim) fun _ hPost => hPost).bind fun _ _ => ?_
    · intro c hCall
      cases c <;> first | exact hCall.elim | trivial
    · refine (Prog.all_attempt trivial).bind fun _ _ => ⟨.inl ⟨_, rfl, h.filter ?_ rfl rfl⟩, trivial⟩
      decide
  · trivial

theorem syncOneVolume_holds (h : Held vol) : Holds (fun _ => True) (syncOneVolume svc vol) := by
  unfold syncOneVolume
  split
  · trivial
  next hStart =>
    have hStarted : Started vol := ⟨h, not_not.mp hStart⟩
    split
    · exact (handleDeletion_removing h).mono (fun _ _ => trivial) (fun _ hw => hw) fun _ hPost => hPost
    · refine (expandVolume_holds hStarted).bind fun _ hExpanded => ?_
      exact (applyVolume_holds hExpanded).bind fun _ hApplied => bringUp_holds hApplied

theorem held_written {actor : Actor} {copy : AntstorVolume} {w : Write} (h : Held vol)
    (hWriter : lifeWriter actor copy = some w) (hCurrent : w.guarded = true → copy = vol)
    (hWelcome : holdingGuards.welcome w (some vol) disk) : Held (w.applyTo vol) := by
  cases actor with
  | user now =>
    cases hWriter
    exact h.congr rfl rfl
  | controller scheduled state =>
    rcases controller_writes hWriter with ⟨-, rfl⟩ | hControls
    · refine ⟨List.nodup_nil, fun _ hItem => ?_, fun hSome => absurd rfl hSome, fun hItem => ?_⟩
      · cases hItem
      · cases hItem
    · cases hControls with
      | bound id =>
        cases hCurrent rfl
        exact h.congr rfl rfl
      | updateStatus new _ => exact h.congr rfl rfl
      | patch labels finalizers targetNodeId _ hNew =>
        cases finalizers with
        | none => exact h.congr rfl rfl
        | some new =>
          obtain ⟨hIn, hAdded⟩ := hNew new rfl
          have hSame := hWelcome vol rfl new rfl
          have hFinalizers : copy.finalizers = vol.finalizers := List.append_cancel_right (hAdded.symm.trans hSame)
          exact h.add (hFinalizers ▸ hIn) (.inl rfl) (.inl rfl) hSame (.inl ⟨rfl, by decide⟩)

theorem holding_valid (svc : PoolService) : holding.Valid (life svc) where
  refl _ := trivial
  program copy disk h := by
    cases copy with
    | none => trivial
    | some vol =>
      refine (Spec.meets_of_all (fun _ => True) (syncOneVolume_holds (h vol rfl).1) trivial
        (fun _ _ _ _ _ => ⟨trivial, fun _ => trivial⟩) ?_).mono fun _ _ _ _ => trivial
      rintro w hw disk -
      rcases hw with ⟨new, rfl, hNew⟩ | ⟨new, rfl⟩
      · exact ⟨rfl, inv_held (hNew.congr rfl rfl) disk⟩
      · exact ⟨rfl, inv_held ((h vol rfl).1.congr rfl rfl) disk⟩
  call _ _ _ _ _ _ h _ _ _ := h
  writer ans copy w obj disk hWriter hCurrent h hWelcome := by
    obtain ⟨read, rfl, hSent⟩ := Option.bind_eq_some_iff.mp hWriter
    refine ⟨?_, fun _ _ => trivial⟩
    cases obj with
    | none => exact fun _ hVol => by cases hVol
    | some vol =>
      have hSame : w.guarded = true → read = vol := fun hGuarded => Option.some.inj (hCurrent hGuarded)
      exact inv_held (held_written (h vol rfl).1 hSent hSame hWelcome) disk

/-! ## A pass of the agent -/

def owed (vol : AntstorVolume) : ℕ :=
  (if spdkTargetFinalizer ∈ vol.finalizers then 1 else 0) + (if hasLogicVolFinalizer vol then 1 else 0)

theorem Held.finalizers_eq (h : Held vol) (hSome : vol.finalizers ≠ []) (hOwed : owed vol = 0) :
    vol.finalizers = [inStateFinalizer] := by
  have hTarget : spdkTargetFinalizer ∉ vol.finalizers := fun hMem => by simp [owed, hMem] at hOwed
  have hLogic : ¬ hasLogicVolFinalizer vol = true := fun hMade => by simp [owed, hMade] at hOwed
  have hOnly : ∀ item ∈ vol.finalizers, item = inStateFinalizer := by
    intro item hItem
    rcases h.known item hItem with hSame | rfl | hMade
    · exact hSame
    · exact absurd hItem hTarget
    · exact absurd (hasLogicVolFinalizer_iff.mpr ⟨item, hItem, hMade⟩) hLogic
  have hCopies := List.eq_replicate_of_mem hOnly
  have hOne : vol.finalizers.length ≤ 1 := List.nodup_replicate.mp (hCopies ▸ h.nodup)
  have hLength : vol.finalizers.length = 1 := le_antisymm hOne (List.length_pos_of_ne_nil hSome)
  rw [hCopies, hLength]
  rfl

section

variable {ans : Call → LifeAnswers} (hAns : ∀ c, (ans c).fails = false)

include hAns in
theorem attempt_done {c : Call} {ok : Reply c → Bool}
    (hDone : ∀ ans : VolumeSyncer.Answers, ok (perform svc c ans disk).1 = !ans.fails) :
    (life svc).Completes ans (fun _ _ => True) (.attempt c ok) disk := by
  refine Model.completes_attempt ((hDone _).trans ?_) trivial
  rw [hAns]
  rfl

include hAns in
theorem inflateLvol_completes (vol : AntstorVolume) (needed : Bool) (disk : Disk) :
    (life svc).Completes ans (fun _ _ => True) (inflateLvol svc vol needed) disk := by
  unfold inflateLvol
  split
  · exact attempt_done hAns fun _ => rfl
  · trivial

include hAns in
theorem detachSnapshots_completes (vol : AntstorVolume) (disk : Disk) :
    (life svc).Completes ans (fun _ _ => True) (detachSnapshots svc vol) disk := by
  unfold detachSnapshots
  split
  · refine (inflateLvol_completes hAns vol _ disk).bind fun _ disk _ => ?_
    have hSnapshots : (perform svc (.listSnapshots vol.ns vol.name) (ans (.listSnapshots vol.ns vol.name)).toAnswers
        disk).1 = some (ans (.listSnapshots vol.ns vol.name)).snapList := by
      rw [perform, hAns]
      rfl
    have hList : (life svc).Completes ans (fun _ _ => True) (Prog.fetch (.listSnapshots vol.ns vol.name) id) disk :=
      Model.completes_fetch hSnapshots trivial
    exact hList.bind fun _ disk _ => inflateLvol_completes hAns vol _ disk
  · trivial

def Frees (vol : AntstorVolume) (w : Write) : Prop :=
  (w.applyTo vol).deletionTimestamp = vol.deletionTimestamp ∧ owed (w.applyTo vol) < owed vol

theorem frees_target (hTarget : spdkTargetFinalizer ∈ vol.finalizers) :
    Frees vol (.update { vol with finalizers := vol.finalizers.filter fun item => item ≠ spdkTargetFinalizer }) := by
  refine ⟨rfl, ?_⟩
  change owed { vol with finalizers := _ } < owed vol
  rw [owed, owed, hasLogicVolFinalizer_filter, if_pos hTarget, if_neg (by simp)]
  omega

theorem frees_logic (hTarget : spdkTargetFinalizer ∉ vol.finalizers) (hLogic : hasLogicVolFinalizer vol = true) :
    Frees vol (.update { vol with finalizers := vol.finalizers.filter fun item =>
      item ∉ [kernelLVolFinalizer, spdkLvolFinalizer, logicVolumeFinalizer] }) := by
  refine ⟨rfl, ?_⟩
  change owed { vol with finalizers := _ } < owed vol
  have hGone : ¬ hasLogicVolFinalizer { vol with finalizers := vol.finalizers.filter fun item =>
      item ∉ [kernelLVolFinalizer, spdkLvolFinalizer, logicVolumeFinalizer] } = true := by
    rw [hasLogicVolFinalizer_iff]
    rintro ⟨item, hItem, hMade⟩
    exact of_decide_eq_true (List.mem_filter.mp hItem).2 hMade
  rw [owed, owed, if_neg hGone, if_pos hLogic, if_neg hTarget, if_neg fun hMem => hTarget (List.mem_of_mem_filter hMem)]
  decide

include hAns in
theorem handleDeletion_sends (h : Held vol) (hOwed : owed vol ≠ 0) :
    (life svc).Sends ans (Frees vol) (VolumeSyncer.handleDeletion svc vol) disk := by
  by_cases hTarget : spdkTargetFinalizer ∈ vol.finalizers
  · obtain ⟨tgt, hTgt⟩ := Option.ne_none_iff_exists'.mp (h.target hTarget)
    refine Model.Sends.bind ?_ _
    rw [removeTarget, hTgt]
    refine (attempt_done hAns fun _ => rfl).sends fun _ disk _ => ?_
    rw [if_pos hTarget]
    exact frees_target hTarget
  · have hLogic : hasLogicVolFinalizer vol = true := by
      by_contra hNot
      exact hOwed (by simp [owed, hTarget, hNot])
    have hRemove : (life svc).Completes ans (fun _ _ => True) (removeTarget vol) disk := by
      unfold removeTarget
      split
      · refine (attempt_done hAns fun _ => rfl).bind fun _ disk _ => ?_
        rw [if_neg hTarget]
        trivial
      · rw [if_neg hTarget]
        trivial
    refine hRemove.sends fun _ disk _ => ?_
    rw [if_pos hLogic]
    refine (detachSnapshots_completes hAns vol disk).sends fun _ disk _ => ?_
    exact (attempt_done hAns fun _ => rfl).sends fun _ _ _ => frees_logic hTarget hLogic

end

/-! ## Rounds -/

/-- The deletion is young enough for the agent to be waited for, and no call of it
fails. -/
structure Removes (r : Round) : Prop where
  young : r.controller.minutesSinceDeletion < 20
  succeeds : ∀ c, (r.agent c).fails = false

structure Going (a : Account) : Prop where
  covered : lifeSpec.inv a.obj a.disk
  held : holding.inv a.obj a.disk
  deleted : ∀ vol ∈ a.obj, vol.deletionTimestamp ≠ none

def Account.owed (a : Account) : ℕ :=
  match a.obj with
  | some vol => VolumeReconciler.owed vol
  | none => 0

def Account.Gone (a : Account) : Prop := a.obj = none

theorem targetPool_ne (ans : Answers) : ans.targetPool ≠ .ok none := by
  unfold VolumeReconciler.Answers.targetPool
  split <;> simp

theorem handleDeletion_waits {ans : Answers} {s : State} (hYoung : ans.minutesSinceDeletion < 20)
    (hFinalizers : vol.finalizers ≠ [inStateFinalizer]) : handleDeletion ans s vol = { state := s } := by
  rw [handleDeletion, if_neg hFinalizers]
  split
  · rfl
  next hNone => exact absurd hNone (targetPool_ne ans)
  · rw [if_neg fun hOld => by omega]

theorem Going.reconcile {a : Account} (h : Going a) {ans : Answers} (hYoung : ans.minutesSinceDeletion < 20) :
    Going (step svc a (.reconcile ans)) ∧ ((step svc a (.reconcile ans)).obj = none ∨
      (step svc a (.reconcile ans)).obj = a.obj ∧ ∀ vol ∈ a.obj, vol.finalizers ≠ [inStateFinalizer]) := by
  cases hObj : a.obj with
  | none =>
    have hSame : step svc a (.reconcile ans) = a := by rw [step, hObj]
    rw [hSame]
    exact ⟨h, .inl hObj⟩
  | some vol =>
    have hDeleted := h.deleted vol hObj
    have hPass : VolumeReconciler.reconcile ans a.state vol = handleDeletion ans a.state vol := by
      rw [VolumeReconciler.reconcile, if_pos (Option.isSome_iff_ne_none.mpr hDeleted)]
    by_cases hFinalizers : vol.finalizers = [inStateFinalizer]
    · have hStep : step svc a (.reconcile ans) =
          { a with obj := none, state := (a.state.unbindAntstorVolume vol.spec.uuid).1 } := by
        rw [step, hObj]
        dsimp only
        rw [hPass, handleDeletion, if_pos hFinalizers]
        dsimp only [release]
        congr 1
        exact if_pos ⟨Option.isSome_iff_ne_none.mpr hDeleted, rfl⟩
      have hReleased : Covered { vol with finalizers := [] } a.disk :=
        (h.covered.2 vol hObj hDeleted).released hFinalizers _
      have hClean : lifeSpec.inv (finalize { vol with finalizers := [] }) a.disk := inv_finalize fun _ => hReleased
      rw [finalize, if_pos ⟨Option.isSome_iff_ne_none.mpr hDeleted, rfl⟩] at hClean
      rw [hStep]
      exact ⟨⟨hClean, fun _ hVol => (by cases hVol), fun _ hVol => (by cases hVol)⟩, .inl rfl⟩
    · have hStep : step svc a (.reconcile ans) = a := by
        rw [step, hObj]
        dsimp only
        rw [hPass, handleDeletion_waits hYoung hFinalizers]
        dsimp only
        rw [← hObj]
      rw [hStep]
      refine ⟨h, .inr ⟨hObj, ?_⟩⟩
      rintro _ ⟨⟩
      exact hFinalizers

theorem Going.starts {a : Account} (h : Going a) (hObj : a.obj = some vol) :
    syncOneVolume svc vol = VolumeSyncer.handleDeletion svc vol := by
  obtain ⟨hHeld, hRemains⟩ := h.held vol hObj
  have hDeleted := h.deleted vol hObj
  have hStart : ¬ VolumeSyncer.inStateFinalizer ∉ vol.finalizers := not_not.mpr (hHeld.start (hRemains hDeleted))
  rw [syncOneVolume, if_neg hStart, if_pos (Option.isSome_iff_ne_none.mpr hDeleted)]

theorem Going.sync {a : Account} (h : Going a) {ans : Call → VolumeSyncer.Answers} (hAns : ∀ c, (ans c).fails = false) :
    Going (step svc a (.sync ans)) ∧ ((step svc a (.sync ans)).obj = none ∨
      (∃ vol ∈ a.obj, vol.finalizers = [inStateFinalizer]) ∨ (step svc a (.sync ans)).owed < a.owed) := by
  cases hObj : a.obj with
  | none =>
    have hSame : step svc a (.sync ans) = a := by
      rw [step, hObj]
      cases a
      cases hObj
      rfl
    rw [hSame]
    exact ⟨h, .inl hObj⟩
  | some vol =>
    have hDeleted := h.deleted vol hObj
    obtain ⟨hHeld, hRemains⟩ := h.held vol hObj
    rw [step_sync hObj, h.starts hObj]
    have hCovered : lifeSpec.inv (some vol) a.disk := hObj ▸ h.covered
    have hHolds : holding.inv (some vol) a.disk := hObj ▸ h.held
    have hMeets : holding.Meets (life svc) (some vol) (fun _ _ _ => True) (syncOneVolume svc vol) false a.disk :=
      (holding_valid svc).program (some vol) a.disk hHolds
    rw [h.starts hObj] at hMeets
    refine ⟨⟨?_, ?_, ?_⟩, ?_⟩
    · exact (handleDeletion_meets (hCovered.2 vol rfl hDeleted)).exec_of_all (handleDeletion_removing hHeld)
        (fun c hCall => hCall.permitted) (lifeSpec_valid svc) (fun _ => rfl) hCovered _
    · exact hMeets.exec (holding_valid svc) (fun _ _ _ => trivial) (fun _ => rfl) hHolds _
    · intro new hNew
      rcases (life svc).exec_object (handleDeletion_removing hHeld) (fun c => { toAnswers := ans c }) (some vol) a.disk with
        hSame | ⟨w, -, hApplied⟩
      · cases hSame.symm.trans hNew
        exact hDeleted
      · exact deleted_applied hDeleted (hApplied.symm.trans hNew)
    · by_cases hOwed : owed vol = 0
      · exact .inr (.inl ⟨vol, rfl, hHeld.finalizers_eq (hRemains hDeleted) hOwed⟩)
      · have hSends : (life svc).Sends (fun c => { toAnswers := ans c }) (Frees vol)
            (VolumeSyncer.handleDeletion svc vol) a.disk := handleDeletion_sends hAns hHeld hOwed
        obtain ⟨w, ⟨-, hLess⟩, hApplied⟩ := hSends.exec (some vol)
        rw [Account.owed, Account.owed, hObj, hApplied]
        cases hLeft : (life svc).apply w (some vol) with
        | none => exact .inl rfl
        | some current =>
          obtain ⟨-, rfl⟩ := applied_eq hLeft
          exact .inr (.inr hLess)

theorem Account.Gone.owed {a : Account} (h : a.Gone) : a.owed = 0 := by
  rw [Account.owed, h]

theorem Going.round {a : Account} (h : Going a) {r : Round} (hr : Removes r) :
    Going (round svc a r) ∧ ((round svc a r).Gone ∨ ¬ a.Gone ∧ (round svc a r).owed < a.owed) := by
  obtain ⟨hMid, hReleased⟩ := h.reconcile hr.young
  obtain ⟨hAfter, hFreed⟩ := hMid.sync hr.succeeds
  refine ⟨hAfter, ?_⟩
  rcases hReleased with hNone | ⟨hSame, hOther⟩
  · refine .inl ?_
    rcases hFreed with hGone | ⟨vol, hVol, -⟩ | hLess
    · exact hGone
    · cases hNone.symm.trans hVol
    · rw [Account.Gone.owed hNone] at hLess
      exact absurd hLess (Nat.not_lt_zero _)
  · rcases hFreed with hGone | ⟨vol, hVol, hOnly⟩ | hLess
    · exact .inl hGone
    · exact absurd hOnly (hOther vol (hSame ▸ hVol))
    · rw [Account.owed, Account.owed, hSame] at hLess
      refine .inr ⟨fun hGone => ?_, hLess⟩
      rw [Account.Gone] at hGone
      rw [hGone] at hLess
      exact absurd hLess (Nat.not_lt_zero _)

theorem owed_le (vol : AntstorVolume) : owed vol ≤ 2 := by
  unfold owed
  split <;> split <;> decide

theorem rounds_remove {a : Account} (h : Going a) {rounds : List Round} (hRounds : ∀ r ∈ rounds, Removes r)
    (hLength : 3 ≤ rounds.length) :
    Going (Runs.run (VolumeReconciler.round svc) a rounds) ∧ (Runs.run (VolumeReconciler.round svc) a rounds).Gone := by
  have hOwed : a.owed < rounds.length := by
    refine lt_of_lt_of_le ?_ hLength
    unfold Account.owed
    split
    next vol _ => exact Nat.lt_succ_of_le (owed_le vol)
    · decide
  have hGuarded : Runs.Guarded (VolumeReconciler.round svc) (fun _ r => Removes r) a rounds :=
    Runs.guarded_of_forall fun r hr _ => hRounds r hr
  exact Runs.run_reaches hGuarded h (.inr hOwed) fun a r h hr => h.round hr

/-- Wherever a run has left a volume that is being deleted, three undisturbed rounds
remove it, and nothing of it is left on its node. -/
theorem deletion_completes (hLive : base.deletionTimestamp = none) (hHeld : Held base)
    {events : List (Event Process LifeAnswers)}
    (hCovered : Runs.Guarded (life svc).protocol.step (lifeGuards.Met (life svc)) (System.init (some base) disk) events)
    (hAppended : Runs.Guarded (life svc).protocol.step (holdingGuards.Met (life svc)) (System.init (some base) disk) events)
    {t : Optimistic.System Process (Option AntstorVolume) Disk Write (Option (Pass PUnit))}
    (hRun : Runs.run (life svc).protocol.step (System.init (some base) disk) events = t)
    (hDeleted : ∀ vol ∈ t.object.value, vol.deletionTimestamp ≠ none) (s : State)
    {rounds : List Round} (hRounds : ∀ r ∈ rounds, Removes r) (hLength : 3 ≤ rounds.length) :
    (Runs.run (round svc) { obj := t.object.value, disk := t.world, state := s } rounds).obj = none ∧
      (Runs.run (round svc) { obj := t.object.value, disk := t.world, state := s } rounds).disk.lv = none ∧
      (Runs.run (round svc) { obj := t.object.value, disk := t.world, state := s } rounds).disk.targets = [] := by
  have hLife : lifeSpec.inv t.object.value t.world := by
    have hInit : lifeSpec.inv (some base) disk := by
      refine ⟨fun hNone => absurd hNone (Option.some_ne_none _), ?_⟩
      rintro _ ⟨⟩ hNot
      exact absurd hLive hNot
    exact hRun ▸ ((lifeSpec_valid svc).always hInit hCovered).run
  have hHolds : holding.inv t.object.value t.world := by
    have hInit : holding.inv (some base) disk := by
      rintro _ ⟨⟩
      exact ⟨hHeld, fun hNot => absurd hLive hNot⟩
    exact hRun ▸ ((holding_valid svc).always hInit hAppended).run
  have hStart : Going { obj := t.object.value, disk := t.world, state := s } := ⟨hLife, hHolds, hDeleted⟩
  obtain ⟨hGoing, hNone⟩ := rounds_remove hStart hRounds hLength
  exact ⟨hNone, hGoing.covered.1 hNone⟩

/-- The user deletes a volume that has its logical volume. -/
theorem deletion_completes_of_made :
    let t := Runs.run (life linearService).protocol.step (System.init (some boundVolume) {})
      (makeLv ++ recordLv ++ userDeletes)
    t.world.lv = some fourMiB ∧
      (Runs.run (round linearService) { obj := t.object.value, disk := t.world, state := State.newState }
        (List.replicate 3 plainRound)).obj = none := by
  have hHeld : Held boundVolume := ⟨by decide, by decide, by decide, by decide⟩
  have hRounds : ∀ r ∈ List.replicate 3 plainRound, Removes r := by
    intro r hr
    cases List.eq_of_mem_replicate hr
    exact ⟨by decide, fun _ => rfl⟩
  exact ⟨by decide, (deletion_completes rfl hHeld (by decide) (by decide) rfl (by decide) State.newState hRounds
    (by decide)).1⟩

end Liteio.VolumeReconciler
