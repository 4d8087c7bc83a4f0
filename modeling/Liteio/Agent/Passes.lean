import Liteio.Agent.Volume

/-! # What a pass calls and writes

The part of a pass that brings a volume up neither resizes nor deletes a logical
volume, and each of its updates keeps the labels, the annotations and the size of
the volume it works on.
-/

namespace Liteio.VolumeSyncer

open MachineInt Strconv Worker

variable {β : Type} {calls : Call → Prop} {writes : Write → Prop} {vol other : AntstorVolume}

theorem finalize_live (h : vol.deletionTimestamp = none) : finalize vol = some vol := by
  rw [finalize, if_neg (by simp [h])]

theorem Answers.effect_of_succeeds {ans : Answers} {before after : Disk} (h : (!ans.fails) = true) :
    ans.effect before after = after := by
  rw [Answers.effect, if_neg]
  rw [Bool.not_eq_true'] at h
  simp [h]

theorem expandVolume_of_unlabelled (h : vol.label expansionOriginalSize = none) :
    expandVolume vol = .done vol := by
  rw [expandVolume, h]
  rfl

def Additive : Call → Prop
  | .expandVolume .. | .deleteVolume _ => False
  | _ => True

def Silent : Call → Prop
  | .expandVolume .. | .deleteVolume _ | .exposeAccess _ | .removeAccess _ => False
  | _ => True

def Quiet : Call → Prop
  | .exposeAccess _ | .removeAccess _ => False
  | _ => True

theorem Silent.quiet {c : Call} (h : Silent c) : Quiet c := by
  cases c <;> first | exact h.elim | trivial

theorem Silent.additive {c : Call} (h : Silent c) : Additive c := by
  cases c <;> first | exact h.elim | trivial

structure Alike (vol other : AntstorVolume) : Prop where
  name : other.name = vol.name
  deletionTimestamp : other.deletionTimestamp = vol.deletionTimestamp
  finalizers : other.finalizers = vol.finalizers
  spec : other.spec = vol.spec
  status : other.status = vol.status

theorem Alike.trans {third : AntstorVolume} (h : Alike vol other) (h' : Alike other third) : Alike vol third :=
  ⟨h'.name.trans h.name, h'.deletionTimestamp.trans h.deletionTimestamp, h'.finalizers.trans h.finalizers,
    h'.spec.trans h.spec, h'.status.trans h.status⟩

def Made (svc : PoolService) (vol made : AntstorVolume) : Prop :=
  ∃ kernelLvol spdkLvol,
    made = { vol with spec := { vol.spec with kernelLvol := kernelLvol, spdkLvol := spdkLvol } } ∧
      (vol.spec.type = .spdkLVol → spdkLvol =
        some { lvsName := svc.storagePool.spec.spdkLVStore.name, name := vol.name, thin := false })

theorem allocate_all (vol : AntstorVolume) (fsType lvLayout : String) :
    (allocate vol fsType lvLayout).All Silent (fun _ => False)
      (fun made => ∃ kernelLvol, made = { vol with spec := { vol.spec with kernelLvol := kernelLvol } }) := by
  unfold allocate
  split
  · refine (Prog.all_fetch trivial).bind fun devPath _ => ?_
    split
    · exact ⟨_, rfl⟩
    · split
      · exact ⟨_, rfl⟩
      · trivial
  · exact ⟨_, rfl⟩

theorem makeLogicVolume_all (svc : PoolService) (vol : AntstorVolume) :
    (makeLogicVolume svc vol).All Silent (fun _ => False) (Made svc vol) := by
  unfold makeLogicVolume
  split
  · rename_i hType
    split
    · trivial
    · refine (allocate_all _ _ _).mono (fun _ => id) (fun _ => id) ?_
      rintro _ ⟨kernelLvol, rfl⟩
      exact ⟨kernelLvol, _, rfl, fun hSpdk => absurd (hType.symm.trans hSpdk) (by decide)⟩
  · dsimp only
    split
    · exact (Prog.all_fetch trivial).bind fun _ _ => (Prog.all_attempt trivial).bind fun _ _ =>
        ⟨_, _, rfl, fun _ => rfl⟩
    · refine (allocate_all _ _ _).mono (fun _ => id) (fun _ => id) ?_
      rintro _ ⟨kernelLvol, rfl⟩
      exact ⟨kernelLvol, _, rfl, fun _ => rfl⟩
  · rename_i hSpdk
    exact ⟨_, _, rfl, fun hType => absurd hType hSpdk⟩

theorem createVolume_all (svc : PoolService) (vol : AntstorVolume) :
    (createVolume svc vol).All Silent
      (fun w => hasLogicVolFinalizer vol = false ∧ ∃ made, Made svc vol made ∧
        w = .update { made with finalizers := made.finalizers ++ [logicVolumeFinalizer] })
      (fun other => hasLogicVolFinalizer vol = true ∧ other = vol) := by
  unfold createVolume
  split
  · rename_i hMade
    exact ⟨hMade, rfl⟩
  · rename_i hMade
    refine ((makeLogicVolume_all svc vol).mono (fun _ => id) (fun _ => False.elim) fun _ => id).bind ?_
    exact fun made hDone => ⟨⟨by simpa using hMade, made, hDone, rfl⟩, trivial⟩

structure Frame (vol other : AntstorVolume) : Prop where
  labels : other.labels = vol.labels
  annotations : other.annotations = vol.annotations
  sizeByte : other.spec.sizeByte = vol.spec.sizeByte
  targetNodeId : other.spec.targetNodeId = vol.spec.targetNodeId

theorem Frame.refl (vol : AntstorVolume) : Frame vol vol := ⟨rfl, rfl, rfl, rfl⟩

theorem Frame.trans {third : AntstorVolume} (h : Frame vol other) (h' : Frame other third) : Frame vol third :=
  ⟨h'.labels.trans h.labels, h'.annotations.trans h.annotations, h'.sizeByte.trans h.sizeByte,
    h'.targetNodeId.trans h.targetNodeId⟩

structure SameSize (vol other : AntstorVolume) : Prop where
  labels : other.labels = vol.labels
  sizeByte : other.spec.sizeByte = vol.spec.sizeByte
  targetNodeId : other.spec.targetNodeId = vol.spec.targetNodeId

theorem SameSize.frame {third : AntstorVolume} (h : SameSize vol other) (h' : Frame other third) :
    SameSize vol third :=
  ⟨h'.labels.trans h.labels, h'.sizeByte.trans h.sizeByte, h'.targetNodeId.trans h.targetNodeId⟩

theorem sameSize_withAllocated (vol : AntstorVolume) (sizeByte : ℕ) :
    SameSize vol (withAllocated vol sizeByte) :=
  ⟨rfl, rfl, rfl⟩

/-- A write of the status, or an update with a volume that is related to the one
the pass works on. -/
def Carries (related : AntstorVolume → Prop) (w : Write) : Prop :=
  (∃ new, w = .update new ∧ related new) ∨ ∃ new, w = .updateStatus new

theorem Carries.mono {related related' : AntstorVolume → Prop} {w : Write} (hw : Carries related w)
    (h : ∀ new, related new → related' new) : Carries related' w :=
  hw.imp_left fun ⟨new, hNew, hRelated⟩ => ⟨new, hNew, h new hRelated⟩

abbrev BringsUp (vol : AntstorVolume) (post : β → Prop) (p : Pass β) : Prop :=
  p.All Additive (Carries (Frame vol)) post

theorem allowHosts_all (hostNode : Option NodeInfo) :
    (allowHosts hostNode).All Silent (fun _ => False) fun _ => True := by
  unfold allowHosts
  split
  · split
    · exact (Prog.all_fetch trivial).bind fun _ _ => trivial
    · trivial
  · trivial

theorem allowHosts_bringsUp (hostNode : Option NodeInfo) : BringsUp vol (fun _ => True) (allowHosts hostNode) :=
  (allowHosts_all hostNode).mono (fun _ => Silent.additive) (fun _ => False.elim) fun _ => id

theorem applyAllowHosts_bringsUp : BringsUp vol (fun _ => True) (applyAllowHosts other) := by
  unfold applyAllowHosts
  split
  · exact (allowHosts_bringsUp _).bind fun hosts _ => ⟨trivial, fun _ => trivial⟩
  · trivial

section

variable (h : Frame vol other)
include h

theorem updateVolumeType_bringsUp (svc : PoolService) :
    BringsUp vol (fun _ => True) (updateVolumeType svc other) :=
  ⟨.inl ⟨_, rfl, h.trans ⟨rfl, rfl, rfl, rfl⟩⟩, trivial⟩

theorem createVolume_bringsUp (svc : PoolService) : BringsUp vol (Frame vol) (createVolume svc other) := by
  refine (createVolume_all svc other).mono (fun _ => Silent.additive) ?_ ?_
  · rintro _ ⟨_, made, ⟨kernelLvol, spdkLvol, rfl, _⟩, rfl⟩
    exact .inl ⟨_, rfl, h.trans ⟨rfl, rfl, rfl, rfl⟩⟩
  · rintro _ ⟨_, rfl⟩
    exact h

theorem expose_bringsUp (tgt : SpdkTarget) (aio : Option AioVolume) (lvol : Option SpdkLVolume) :
    BringsUp vol (Frame vol) (expose other tgt aio lvol) :=
  (allowHosts_bringsUp _).bind fun _ _ => (Prog.all_fetch trivial).bind fun _ _ =>
    ⟨.inl ⟨_, rfl, h.trans ⟨rfl, rfl, rfl, rfl⟩⟩, trivial⟩

theorem openAccess_bringsUp (isLocal : Bool) (nodeIP : String) :
    BringsUp vol (Frame vol) (openAccess other isLocal nodeIP) := by
  unfold openAccess
  split
  · split
    · exact h
    · split
      · split
        · trivial
        · exact expose_bringsUp h _ _ _
      · trivial
  · split
    · exact expose_bringsUp h _ _ _
    · trivial
  · split
    · exact expose_bringsUp h _ _ _
    · trivial

theorem createOpenAccess_bringsUp (svc : PoolService) :
    BringsUp vol (Frame vol) (createOpenAccess svc other) := by
  unfold createOpenAccess
  split
  · trivial
  · dsimp only
    split
    · trivial
    · split
      · exact h
      · split
        · trivial
        · exact openAccess_bringsUp h _ _

end

theorem bringUp_bringsUp (svc : PoolService) (vol : AntstorVolume) :
    BringsUp vol (fun _ => True) (bringUp svc vol) := by
  unfold bringUp
  split
  · trivial
  · split
    · exact updateVolumeType_bringsUp (.refl vol) svc
    · refine (createVolume_bringsUp (.refl vol) svc).bind fun created hCreated => ?_
      exact (createOpenAccess_bringsUp hCreated svc).bind fun _ _ => ⟨.inr ⟨_, rfl⟩, trivial⟩

theorem applyAllocatedSize_all : (applyAllocatedSize vol).All Silent
    (fun w => ∃ sizeByte, w = .update (withAllocated vol sizeByte))
    (fun other => other = vol ∨ ∃ sizeByte, other = withAllocated vol sizeByte) := by
  unfold applyAllocatedSize
  split
  · refine (Prog.all_fetch trivial).bind fun sizeByte _ => ?_
    split
    · exact ⟨⟨sizeByte, rfl⟩, .inr ⟨sizeByte, rfl⟩⟩
    · exact .inl rfl
  · exact .inl rfl

theorem Alike.of_allocated (h : other = vol ∨ ∃ sizeByte, other = withAllocated vol sizeByte) : Alike vol other := by
  rcases h with rfl | ⟨sizeByte, rfl⟩
  · exact ⟨rfl, rfl, rfl, rfl, rfl⟩
  · exact ⟨rfl, rfl, rfl, rfl, rfl⟩

theorem applyVolume_bringUp_all (svc : PoolService) (vol : AntstorVolume) :
    ((applyVolume vol).bind fun other => bringUp svc other).All Additive (Carries (SameSize vol))
      (fun _ => True) := by
  have hApply : (applyAllocatedSize vol).All Additive (Carries (SameSize vol)) (SameSize vol) := by
    refine applyAllocatedSize_all.mono (fun _ => Silent.additive) ?_ ?_
    · rintro _ ⟨sizeByte, rfl⟩
      exact .inl ⟨_, rfl, sameSize_withAllocated vol sizeByte⟩
    · rintro _ (rfl | ⟨sizeByte, rfl⟩)
      · exact ⟨rfl, rfl, rfl⟩
      · exact sameSize_withAllocated vol sizeByte
  have hRest : ∀ {β : Type} {post : β → Prop} {p : Pass β} {other}, SameSize vol other →
      BringsUp other post p → p.All Additive (Carries (SameSize vol)) post := fun hSame hp =>
    hp.mono (fun _ => id) (fun _ hw => hw.mono fun _ hNew => hSame.frame hNew) fun _ => id
  refine (hApply.bind fun other hOther => ?_).bind fun other hOther =>
    hRest hOther (bringUp_bringsUp svc other)
  exact (hRest hOther applyAllowHosts_bringsUp).bind fun _ _ => hOther

theorem syncOneVolume_all (svc : PoolService) (hLive : vol.deletionTimestamp = none)
    (hLabel : vol.label expansionOriginalSize = none) :
    (syncOneVolume svc vol).All Additive (Carries (SameSize vol)) fun _ => True := by
  rw [syncOneVolume]
  split
  · trivial
  · rw [if_neg (by simp [hLive]), expandVolume_of_unlabelled hLabel]
    exact applyVolume_bringUp_all svc vol

theorem resizeAioBdev_all (bdevName : Option String) (targetSize : ℕ) :
    (resizeAioBdev bdevName targetSize).All Quiet writes fun _ => True := by
  unfold resizeAioBdev
  split
  · exact Prog.all_attempt trivial
  · trivial

theorem expandVolume_all (vol : AntstorVolume) : (expandVolume vol).All Quiet
    (fun w => w = .update { vol with labels := FiniteMap.drop vol.labels expansionOriginalSize })
    (Alike vol) := by
  unfold expandVolume
  split
  · exact ⟨rfl, rfl, rfl, rfl, rfl⟩
  · split
    · exact (Prog.all_attempt trivial).bind fun _ _ => (resizeAioBdev_all _ _).bind fun _ _ =>
        ⟨rfl, rfl, rfl, rfl, rfl, rfl⟩
    · trivial

theorem inflateLvol_all (svc : PoolService) (vol : AntstorVolume) (needed : Bool) :
    (inflateLvol svc vol needed).All Quiet writes fun _ => True := by
  unfold inflateLvol
  split
  · exact Prog.all_attempt trivial
  · trivial

theorem deleteLogicVolume_all (svc : PoolService) (vol : AntstorVolume) :
    (deleteLogicVolume svc vol).All Quiet (fun w => ∃ new, w = .update new) fun _ => True := by
  have hDetach : (detachSnapshots svc vol).All Quiet (fun w => ∃ new, w = .update new) fun _ => True := by
    unfold detachSnapshots
    split
    · exact (inflateLvol_all svc vol _).bind fun _ _ => (Prog.all_fetch trivial).bind fun _ _ =>
        inflateLvol_all svc vol _
    · trivial
  exact hDetach.bind fun _ _ => (Prog.all_attempt trivial).bind fun _ _ => ⟨⟨_, rfl⟩, trivial⟩

theorem syncOneVolume_carries (svc : PoolService) (hLive : vol.deletionTimestamp = none) :
    (syncOneVolume svc vol).All (fun _ => True) (Carries fun new => new.spec.sizeByte = vol.spec.sizeByte)
      fun _ => True := by
  rw [syncOneVolume]
  split
  · trivial
  · rw [if_neg (by simp [hLive])]
    refine ((expandVolume_all vol).mono (fun _ _ => trivial) ?_ fun _ => id).bind fun other hOther => ?_
    · rintro _ rfl
      exact .inl ⟨_, rfl, rfl⟩
    · refine (applyVolume_bringUp_all svc other).mono (fun _ _ => trivial) (fun _ hw => hw.mono ?_) fun _ => id
      intro new hNew
      rw [hNew.sizeByte, hOther.spec]

theorem perform_lv (svc : PoolService) {c : Call} {disk : Disk} {size : ℕ} (hCall : Additive c)
    (hLv : disk.lv = some size) (ans : Answers) : (perform svc c ans disk).2.lv = some size := by
  cases c <;> simp only [perform, hLv, Answers.effect] <;> first | exact hCall.elim | grind

end Liteio.VolumeSyncer
