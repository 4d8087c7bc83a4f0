import Liteio.Library.Meets
import Liteio.Reconciler.Charged
import Liteio.Reconciler.Orphans

/-! # What provisioning rests on

The agent, the controller and the user on one volume, in any order and with any
call failing. As long as nobody deletes the volume, it stays the volume that was
asked for: what the passes write into it are its type, its node, what they have
made for it and its status, and its logical volume has the size it should have.
The controller patches finalizers without a version; in the runs looked at it
patches only those the volume has.
-/

namespace Liteio.VolumeReconciler

open Worker VolumeSyncer Optimistic

def settledType (svc : PoolService) : VolumeType :=
  match svc.mode with
  | .kernelLVM => .kernelLVol
  | .spdkLVStore => .spdkLVol

def layoutText (vol : AntstorVolume) : String := (vol.annotationAt lvLayoutAnnoKey).getD ""

structure Provisionable (svc : PoolService) (node : String) (base : AntstorVolume) : Prop where
  node : node ≠ ""
  address : svc.storagePool.spec.nodeInfo.ip ≠ ""
  uuid : base.spec.uuid ≠ ""
  name : base.name ≠ ""
  size : 0 < base.spec.sizeByte
  running : base.spec.stopReconcile = false
  unexpanded : base.label expansionOriginalSize = none
  original : sourceSnapshot base = none
  type : base.spec.type = .flexible ∨ base.spec.type = settledType svc
  host : base.spec.hostNode ≠ none
  layout : ∀ val ∈ base.annotationAt lvLayoutAnnoKey, val ∈ ["", "linear", "striped"]
  fits : ∀ linear, svc.layOut base.spec.sizeByte (layoutText base) linear = some base.spec.sizeByte

structure Equipped (spec : AntstorVolumeSpec) : Prop where
  kernelLvol : spec.type = .kernelLVol → ∃ lvol ∈ spec.kernelLvol, lvol.devPath ≠ ""
  spdkLvol : spec.type = .spdkLVol → spec.spdkLvol ≠ none
  type : spec.type ≠ .flexible

structure Asked (base vol : AntstorVolume) : Prop where
  name : vol.name = base.name
  uuid : vol.spec.uuid = base.spec.uuid
  sizeByte : vol.spec.sizeByte = base.spec.sizeByte
  hostNode : vol.spec.hostNode = base.spec.hostNode
  running : vol.spec.stopReconcile = base.spec.stopReconcile
  labelled : vol.labels ≠ none
  labels : ∀ key, key ≠ uuidLabelKey → key ≠ targetNodeIdLabelKey → vol.label key = base.label key
  layout : vol.annotationAt lvLayoutAnnoKey = base.annotationAt lvLayoutAnnoKey

structure Intact (svc : PoolService) (node : String) (base vol : AntstorVolume) (disk : Disk) : Prop where
  asked : Asked base vol
  type : vol.spec.type = base.spec.type ∨ vol.spec.type = settledType svc
  target : vol.spec.targetNodeId = "" ∨ vol.spec.targetNodeId = node
  lv : disk.lv = none ∨ disk.lv = some base.spec.sizeByte
  made : hasLogicVolFinalizer vol = true → Equipped vol.spec ∧ disk.lv ≠ none
  ready : vol.status.status = .ready → disk.lv ≠ none

def Making (svc : PoolService) (base : AntstorVolume) : Call → Prop
  | .createVolume _ sizeByte _ lvLayout =>
    sizeByte = base.spec.sizeByte ∧ ∀ linear, svc.layOut sizeByte lvLayout linear = some sizeByte
  | .expandVolume .. | .deleteVolume _ | .createLvolClone .. => False
  | _ => True

def Harmless : Call → Prop
  | .getVolume _ | .getStoragePool _ | .exposeAccess _ => True
  | _ => False

/-- The volume is scheduled to its node only, and a patch of its finalizers is made
from those it has. -/
def provisioningGuards (node : String) : Guards Call Write (Option AntstorVolume) Disk where
  permitted _ _ _ := True
  welcome
    | .update new, _, _ => new.spec.targetNodeId = "" ∨ new.spec.targetNodeId = node
    | .patch _ finalizers targetNodeId, obj, _ =>
      (∀ id ∈ targetNodeId, id = node) ∧
        ∀ vol ∈ obj, ∀ new ∈ finalizers, new = vol.finalizers ++ [inStateFinalizer]
    | _, _, _ => True

def provisioning (svc : PoolService) (node : String) (base : AntstorVolume) :
    Spec Call Write (Option AntstorVolume) Disk where
  toGuards := provisioningGuards node
  inv obj disk := ∀ vol ∈ obj, vol.deletionTimestamp = none → Intact svc node base vol disk
  rel copy obj := ∀ vol ∈ copy, vol.deletionTimestamp ≠ none → ∀ current ∈ obj, current.deletionTimestamp ≠ none
  callable copy c written _ :=
    ∃ vol ∈ copy, if vol.deletionTimestamp = none then Making svc base c else written = false

variable {svc : PoolService} {node : String} {base vol other : AntstorVolume} {disk disk' : Disk}

theorem Harmless.making {c : Call} (h : Harmless c) : Making svc base c := by
  cases c <;> first | exact h.elim | trivial

def Grown (base : AntstorVolume) (disk disk' : Disk) : Prop :=
  disk'.lv = disk.lv ∨ disk.lv = none ∧ disk'.lv = some base.spec.sizeByte

theorem Grown.effect (h : Grown base disk disk') (ans : VolumeSyncer.Answers) :
    Grown base disk (ans.effect disk disk') := by
  unfold Answers.effect
  split
  · exact .inl rfl
  · exact h

theorem perform_grown {c : Call} (hCall : Making svc base c) (ans : VolumeSyncer.Answers) :
    Grown base disk (perform svc c ans disk).2 := by
  cases c with
  | createVolume volName sizeByte fsType lvLayout =>
    obtain ⟨rfl, hFits⟩ := hCall
    cases hLv : disk.lv with
    | some lv =>
      simp only [perform, hLv]
      exact .inl rfl
    | none =>
      simp only [perform, hLv, hFits]
      exact Grown.effect (.inr ⟨hLv, rfl⟩) ans
  | expandVolume | deleteVolume | createLvolClone => exact hCall.elim
  | exposeAccess access =>
    simp only [perform]
    split
    · exact .inl rfl
    · refine Grown.effect ?_ ans
      exact .inl rfl
  | removeAccess access =>
    refine Grown.effect ?_ ans
    exact .inl rfl
  | resizeAioBdev | getVolume | inflateLvol | getStoragePool | getSnapshot | listSnapshots => exact .inl rfl

namespace Intact

theorem grow (h : Intact svc node base vol disk) (hGrown : Grown base disk disk') :
    Intact svc node base vol disk' := by
  have hKept : disk.lv ≠ none → disk'.lv ≠ none := by
    rcases hGrown with hSame | ⟨hNone, -⟩
    · rw [hSame]
      exact fun hLv => hLv
    · exact fun hLv => absurd hNone hLv
  refine { h with lv := ?_, made := fun hLogic => ?_, ready := fun hReady => hKept (h.ready hReady) }
  · rcases hGrown with hSame | ⟨-, hMade⟩
    · rw [hSame]
      exact h.lv
    · exact .inr hMade
  · exact ⟨(h.made hLogic).1, hKept (h.made hLogic).2⟩

end Intact

/-! ## The agent -/

theorem allowHosts_harmless (hostNode : Option NodeInfo) :
    (allowHosts hostNode).All Harmless (fun _ => False) fun _ => True := by
  unfold allowHosts
  split
  · split
    · exact (Prog.all_fetch trivial).bind fun _ _ => trivial
    · trivial
  · trivial

theorem applyAllowHosts_harmless (vol : AntstorVolume) :
    (applyAllowHosts vol).All Harmless (fun _ => False) fun _ => True := by
  unfold applyAllowHosts
  split
  · exact (allowHosts_harmless _).bind fun _ _ => ⟨trivial, fun _ => trivial⟩
  · trivial

theorem applyAllocatedSize_harmless (vol : AntstorVolume) :
    (applyAllocatedSize vol).All Harmless (fun w => ∃ sizeByte, w = .update (withAllocated vol sizeByte))
      fun other => other.status = vol.status ∧ (vol.status.status ≠ .ready → other = vol) := by
  unfold applyAllocatedSize
  split
  next hReady =>
    refine (Prog.all_fetch trivial).bind fun sizeByte _ => ?_
    split
    · exact ⟨⟨sizeByte, rfl⟩, rfl, fun hNot => absurd hReady.2 hNot⟩
    · exact ⟨rfl, fun _ => rfl⟩
  · exact ⟨rfl, fun _ => rfl⟩

theorem applyVolume_harmless (vol : AntstorVolume) :
    (applyVolume vol).All Harmless (fun w => ∃ sizeByte, w = .update (withAllocated vol sizeByte))
      fun other => other.status = vol.status ∧ (vol.status.status ≠ .ready → other = vol) := by
  refine (applyAllocatedSize_harmless vol).bind fun other hOther => ?_
  refine ((applyAllowHosts_harmless other).mono (fun _ h => h) (fun _ h => h.elim) fun _ h => h).bind fun _ _ => ?_
  exact hOther

def Records (vol : AntstorVolume) (w : Write) : Prop :=
  spdkTargetFinalizer ∉ vol.finalizers ∧ ∃ tgt, w = .update { vol with
    finalizers := vol.finalizers ++ [spdkTargetFinalizer]
    spec := { vol.spec with spdkTarget := some tgt } }

theorem expose_harmless (hNew : spdkTargetFinalizer ∉ vol.finalizers) (tgt : SpdkTarget) (aio : Option AioVolume)
    (lvol : Option SpdkLVolume) : (expose vol tgt aio lvol).All Harmless (Records vol) fun _ => False := by
  refine ((allowHosts_harmless _).mono (fun _ h => h) (fun _ h => h.elim) fun _ h => h).bind fun _ _ => ?_
  exact (Prog.all_fetch trivial).bind fun _ _ => ⟨⟨hNew, _, rfl⟩, trivial⟩

theorem createOpenAccess_harmless (svc : PoolService) (vol : AntstorVolume) :
    (createOpenAccess svc vol).All Harmless (Records vol) fun other => other = vol := by
  unfold createOpenAccess
  split
  · trivial
  dsimp only
  split
  · trivial
  split
  · exact rfl
  next hNew =>
  have hExpose : ∀ tgt aio lvol, (expose vol tgt aio lvol).All Harmless (Records vol) fun other => other = vol :=
    fun tgt aio lvol => (expose_harmless hNew tgt aio lvol).mono (fun _ h => h) (fun _ h => h) fun _ h => h.elim
  split
  · trivial
  unfold openAccess
  split
  · split
    · exact rfl
    · split
      · split
        · trivial
        · exact hExpose _ _ _
      · trivial
  · split
    · exact hExpose _ _ _
    · trivial
  · split
    · exact hExpose _ _ _
    · trivial

theorem applied_eq {w : Write} {current : AntstorVolume} (h : w.apply (some vol) = some current) :
    ¬ ((w.applyTo vol).deletionTimestamp.isSome ∧ (w.applyTo vol).finalizers = []) ∧ w.applyTo vol = current :=
  (Option.ite_none_left_eq_some.mp h).imp_right Option.some.inj

theorem inv_applied {w : Write} (h : Intact svc node base (w.applyTo vol) disk) :
    (provisioning svc node base).inv (w.apply (some vol)) disk := by
  intro current hCurrent _
  obtain ⟨-, rfl⟩ := applied_eq hCurrent
  exact h

namespace Intact

variable (h : Intact svc node base vol disk)
include h

theorem withAllocated (sizeByte : ℕ) :
    Intact svc node base ((Write.update (withAllocated vol sizeByte)).applyTo vol) disk := by
  refine { h with asked := { h.asked with layout := ?_ } }
  rw [← h.asked.layout, ObjectMeta.annotationAt, ObjectMeta.annotationAt]
  change FiniteMap.find (FiniteMap.put vol.annotations allocatedSizeAnnoKey _) lvLayoutAnnoKey = _
  rw [FiniteMap.find_put, if_neg (by decide)]

theorem settleType (hFlexible : vol.spec.type = .flexible) :
    Intact svc node base ((Write.update { vol with spec := { vol.spec with type := settledType svc } }).applyTo vol)
      disk := by
  refine { h with asked := { h.asked with }, type := .inr rfl, made := fun hLogic => ?_ }
  exact absurd hFlexible (h.made hLogic).1.type

theorem record (hLogic : hasLogicVolFinalizer vol = true) {w : Write} (hw : Records vol w) :
    Intact svc node base (w.applyTo vol) disk := by
  obtain ⟨-, tgt, rfl⟩ := hw
  obtain ⟨hEquipped, hLv⟩ := h.made hLogic
  exact { h with asked := { h.asked with }, made := fun _ => ⟨{ hEquipped with }, hLv⟩ }

theorem becomeReady (hLogic : hasLogicVolFinalizer vol = true) (new : AntstorVolume) :
    Intact svc node base ((Write.updateStatus new).applyTo vol) disk := by
  exact { h with asked := { h.asked with }, ready := fun _ => (h.made hLogic).2 }

end Intact

def Equips (vol made : AntstorVolume) : Prop :=
  Equipped made.spec ∧ ∃ kernelLvol spdkLvol,
    made = { vol with spec := { vol.spec with kernelLvol := kernelLvol, spdkLvol := spdkLvol } }

theorem Provisionable.settled (hBase : Provisionable svc node base) (h : Intact svc node base vol disk)
    (hType : vol.spec.type ≠ .flexible) : vol.spec.type = settledType svc := by
  rcases h.type with hSame | hSettled
  · exact hSame.trans (hBase.type.resolve_left (hSame ▸ hType))
  · exact hSettled

theorem Intact.original (h : Intact svc node base vol disk) (hBase : Provisionable svc node base) :
    sourceSnapshot vol = none := by
  rw [← hBase.original, sourceSnapshot, sourceSnapshot, h.asked.labels _ (by decide) (by decide),
    h.asked.labels _ (by decide) (by decide)]

theorem Intact.unexpanded (h : Intact svc node base vol disk) (hBase : Provisionable svc node base) :
    vol.label expansionOriginalSize = none :=
  (h.asked.labels _ (by decide) (by decide)).trans hBase.unexpanded

theorem devPath_ne (hMode : svc.mode = .kernelLVM) (name : String) : svc.devPath name ≠ "" := by
  rw [PoolService.devPath, hMode]
  intro hEmpty
  have := congrArg String.length hEmpty
  simp [String.length_append] at this

def keepPath (vol : AntstorVolume) (devPath : String) : Pass AntstorVolume :=
  if devPath = "" then return vol
  else
    match vol.spec.kernelLvol with
    | some lvol => return { vol with spec := { vol.spec with kernelLvol := some { lvol with devPath := devPath } } }
    | none => .stop

theorem allocate_eq (vol : AntstorVolume) (hSize : 0 < vol.spec.sizeByte) (hName : vol.name ≠ "") (fsType lvLayout : String) :
    allocate vol fsType lvLayout =
      (Prog.fetch (.createVolume vol.name vol.spec.sizeByte fsType lvLayout) id).bind (keepPath vol) := by
  rw [allocate, if_pos ⟨hSize, hName⟩]
  rfl

def kernelStart (vol : AntstorVolume) : AntstorVolume :=
  { vol with spec := { vol.spec with kernelLvol := some { vol.spec.kernelLvol.getD {} with name := vol.name } } }

def spdkStart (svc : PoolService) (vol : AntstorVolume) : AntstorVolume :=
  { vol with spec := { vol.spec with
    spdkLvol := some { lvsName := svc.storagePool.spec.spdkLVStore.name, name := vol.name, thin := false } } }

theorem makeLogicVolume_eq (hBase : Provisionable svc node base) (h : Intact svc node base vol disk)
    (hType : vol.spec.type ≠ .flexible) : ∃ fsType lvLayout start made,
      makeLogicVolume svc vol =
        (Prog.fetch (.createVolume vol.name vol.spec.sizeByte fsType lvLayout) id).bind (keepPath start) ∧
      (∀ linear, svc.layOut vol.spec.sizeByte lvLayout linear = some vol.spec.sizeByte) ∧
      keepPath start (svc.devPath vol.name) = .done made ∧ Equips vol made := by
  have hSettled := hBase.settled h hType
  have hOriginal := h.original hBase
  have hSize : 0 < vol.spec.sizeByte := h.asked.sizeByte ▸ hBase.size
  have hName : vol.name ≠ "" := h.asked.name ▸ hBase.name
  cases hMode : svc.mode with
  | kernelLVM =>
    have hKernel : vol.spec.type = .kernelLVol := by rw [hSettled, settledType, hMode]
    have hPath := devPath_ne hMode vol.name
    have hEq : makeLogicVolume svc vol = allocate (kernelStart vol) (fsTypeOf vol) (layoutText vol) := by
      rw [makeLogicVolume, hKernel]
      dsimp only
      rw [hOriginal, if_neg (by simp)]
      rfl
    refine ⟨fsTypeOf vol, layoutText vol, kernelStart vol, _, hEq.trans (allocate_eq (kernelStart vol) hSize hName _ _),
      fun linear => ?_, by rw [keepPath, if_neg hPath]; rfl, ?_⟩
    · rw [layoutText, h.asked.layout, h.asked.sizeByte]
      exact hBase.fits linear
    · refine ⟨⟨fun _ => ⟨_, rfl, hPath⟩, fun hSpdk => ?_, hType⟩, _, _, rfl⟩
      cases hKernel.symm.trans hSpdk
  | spdkLVStore =>
    have hSpdk : vol.spec.type = .spdkLVol := by rw [hSettled, settledType, hMode]
    have hPath : svc.devPath vol.name = "" := by rw [PoolService.devPath, hMode]
    have hEq : makeLogicVolume svc vol = allocate (spdkStart svc vol) "" "" := by
      rw [makeLogicVolume, hSpdk]
      dsimp only
      rw [hOriginal]
      rfl
    refine ⟨"", "", spdkStart svc vol, _, hEq.trans (allocate_eq (spdkStart svc vol) hSize hName _ _),
      fun linear => ?_, by rw [keepPath, if_pos hPath]; rfl, ?_⟩
    · have hFits := hBase.fits linear
      simp only [PoolService.layOut, hMode] at hFits ⊢
      rw [h.asked.sizeByte]
      exact hFits
    · refine ⟨⟨fun hKernel => ?_, fun _ => Option.some_ne_none _, hType⟩, _, _, rfl⟩
      cases hSpdk.symm.trans hKernel

theorem perform_createVolume {name fsType lvLayout devPath : String} {size : ℕ} {ans : VolumeSyncer.Answers}
    (hFits : ∀ linear, svc.layOut size lvLayout linear = some size)
    (hDone : (perform svc (.createVolume name size fsType lvLayout) ans disk).1 = some devPath) :
    devPath = svc.devPath name ∧ (perform svc (.createVolume name size fsType lvLayout) ans disk).2.lv ≠ none := by
  cases hLv : disk.lv with
  | some lv =>
    simp only [perform, hLv] at hDone ⊢
    obtain ⟨-, hPath⟩ := Option.ite_none_left_eq_some.mp hDone
    exact ⟨(Option.some.inj hPath).symm, Option.some_ne_none lv⟩
  | none =>
    simp only [perform, hLv, hFits] at hDone ⊢
    obtain ⟨hOk, hPath⟩ := Option.ite_none_left_eq_some.mp hDone
    rw [Answers.effect_of_succeeds (by simpa using hOk)]
    exact ⟨(Option.some.inj hPath).symm, Option.some_ne_none size⟩

section

variable (hBase : Provisionable svc node base) (hLive : vol.deletionTimestamp = none)
  (h : Intact svc node base vol disk)

include hLive

theorem making_callable {c : Call} {written : Bool} (hCall : Making svc base c) :
    (provisioning svc node base).callable (some vol) c written disk :=
  ⟨vol, rfl, by rwa [if_pos hLive]⟩

include h

theorem harmless_meets {β : Type} {p : Pass β} {writes : Write → Prop} {post : β → Prop} {written : Bool}
    (hAll : p.All Harmless writes post) (hWrite : ∀ w, writes w → ∀ disk, Intact svc node base vol disk →
      w.guarded = true ∧ Intact svc node base (w.applyTo vol) disk) :
    (provisioning svc node base).Meets (life svc) (some vol) (fun b _ disk => post b ∧ Intact svc node base vol disk)
      p written disk := by
  refine Spec.meets_of_all (fun disk => Intact svc node base vol disk) hAll h ?_ ?_
  · intro c hCall written disk h
    exact ⟨making_callable hLive hCall.making, fun ans => h.grow (perform_grown hCall.making ans.toAnswers)⟩
  · intro w hw disk h
    obtain ⟨hGuarded, hIntact⟩ := hWrite w hw disk h
    exact ⟨hGuarded, inv_applied hIntact⟩

include hBase

theorem createVolume_meets (hType : vol.spec.type ≠ .flexible) (written : Bool) :
    (provisioning svc node base).Meets (life svc) (some vol)
      (fun other _ disk => other = vol ∧ hasLogicVolFinalizer vol = true ∧ Intact svc node base vol disk)
      (createVolume svc vol) written disk := by
  unfold createVolume
  split
  next hLogic => exact ⟨rfl, hLogic, h⟩
  obtain ⟨fsType, lvLayout, start, made, hEq, hFits, hKeep, hEquips⟩ := makeLogicVolume_eq hBase h hType
  have hCall : Making svc base (.createVolume vol.name vol.spec.sizeByte fsType lvLayout) :=
    ⟨h.asked.sizeByte, hFits⟩
  have hCreate : (provisioning svc node base).Meets (life svc) (some vol)
      (fun devPath _ disk => devPath = svc.devPath vol.name ∧ disk.lv ≠ none ∧ Intact svc node base vol disk)
      (Prog.fetch (.createVolume vol.name vol.spec.sizeByte fsType lvLayout) id) written disk := by
    refine Spec.meets_fetch (making_callable hLive hCall) fun _ _ ans devPath hDone => ?_
    obtain ⟨hPath, hLv⟩ := perform_createVolume hFits hDone
    exact ⟨hPath, hLv, h.grow (perform_grown hCall ans.toAnswers)⟩
  have hMake : (provisioning svc node base).Meets (life svc) (some vol)
      (fun other _ disk => Equips vol other ∧ disk.lv ≠ none ∧ Intact svc node base vol disk)
      (makeLogicVolume svc vol) written disk := by
    rw [hEq]
    refine hCreate.bind ?_
    rintro _ written disk ⟨rfl, hRest⟩
    rw [hKeep]
    exact ⟨hEquips, hRest⟩
  refine hMake.bind ?_
  rintro _ written disk ⟨⟨hEquipped, kernelLvol, spdkLvol, rfl⟩, hLv, hIntact⟩
  refine ⟨rfl, inv_applied ?_, trivial⟩
  exact { hIntact with asked := { hIntact.asked with }, made := fun _ => ⟨hEquipped, hLv⟩ }

theorem bringUp_meets (written : Bool) :
    (provisioning svc node base).Meets (life svc) (some vol) (fun _ _ _ => True) (bringUp svc vol) written disk := by
  unfold bringUp
  split
  · trivial
  split
  next hFlexible => exact ⟨rfl, inv_applied (h.settleType hFlexible), trivial⟩
  next hType =>
    refine (createVolume_meets hBase hLive h hType written).bind ?_
    rintro _ written disk ⟨rfl, hLogic, h⟩
    refine (harmless_meets hLive h (createOpenAccess_harmless svc _) ?_).bind ?_
    · exact fun w hw disk h => ⟨by obtain ⟨-, _, rfl⟩ := hw; rfl, h.record hLogic hw⟩
    · rintro _ written disk ⟨rfl, h⟩
      exact ⟨rfl, inv_applied (h.becomeReady hLogic _), trivial⟩

theorem syncOneVolume_provisions :
    (provisioning svc node base).Meets (life svc) (some vol) (fun _ _ _ => True) (syncOneVolume svc vol) false disk := by
  unfold syncOneVolume
  split
  · trivial
  rw [if_neg (by simp [hLive]), expandVolume_of_unlabelled (h.unexpanded hBase)]
  refine (harmless_meets hLive h (applyVolume_harmless vol) ?_).bind ?_
  · rintro _ ⟨sizeByte, rfl⟩ disk h
    exact ⟨rfl, h.withAllocated sizeByte⟩
  · rintro other written disk ⟨⟨hStatus, hSame⟩, h⟩
    by_cases hReady : vol.status.status = .ready
    · rw [bringUp, if_pos (hStatus ▸ hReady)]
      trivial
    · rw [hSame hReady]
      exact bringUp_meets hBase hLive h written

end

/-! ## A volume that is being deleted -/

section deletion

variable (hDeleted : vol.deletionTimestamp ≠ none)
include hDeleted

theorem inv_deleted (new : AntstorVolume) (disk : Disk) :
    (provisioning svc node base).inv ((Write.update new).apply (some vol)) disk := by
  intro current hCurrent hLive
  obtain ⟨-, rfl⟩ := applied_eq hCurrent
  exact absurd hLive hDeleted

theorem deletion_callable (c : Call) (disk : Disk) :
    (provisioning svc node base).callable (some vol) c false disk :=
  ⟨vol, rfl, by rw [if_neg hDeleted]⟩

theorem attempt_unwritten {c : Call} {ok : Reply c → Bool} (disk : Disk) :
    (provisioning svc node base).Meets (life svc) (some vol) (fun _ written _ => written = false)
      (.attempt c ok) false disk :=
  Spec.meets_attempt (deletion_callable hDeleted c disk) fun _ _ _ _ => rfl

theorem removeTarget_provisions (disk : Disk) :
    (provisioning svc node base).Meets (life svc) (some vol) (fun _ written _ => written = false)
      (removeTarget vol) false disk := by
  unfold removeTarget
  split
  · refine (attempt_unwritten hDeleted disk).bind ?_
    rintro - _ disk rfl
    split
    · exact ⟨rfl, inv_deleted hDeleted _ disk, trivial⟩
    · exact rfl
  · split
    · trivial
    · exact rfl

theorem handleDeletion_provisions (disk : Disk) :
    (provisioning svc node base).Meets (life svc) (some vol) (fun _ _ _ => True)
      (VolumeSyncer.handleDeletion svc vol) false disk := by
  refine (removeTarget_provisions hDeleted disk).bind ?_
  rintro - _ disk rfl
  split
  · refine (Spec.meets_of_calls (fun _ => True) detachSnapshots_all trivial fun c _ disk _ =>
      ⟨deletion_callable hDeleted c disk, fun _ => trivial⟩).bind ?_
    rintro - _ disk ⟨rfl, -⟩
    refine (attempt_unwritten hDeleted disk).bind ?_
    exact fun _ _ disk _ => ⟨rfl, inv_deleted hDeleted _ disk, trivial⟩
  · trivial

end deletion

/-! ## The controller -/

inductive Controls (vol : AntstorVolume) : Write → Prop where
  | bound (id : String) : Controls vol (.update { vol with spec := { vol.spec with targetNodeId := id } })
  | updateStatus (new : AntstorVolume) (h : new.status.status = .ready → vol.status.status = .ready) :
      Controls vol (.updateStatus new)
  | patch (labels : List (String × String)) (finalizers : Option (List String)) (targetNodeId : Option String)
      (h : ∀ entry ∈ labels, entry.1 = uuidLabelKey ∨ entry.1 = targetNodeIdLabelKey)
      (hNew : ∀ new ∈ finalizers, inStateFinalizer ∉ vol.finalizers ∧ new = vol.finalizers ++ [inStateFinalizer]) :
      Controls vol (.patch labels finalizers targetNodeId)

theorem controls_label (key value : String) (targetNodeId : Option String)
    (h : key = uuidLabelKey ∨ key = targetNodeIdLabelKey) : Controls vol (.patch [(key, value)] none targetNodeId) := by
  refine .patch _ _ _ (fun entry hEntry => ?_) fun _ hNew => (by cases hNew)
  rwa [List.mem_singleton.mp hEntry]

theorem controls_persisted (vol : AntstorVolume) :
    Controls vol (.patch (missingLabels vol) (missingFinalizers vol) none) := by
  refine .patch _ _ _ (fun entry hEntry => .inr (mem_missingLabels hEntry)) fun new hNew => ?_
  obtain ⟨hIn, hSome⟩ := Option.ite_none_left_eq_some.mp hNew
  exact ⟨hIn, (Option.some.inj hSome).symm⟩

section

variable {scheduled : Scheduled} {state : State} {ans : Answers} {w : Write}

theorem schedule_controls (h : (schedule scheduled state vol).write = some w) : Controls vol w := by
  unfold schedule at h
  split at h
  · cases h
  · split at h
    · cases h
    · cases h
      exact .updateStatus _ fun hReady => by cases hReady
  · split at h
    · cases h
    · cases h
      exact controls_label _ _ _ (.inr rfl)

theorem scheduleVolume_controls (h : (scheduleVolume scheduled state vol).write = some w) : Controls vol w := by
  unfold scheduleVolume at h
  split at h
  · split at h
    · cases h
      exact .bound _
    · exact schedule_controls h
  · exact schedule_controls h

theorem validate_controls (h : validate vol = .error (some w)) : Controls vol w := by
  unfold validate at h
  split at h
  · cases h
  · split at h
    · split at h
      · cases h
      · cases h
        exact controls_label _ _ _ (.inl rfl)
    · split at h
      · cases h
        exact .updateStatus _ fun hReady => by cases hReady
      · split at h
        · split at h
          · cases h
          · cases h
            exact .updateStatus _ fun hReady => hReady
        · cases h

theorem handleReconcile_controls (h : (handleReconcile ans state vol).write = some w) : Controls vol w := by
  unfold handleReconcile at h
  split at h
  · cases h
  split at h
  · exact scheduleVolume_controls h
  split at h
  next hError => exact validate_controls (hError.trans (congrArg _ h))
  · split at h
    · rw [bindTarget_write h]
      exact controls_persisted vol
    · exact scheduleVolume_controls h

end

theorem Asked.patch (h : Asked base vol) {labels : List (String × String)} {finalizers : Option (List String)}
    {targetNodeId : Option String} (hLabels : ∀ entry ∈ labels, entry.1 = uuidLabelKey ∨ entry.1 = targetNodeIdLabelKey) :
    Asked base ((Write.patch labels finalizers targetNodeId).applyTo vol) := by
  refine { h with labelled := ?_, labels := fun key hUuid hTarget => ?_ }
  · change labels.foldl (fun m entry => FiniteMap.put m entry.1 entry.2) vol.labels ≠ none
    induction labels using List.reverseRecOn with
    | nil => exact h.labelled
    | append_singleton entries entry _ =>
      rw [List.foldl_append]
      exact Option.some_ne_none _
  · rw [← h.labels key hUuid hTarget]
    refine FiniteMap.find_foldl_put fun entry hEntry hKey => ?_
    rcases hLabels entry hEntry with hSame | hSame
    · exact hUuid (hKey ▸ hSame)
    · exact hTarget (hKey ▸ hSame)

theorem hasLogicVolFinalizer_iff :
    hasLogicVolFinalizer vol = true ↔
      ∃ item ∈ vol.finalizers, item ∈ [kernelLVolFinalizer, spdkLvolFinalizer, logicVolumeFinalizer] := by
  simp [hasLogicVolFinalizer, and_or_left, exists_or, or_assoc]

theorem Intact.controlled {copy : AntstorVolume} {w : Write} (h : Intact svc node base vol disk)
    (hw : Controls copy w) (hCurrent : w.guarded = true → copy = vol)
    (hWelcome : (provisioningGuards node).welcome w (some vol) disk) :
    Intact svc node base (w.applyTo vol) disk := by
  cases hw with
  | bound id =>
    cases hCurrent rfl
    refine { h with asked := { h.asked with }, target := hWelcome, made := fun hLogic => ?_ }
    obtain ⟨hEquipped, hLv⟩ := h.made hLogic
    exact ⟨{ hEquipped with }, hLv⟩
  | updateStatus new hStatus =>
    cases hCurrent rfl
    exact { h with asked := { h.asked with }, ready := fun hReady => h.ready (hStatus hReady) }
  | patch labels finalizers targetNodeId hLabels _ =>
    obtain ⟨hTarget, hFinalizers⟩ := hWelcome
    refine { h with asked := h.asked.patch hLabels, target := ?_, made := fun hLogic => ?_ }
    · cases targetNodeId with
      | none => exact h.target
      | some id => exact .inr (hTarget id rfl)
    · have hSame : hasLogicVolFinalizer vol = true := by
        cases finalizers with
        | none => exact hLogic
        | some new =>
          cases hFinalizers vol rfl new rfl
          obtain ⟨item, hItem, hMade⟩ := hasLogicVolFinalizer_iff.mp hLogic
          refine hasLogicVolFinalizer_iff.mpr ⟨item, (List.mem_append.mp hItem).resolve_right fun hIn => ?_, hMade⟩
          cases List.mem_singleton.mp hIn
          exact absurd hMade (by decide)
      obtain ⟨hEquipped, hLv⟩ := h.made hSame
      exact ⟨{ hEquipped with }, hLv⟩

theorem deleted_applied {w : Write} (hDeleted : vol.deletionTimestamp ≠ none) {current : AntstorVolume}
    (h : w.apply (some vol) = some current) : current.deletionTimestamp ≠ none := by
  obtain ⟨-, rfl⟩ := applied_eq h
  cases w with
  | update | updateStatus | patch => exact hDeleted
  | delete now =>
    obtain ⟨time, hTime⟩ := Option.ne_none_iff_exists'.mp hDeleted
    change vol.deletionTimestamp.or (some now) ≠ none
    rw [hTime]
    exact Option.some_ne_none _

theorem controller_writes {scheduled : Scheduled} {state : State} {copy : AntstorVolume} {w : Write}
    (h : lifeWriter (.controller scheduled state) copy = some w) :
    copy.deletionTimestamp.isSome = true ∧ w = .update { copy with finalizers := [] } ∨ Controls copy w := by
  change (reconcile _ state copy).write = some w at h
  unfold reconcile at h
  split at h
  next hDeleted =>
    refine .inl ⟨hDeleted, ?_⟩
    unfold handleDeletion at h
    split at h
    · exact (Option.some.inj h).symm
    · dsimp only [VolumeReconciler.Answers.targetPool] at h
      rw [if_neg (by simp)] at h
      cases h
  · exact .inr (handleReconcile_controls h)

theorem inv_written {actor : Actor} {copy : AntstorVolume} {w : Write}
    (h : vol.deletionTimestamp = none → Intact svc node base vol disk) (hWriter : lifeWriter actor copy = some w)
    (hCurrent : w.guarded = true → copy = vol) (hWelcome : (provisioningGuards node).welcome w (some vol) disk) :
    (provisioning svc node base).inv (w.apply (some vol)) disk := by
  by_cases hLive : vol.deletionTimestamp = none
  · cases actor with
    | user now =>
      cases hWriter
      intro current hApplied hNot
      obtain ⟨-, rfl⟩ := applied_eq hApplied
      change vol.deletionTimestamp.or (some now) = none at hNot
      rw [hLive] at hNot
      cases hNot
    | controller scheduled state =>
      rcases controller_writes hWriter with ⟨hDeleted, rfl⟩ | hControls
      · -- the release of a deleted volume carries the version of the copy
        cases hCurrent rfl
        simp [hLive] at hDeleted
      · exact inv_applied ((h hLive).controlled hControls hCurrent hWelcome)
  · exact fun current hApplied hNot => absurd hNot (deleted_applied hLive hApplied)

theorem provisioning_valid (hBase : Provisionable svc node base) : (provisioning svc node base).Valid (life svc) where
  refl obj vol hVol hDeleted current hCurrent := by
    cases hVol.symm.trans hCurrent
    exact hDeleted
  program copy disk h := by
    cases copy with
    | none => trivial
    | some vol =>
      by_cases hLive : vol.deletionTimestamp = none
      · exact syncOneVolume_provisions hBase hLive (h vol rfl hLive)
      · change (provisioning svc node base).Meets (life svc) (some vol) _ (syncOneVolume svc vol) false disk
        rw [syncOneVolume]
        split
        · trivial
        · rw [if_pos (Option.isSome_iff_ne_none.mpr hLive)]
          exact handleDeletion_provisions hLive disk
  call copy c written ans obj disk h hRel hCallable _ := by
    intro vol hVol hLive
    refine (h vol hVol hLive).grow ?_
    obtain ⟨read, hRead, hCall⟩ := hCallable
    split at hCall
    · exact perform_grown hCall ans.toAnswers
    next hDeleted => exact absurd hLive (hRel hCall read hRead hDeleted vol hVol)
  writer ans copy w obj disk hWriter hCurrent h hWelcome := by
    obtain ⟨read, rfl, hSent⟩ := Option.bind_eq_some_iff.mp hWriter
    cases obj with
    | none => exact ⟨fun _ hVol => (by cases hVol), fun _ _ _ _ _ _ hVol => (by cases hVol)⟩
    | some vol =>
      refine ⟨?_, fun other hRel read hRead hDeleted current hApplied => ?_⟩
      · have hSame : w.guarded = true → read = vol := fun hGuarded => Option.some.inj (hCurrent hGuarded)
        exact inv_written (h vol rfl) hSent hSame hWelcome
      · exact deleted_applied (hRel read hRead hDeleted vol rfl) hApplied

/-- In every run from a fresh volume that is scheduled to its node only. -/
theorem intact_always (hBase : Provisionable svc node base) (hInit : Intact svc node base base disk)
    {events : List (Event Process LifeAnswers)}
    (hGuarded : Runs.Guarded (life svc).protocol.step ((provisioningGuards node).Met (life svc))
      (System.init (some base) disk) events) :
    Runs.Always (life svc).protocol.step
      (fun t => ∀ vol ∈ t.object.value, vol.deletionTimestamp = none → Intact svc node base vol t.world)
      (System.init (some base) disk) events := by
  refine (provisioning_valid hBase).always ?_ hGuarded
  rintro _ ⟨⟩ _
  exact hInit

end Liteio.VolumeReconciler
