import Liteio.Agent.Expand
import Liteio.Reconciler.Volume
import Liteio.State.Ledger

/-! # The ledger charges what is allocated

A history of one volume: passes of the agent, expansions and reconciles, one
after another. What the ledger charges is the size of the copy that the node
holds, by its allocated-bytes annotation where it has one. The annotation is
written once and `AddVolume` refuses a copy of another size, so an expansion is
charged only if it comes before both; and until the annotation is there, the
rounding of the logical volume is not charged.
-/

namespace Liteio.VolumeReconciler

open MachineInt Strconv Worker VolumeSyncer

structure Account where
  obj : Option AntstorVolume
  disk : Disk := {}
  state : State

inductive Action where
  | sync (ans : Call → VolumeSyncer.Answers)
  | expand (requestSize : ℤ) (ans : Call → VolumeSyncer.Answers)
  | reconcile (ans : Answers)

def agent (svc : PoolService) : Model (Option AntstorVolume) Disk VolumeSyncer.Answers Call Reply Write :=
  model svc id fun _ _ => none

def resizeAndExpand (svc : PoolService) (ans : Call → VolumeSyncer.Answers) (requestSize : ℤ)
    (vol : AntstorVolume) (disk : Disk) : Option AntstorVolume × Disk :=
  let resized := resizePV requestSize vol
  (agent svc).exec ans (expandVolume resized) false (some resized) disk

def Unlabelled (obj : Option AntstorVolume) : Prop :=
  ∃ vol ∈ obj, vol.label expansionOriginalSize = none

instance (obj : Option AntstorVolume) : Decidable (Unlabelled obj) :=
  match obj with
  | none => isFalse (by simp [Unlabelled])
  | some vol => decidable_of_iff (vol.label expansionOriginalSize = none) (by simp [Unlabelled])

def step (svc : PoolService) (a : Account) : Action → Account
  | .sync ans =>
    let out := (agent svc).exec ans ((agent svc).program a.obj) false a.obj a.disk
    { a with obj := out.1, disk := out.2 }
  | .expand requestSize ans =>
    match a.obj with
    | some vol =>
      let out := resizeAndExpand svc ans requestSize vol a.disk
      if Unlabelled out.1 then { a with obj := out.1, disk := out.2 } else a
    | none => a
  | .reconcile ans =>
    match a.obj with
    | some vol =>
      let out := VolumeReconciler.reconcile ans a.state vol
      { a with state := out.state, obj := match out.write with
          | some w => w.apply a.obj
          | none => a.obj }
    | none => a

def reservedBytes (vol : AntstorVolume) : ℤ := vol.annotationBytes snapshotReservedSpaceAnnotationKey

/-- The node of the volume holds it, and its copy covers the logical volume and
what is reserved for snapshots. -/
def Charged (a : Account) : Prop :=
  ∀ vol ∈ a.obj, ∀ lv ∈ a.disk.lv, ∀ node, a.state.nodeMap.lookup vol.spec.targetNodeId = some node →
    (∃ item ∈ node.volumes, item.name = vol.name) ∧
    ∀ item ∈ node.volumes, item.name = vol.name → (lv : ℤ) + reservedBytes vol ≤ item.getTotalSize

instance (a : Account) : Decidable (Charged a) :=
  match hObj : a.obj, hLv : a.disk.lv with
  | none, _ => isTrue (by simp [Charged, hObj])
  | some _, none => isTrue (by simp [Charged, hLv])
  | some vol, some lv =>
    match hNode : a.state.nodeMap.lookup vol.spec.targetNodeId with
    | none => isTrue (by simp [Charged, hObj, hNode])
    | some node =>
      decidable_of_iff ((∃ item ∈ node.volumes, item.name = vol.name) ∧
        ∀ item ∈ node.volumes, item.name = vol.name → (lv : ℤ) + reservedBytes vol ≤ item.getTotalSize)
        (by simp [Charged, hObj, hLv, hNode])

def Unbound (vol : AntstorVolume) (s : State) : Prop :=
  ∀ node, s.nodeMap.lookup vol.spec.targetNodeId = some node → ∀ item ∈ node.volumes, item.name ≠ vol.name

def ExpandsFirst (a : Account) : Action → Prop
  | .expand .. => ∀ vol ∈ a.obj, Unbound vol a.state ∧ vol.annotationAt allocatedSizeAnnoKey = none
  | _ => True

structure Recorded (vol : AntstorVolume) (disk : Disk) : Prop where
  unlabelled : vol.label expansionOriginalSize = none
  recorded : ∀ text, vol.annotationAt allocatedSizeAnnoKey = some text →
    ∃ lv : ℕ, 0 < lv ∧ disk.lv = some lv ∧ text = itoa (int64 lv)

def recordedSpec : Spec Call Write (Option AntstorVolume) Disk where
  permitted _ _ _ := True
  welcome _ _ _ := True
  inv obj disk := ∃ vol, obj = some vol ∧ vol.deletionTimestamp = none ∧ Recorded vol disk
  rel _ _ := True
  callable _ c _ _ := Additive c

variable {svc : PoolService} {vol other : AntstorVolume} {disk : Disk} {written : Bool}

namespace Recorded

theorem call (svc : PoolService) {c : Call} (h : Recorded vol disk) (hCall : Additive c)
    (ans : VolumeSyncer.Answers) : Recorded vol (perform svc c ans disk).2 := by
  refine ⟨h.unlabelled, fun text hText => ?_⟩
  obtain ⟨lv, hPos, hLv, hValue⟩ := h.recorded text hText
  exact ⟨lv, hPos, perform_lv svc hCall hLv ans, hValue⟩

theorem frame (h : Recorded vol disk) (hFrame : Frame vol other) : Recorded other disk := by
  refine ⟨?_, fun text hText => h.recorded text ?_⟩
  · rw [ObjectMeta.label, hFrame.labels]
    exact h.unlabelled
  · rw [ObjectMeta.annotationAt, ← hFrame.annotations]
    exact hText

theorem withAllocated {lv : ℕ} (h : Recorded vol disk) (hPos : 0 < lv) (hLv : disk.lv = some lv) :
    Recorded (withAllocated vol lv) disk := by
  refine ⟨h.unlabelled, fun text hText => ⟨lv, hPos, hLv, ?_⟩⟩
  rw [ObjectMeta.annotationAt, VolumeSyncer.withAllocated, FiniteMap.find_put_self, Option.some_inj] at hText
  exact hText.symm

theorem inv_update (h : Recorded other disk) (hLive : vol.deletionTimestamp = none) :
    recordedSpec.inv (Write.apply (.update other) (some vol)) disk :=
  ⟨_, finalize_live hLive, hLive, h.unlabelled, h.recorded⟩

end Recorded

theorem getVolume_lv (svc : PoolService) {name : String} {ans : VolumeSyncer.Answers} {size : ℕ}
    (h : (perform svc (.getVolume name) ans disk).1 = some size) (hPos : 0 < size) : disk.lv = some size := by
  change (if ans.fails = true then none else some (disk.lv.getD 0)) = some size at h
  split at h
  · cases h
  · cases hLv : disk.lv with
    | none =>
      rw [hLv] at h
      cases h
      exact absurd hPos (Nat.lt_irrefl 0)
    | some lv =>
      rw [hLv] at h
      exact h

section

variable (hLive : vol.deletionTimestamp = none)
include hLive

theorem applyAllocatedSize_meets (h : Recorded vol disk) :
    recordedSpec.Meets (agent svc) (some vol) (fun other _ disk => Recorded vol disk ∧ Recorded other disk)
      (applyAllocatedSize vol) written disk := by
  unfold applyAllocatedSize
  split
  · have hGet : recordedSpec.Meets (agent svc) (some vol)
        (fun size _ disk => Recorded vol disk ∧ (0 < size → disk.lv = some size))
        (Prog.fetch (.getVolume vol.name) id) written disk :=
      Spec.meets_fetch trivial fun obj _ ans size hSize => ⟨h, getVolume_lv svc hSize⟩
    refine hGet.bind fun size written disk hMid => ?_
    split
    · rename_i hSize
      have hNew := hMid.1.withAllocated hSize.1 (hMid.2 hSize.1)
      exact ⟨rfl, hNew.inv_update hLive, hMid.1, hNew⟩
    · exact ⟨hMid.1, hMid.1⟩
  · exact ⟨h, h⟩

theorem meets_of_bringsUp {β : Type} {post : β → Prop} {p : Pass β} (hp : BringsUp other post p)
    (h : Recorded vol disk ∧ Recorded other disk) :
    recordedSpec.Meets (agent svc) (some vol)
      (fun b _ disk => post b ∧ Recorded vol disk ∧ Recorded other disk) p written disk := by
  refine Spec.meets_of_all (fun disk => Recorded vol disk ∧ Recorded other disk) hp h ?_ ?_
  · intro c hCall written disk h
    exact ⟨hCall, fun ans => ⟨h.1.call svc hCall ans, h.2.call svc hCall ans⟩⟩
  · rintro _ (⟨new, rfl, hFrame⟩ | ⟨new, rfl⟩) disk h
    · exact ⟨rfl, (h.2.frame hFrame).inv_update hLive⟩
    · exact ⟨rfl, _, finalize_live hLive, hLive, h.1.unlabelled, h.1.recorded⟩

theorem syncOneVolume_meets (h : Recorded vol disk) :
    recordedSpec.Meets (agent svc) (some vol) (fun _ _ _ => True) (syncOneVolume svc vol) false disk := by
  rw [syncOneVolume]
  split
  · trivial
  · rw [if_neg (by simp [hLive]), expandVolume_of_unlabelled h.unlabelled]
    have hApply : recordedSpec.Meets (agent svc) (some vol)
        (fun other _ disk => Recorded vol disk ∧ Recorded other disk) (applyVolume vol) false disk :=
      (applyAllocatedSize_meets hLive h).bind fun other _ _ hMid =>
        (meets_of_bringsUp hLive applyAllowHosts_bringsUp hMid).bind fun _ _ _ hEnd => hEnd.2
    exact hApply.bind fun other _ _ hMid =>
      (meets_of_bringsUp hLive (bringUp_bringsUp svc other) hMid).mono fun _ _ _ _ => trivial

end

theorem recordedSpec_valid (svc : PoolService) : recordedSpec.Valid (agent svc) where
  refl _ := trivial
  program := by
    rintro _ disk ⟨vol, rfl, hLive, h⟩
    exact syncOneVolume_meets hLive h
  call := by
    rintro copy c written ans _ disk ⟨vol, rfl, hLive, h⟩ - hCall -
    exact ⟨vol, rfl, hLive, h.call svc hCall ans⟩
  writer := by
    rintro ans copy w obj disk hWriter
    cases hWriter

structure Alike (vol other : AntstorVolume) : Prop where
  name : other.name = vol.name
  sizeByte : other.spec.sizeByte = vol.spec.sizeByte
  targetNodeId : other.spec.targetNodeId = vol.spec.targetNodeId

def SameCopies (vol : AntstorVolume) (s : State) : Prop :=
  ∀ node, s.nodeMap.lookup vol.spec.targetNodeId = some node →
    node.NamesDistinct ∧ ∀ item ∈ node.volumes, item.name = vol.name → item.spec.sizeByte = vol.spec.sizeByte

theorem SameCopies.alike {s : State} (h : SameCopies vol s) (hAlike : Alike vol other) : SameCopies other s := by
  intro node hNode
  rw [hAlike.targetNodeId] at hNode
  rw [hAlike.name, hAlike.sizeByte]
  exact h node hNode

structure Kept (a : Account) (vol : AntstorVolume) : Prop where
  obj : a.obj = some vol
  live : vol.deletionTimestamp = none
  recorded : Recorded vol a.disk
  target : vol.spec.targetNodeId ≠ ""
  copies : SameCopies vol a.state

theorem alike_of_carries {w : Write} (hLive : vol.deletionTimestamp = none) (hw : Carries (SameSize vol) w) :
    ∃ other, w.apply (some vol) = some other ∧ Alike vol other := by
  obtain ⟨new, rfl, hSame⟩ | ⟨new, rfl⟩ := hw
  · exact ⟨_, finalize_live hLive, rfl, hSame.sizeByte, hSame.targetNodeId⟩
  · exact ⟨_, finalize_live hLive, rfl, rfl, rfl⟩

theorem Kept.sync {a : Account} (h : Kept a vol) (ans : Call → VolumeSyncer.Answers) :
    ∃ other, Kept (step svc a (.sync ans)) other := by
  have hInv := ((recordedSpec_valid svc).program (some vol) a.disk ⟨vol, rfl, h.live, h.recorded⟩).exec
    (recordedSpec_valid svc) (fun _ _ _ => trivial) (fun _ => rfl) ⟨vol, rfl, h.live, h.recorded⟩ ans
  have hObject := (agent svc).exec_object (syncOneVolume_all svc h.live h.recorded.unlabelled) ans (some vol) a.disk
  obtain ⟨other, hOther, hLive, hRecorded⟩ := hInv
  have hAlike : Alike vol other := by
    obtain hSame | ⟨w, hw, hWrite⟩ := hObject
    · cases hOther.symm.trans hSame
      exact ⟨rfl, rfl, rfl⟩
    · obtain ⟨written, hWritten, hAlike⟩ := alike_of_carries h.live hw
      cases hOther.symm.trans (hWrite.trans hWritten)
      exact hAlike
  refine ⟨other, ?_, hLive, ?_, hAlike.targetNodeId ▸ h.target, h.copies.alike hAlike⟩
  · rw [step, h.obj]
    exact hOther
  · rw [step, h.obj]
    exact hRecorded

theorem Kept.expand {a : Account} (h : Kept a vol) {requestSize : ℤ} {ans : Call → VolumeSyncer.Answers}
    (hFirst : ExpandsFirst a (.expand requestSize ans)) :
    ∃ other, Kept (step svc a (.expand requestSize ans)) other := by
  obtain ⟨hUnbound, hAnnotation⟩ := hFirst vol h.obj
  rw [step, h.obj]
  dsimp only
  split
  · rename_i hUnlabelled
    obtain ⟨other, hOther, hLabel⟩ := hUnlabelled
    have hObject := (agent svc).exec_object (expandVolume_all (resizePV requestSize vol)) ans
      (some (resizePV requestSize vol)) a.disk
    have hResized : other = { resizePV requestSize vol with
        labels := FiniteMap.drop (resizePV requestSize vol).labels expansionOriginalSize } := by
      obtain hSame | ⟨w, rfl, hWrite⟩ := hObject
      · cases hSame.symm.trans hOther
        rw [resizePV_label] at hLabel
        cases hLabel
      · exact Option.some.inj (hOther.symm.trans (hWrite.trans (finalize_live h.live)))
    subst hResized
    refine ⟨_, hOther, h.live, ⟨hLabel, fun text hText => ?_⟩, h.target, fun node hNode => ?_⟩
    · cases hAnnotation.symm.trans hText
    · exact ⟨(h.copies node hNode).1, fun item hItem hName => absurd hName (hUnbound node hNode item hItem)⟩
  · exact ⟨vol, h⟩

theorem kept_write {w : Write} (hLive : vol.deletionTimestamp = none) (h : Recorded vol disk)
    (hw : (∃ new, w = .updateStatus new) ∨ ∃ labels finalizers, w = .patch labels finalizers none ∧
      ∀ entry ∈ labels, entry.1 ≠ expansionOriginalSize) :
    ∃ other, w.apply (some vol) = some other ∧ other.deletionTimestamp = none ∧ Recorded other disk ∧
      Alike vol other ∧ other.annotations = vol.annotations := by
  obtain ⟨new, rfl⟩ | ⟨labels, finalizers, rfl, hLabels⟩ := hw
  · exact ⟨_, finalize_live hLive, hLive, ⟨h.unlabelled, h.recorded⟩, ⟨rfl, rfl, rfl⟩, rfl⟩
  · refine ⟨_, finalize_live hLive, hLive, ⟨?_, h.recorded⟩, ⟨rfl, rfl, rfl⟩, rfl⟩
    exact (FiniteMap.find_foldl_put hLabels).trans h.unlabelled

theorem addVolume_copies {n : Node} (hNames : n.NamesDistinct)
    (hSizes : ∀ item ∈ n.volumes, item.name = vol.name → item.spec.sizeByte = vol.spec.sizeByte) :
    (∃ item ∈ (n.addVolume vol).1.volumes, item.name = vol.name) ∧
      ∀ item ∈ (n.addVolume vol).1.volumes, item.name = vol.name → item = n.resident vol := by
  rcases n.addVolume_cases vol hNames with
    ⟨hAbsent, hEq⟩ | ⟨before, old, after, hSplit, hOld, _, hEq⟩ | ⟨old, hMem, hName, hSize, _⟩
  · rw [hEq, Node.refresh_volumes]
    refine ⟨⟨n.resident vol, by simp, rfl⟩, fun item hItem hName => ?_⟩
    rcases List.mem_append.mp hItem with hItem | hItem
    · exact absurd hName (hAbsent item hItem)
    · exact List.mem_singleton.mp hItem
  · rw [hEq, Node.refresh_volumes]
    refine ⟨⟨n.resident vol, by simp, rfl⟩, fun item hItem hName => ?_⟩
    rw [Node.NamesDistinct, hSplit, List.map_append, List.map_cons, List.nodup_middle, List.nodup_cons,
      ← List.map_append] at hNames
    have hOthers : item ∉ before ++ after := fun hMem =>
      hNames.1 (List.mem_map.mpr ⟨item, hMem, hName.trans hOld.symm⟩)
    rcases List.mem_append.mp hItem with hItem | hItem
    · exact absurd (List.mem_append_left after hItem) hOthers
    · rcases List.mem_cons.mp hItem with rfl | hItem
      · rfl
      · exact absurd (List.mem_append_right before hItem) hOthers
  · exact absurd (hSizes old hMem hName) hSize

theorem bind_lookup {s : State} {node : Node} (hUuid : vol.spec.uuid ≠ "")
    (h : (s.bindAntstorVolume vol.spec.targetNodeId vol).1.nodeMap.lookup vol.spec.targetNodeId = some node) :
    ∃ n, s.nodeMap.lookup vol.spec.targetNodeId = some n ∧ node = (n.addVolume vol).1 := by
  rw [State.bindAntstorVolume_lookup, if_pos rfl] at h
  obtain ⟨n, hn, rfl⟩ := Option.map_eq_some_iff.mp h
  exact ⟨n, hn, if_neg hUuid⟩

theorem SameCopies.bind {s : State} (h : SameCopies vol s) (hUuid : vol.spec.uuid ≠ "") :
    SameCopies vol (s.bindAntstorVolume vol.spec.targetNodeId vol).1 := by
  intro node hNode
  obtain ⟨n, hn, rfl⟩ := bind_lookup hUuid hNode
  obtain ⟨hNames, hSizes⟩ := h n hn
  refine ⟨Node.namesDistinct_addVolume vol hNames, fun item hItem hName => ?_⟩
  rw [(addVolume_copies hNames hSizes).2 item hItem hName]
  rfl

theorem uuid_of_validate (h : validate vol = .ok ()) : vol.spec.uuid ≠ "" := by
  intro hUuid
  rw [validate, if_pos hUuid] at h
  cases h

theorem Kept.reconcile (svc : PoolService) {a : Account} (h : Kept a vol) (ans : Answers) :
    ∃ other, Kept (step svc a (.reconcile ans)) other ∧ Alike vol other ∧ other.annotations = vol.annotations := by
  have hBinds := handleReconcile_binds ans a.state h.target
  have hReconcile : VolumeReconciler.reconcile ans a.state vol = handleReconcile ans a.state vol :=
    if_neg (by simp [h.live])
  rw [step, h.obj]
  dsimp only
  rw [hReconcile]
  generalize handleReconcile ans a.state vol = out at hBinds
  have hState : SameCopies vol out.state := by
    cases hBinds with
    | leave hw => exact h.copies
    | bind hValid =>
      rw [bindTarget_state]
      exact h.copies.bind (uuid_of_validate hValid)
  cases hWrite : out.write with
  | none =>
    exact ⟨vol, ⟨rfl, h.live, h.recorded, h.target, hState⟩, ⟨rfl, rfl, rfl⟩, rfl⟩
  | some w =>
    have hw : (∃ new, w = .updateStatus new) ∨ ∃ labels finalizers, w = .patch labels finalizers none ∧
        ∀ entry ∈ labels, entry.1 ≠ expansionOriginalSize := by
      refine (hBinds.write hWrite).imp_right ?_
      rintro ⟨labels, finalizers, rfl, hLabels⟩
      refine ⟨labels, finalizers, rfl, fun entry hEntry hKey => ?_⟩
      rcases hKey ▸ hLabels entry hEntry with hUuid | hTarget
      · exact absurd hUuid (by decide)
      · exact absurd hTarget (by decide)
    obtain ⟨other, hOther, hLive, hRecorded, hAlike, hAnnotations⟩ := kept_write h.live h.recorded hw
    exact ⟨other, ⟨hOther, hLive, hRecorded, hAlike.targetNodeId ▸ h.target, hState.alike hAlike⟩, hAlike,
      hAnnotations⟩

structure Fresh (a : Account) (vol : AntstorVolume) : Prop where
  obj : a.obj = some vol
  disk : a.disk.lv = none
  live : vol.deletionTimestamp = none
  unlabelled : vol.label expansionOriginalSize = none
  unrecorded : vol.annotationAt allocatedSizeAnnoKey = none
  target : vol.spec.targetNodeId ≠ ""
  copies : SameCopies vol a.state

theorem Fresh.kept {a : Account} (h : Fresh a vol) : Kept a vol := by
  refine ⟨h.obj, h.live, ⟨h.unlabelled, fun text hText => ?_⟩, h.target, h.copies⟩
  cases h.unrecorded.symm.trans hText

theorem run_kept {a : Account} {actions : List Action} (h : Kept a vol)
    (hFirst : Runs.Guarded (step svc) ExpandsFirst a actions) :
    ∃ other, Kept (Runs.run (step svc) a actions) other := by
  have hAlways : Runs.Always (step svc) (fun a => ∃ vol, Kept a vol) a actions := by
    refine hFirst.always ⟨vol, h⟩ ?_
    rintro a action ⟨vol, h⟩ hFirst
    cases action with
    | sync ans => exact h.sync ans
    | expand requestSize ans => exact h.expand hFirst
    | reconcile ans =>
      obtain ⟨other, hOther, _⟩ := h.reconcile svc ans
      exact ⟨other, hOther⟩
  exact hAlways.run

theorem Recorded.le_getTotalSize {lv : ℕ} (h : Recorded vol disk) (hLv : disk.lv = some lv)
    (hCovers : vol.annotationAt allocatedSizeAnnoKey ≠ none ∨ lv ≤ vol.spec.sizeByte)
    (hReserved : 0 ≤ reservedBytes vol) (hLvFits : (lv : ℤ) + reservedBytes vol < 2 ^ 63)
    (hSizeFits : (vol.spec.sizeByte : ℤ) + reservedBytes vol < 2 ^ 63) :
    (lv : ℤ) + reservedBytes vol ≤ vol.getTotalSize := by
  unfold reservedBytes at *
  rw [AntstorVolume.getTotalSize]
  cases hText : vol.annotationAt allocatedSizeAnnoKey with
  | none =>
    have hAllocated : vol.annotationBytes allocatedSizeAnnoKey = 0 := by
      rw [AntstorVolume.annotationBytes, hText]
    have hLe : lv ≤ vol.spec.sizeByte := hCovers.resolve_left (not_not.mpr hText)
    simp only [hAllocated, lt_irrefl, if_false, uint64]
    omega
  | some text =>
    obtain ⟨lv', hPos, hLv', hValue⟩ := h.recorded text hText
    cases hLv.symm.trans hLv'
    have hAllocated : vol.annotationBytes allocatedSizeAnnoKey = lv := by
      rw [AntstorVolume.annotationBytes, hText, hValue, int64_of_inInt64 ⟨by omega, by omega⟩]
      exact congrArg Prod.fst (atoi_itoa (by omega))
    simp only [hAllocated]
    rw [if_pos (by omega), int64_of_inInt64 ⟨by omega, by omega⟩, uint64]
    omega

/-- In a history whose expansions come before the binding and the annotation, a
reconcile that binds the volume, when its size is recorded or was not rounded
up, leaves the ledger with what is allocated. -/
theorem reconcile_charged {a : Account} {actions : List Action} {ans : Answers} {current : AntstorVolume}
    (hFresh : Fresh a vol) (hFirst : Runs.Guarded (step svc) ExpandsFirst a actions)
    (hObj : (Runs.run (step svc) a actions).obj = some current) (hValid : validate current = .ok ())
    (hStop : current.spec.stopReconcile = false)
    (hCovers : ∀ lv ∈ (Runs.run (step svc) a actions).disk.lv,
      current.annotationAt allocatedSizeAnnoKey ≠ none ∨ lv ≤ current.spec.sizeByte)
    (hReserved : 0 ≤ reservedBytes current)
    (hLvFits : ∀ lv ∈ (Runs.run (step svc) a actions).disk.lv, (lv : ℤ) + reservedBytes current < 2 ^ 63)
    (hSizeFits : (current.spec.sizeByte : ℤ) + reservedBytes current < 2 ^ 63) :
    Charged (Runs.run (step svc) a (actions ++ [.reconcile ans])) := by
  obtain ⟨known, h⟩ := run_kept hFresh.kept hFirst
  cases h.obj.symm.trans hObj
  rw [Runs.run_append]
  generalize Runs.run (step svc) a actions = b at *
  change Charged (step svc b (.reconcile ans))
  obtain ⟨other, hOther, hAlike, hAnnotations⟩ := h.reconcile svc ans
  have hState : (step svc b (.reconcile ans)).state =
      (b.state.bindAntstorVolume current.spec.targetNodeId current).1 := by
    rw [step, h.obj]
    dsimp only
    rw [reconcile_of_valid h.live hStop h.target hValid, bindTarget_state]
  have hDisk : (step svc b (.reconcile ans)).disk = b.disk := by
    rw [step, h.obj]
  have hSame : reservedBytes other = reservedBytes current := by
    simp only [reservedBytes, AntstorVolume.annotationBytes, ObjectMeta.annotationAt, hAnnotations]
  intro vol' hVol lv hLv node hNode
  cases hOther.obj.symm.trans hVol
  rw [hDisk] at hLv
  rw [hState, hAlike.targetNodeId] at hNode
  obtain ⟨n, hn, rfl⟩ := bind_lookup (uuid_of_validate hValid) hNode
  obtain ⟨hNames, hSizes⟩ := h.copies n hn
  obtain ⟨hExists, hCopies⟩ := addVolume_copies hNames hSizes
  rw [hAlike.name, hSame]
  refine ⟨hExists, fun item hItem hName => ?_⟩
  rw [hCopies item hItem hName, Node.resident_getTotalSize]
  exact h.recorded.le_getTotalSize hLv (hCovers lv hLv) hReserved (hLvFits lv hLv) hSizeFits

def linearPool : StoragePool where
  name := "node-a"
  spec := { nodeInfo := { id := "node-a", ip := "10.0.0.1" }, kernelLVM := { name := "vg", bytes := 64 * fourMiB } }
  status := { status := .ready }

def linearService : PoolService := { storagePool := linearPool }

def linearAccount (sizeByte : ℕ) : Account where
  obj := some
    { name := "vol"
      labels := some (Finmap.singleton uuidLabelKey "u")
      annotations := some (Finmap.singleton lvLayoutAnnoKey "linear")
      spec := { uuid := "u", type := .kernelLVol, sizeByte := sizeByte, targetNodeId := "node-a",
                hostNode := some { id := "node-a" } }
      status := { status := .creating } }
  state := State.newState.setStoragePool Kube.exact linearPool

def bringUpHistory : List Action := [.reconcile {}, .sync fun _ => {}, .sync fun _ => {}]

def recordedHistory : List Action := bringUpHistory ++ [.sync fun _ => {}]

theorem linearAccount_fresh (sizeByte : ℕ) : ∃ vol, Fresh (linearAccount sizeByte) vol := by
  have hLabel : FiniteMap.find (some (Finmap.singleton uuidLabelKey "u")) expansionOriginalSize = none := by
    decide
  have hAnnotation : FiniteMap.find (some (Finmap.singleton lvLayoutAnnoKey "linear")) allocatedSizeAnnoKey =
      none := by
    decide
  have hTarget : ("node-a" : String) ≠ "" := by
    decide
  refine ⟨_, rfl, rfl, rfl, hLabel, hAnnotation, hTarget, fun node hNode => ?_⟩
  have hEmpty : node.volumes = [] := by
    cases hNode
    rfl
  rw [Node.NamesDistinct, hEmpty]
  exact ⟨List.nodup_nil, fun item hItem => absurd hItem List.not_mem_nil⟩

theorem recordedHistory_charged :
    (Runs.run (step linearService) (linearAccount (2 * fourMiB + 1)) recordedHistory).disk.lv = some (3 * fourMiB) ∧
      Charged (Runs.run (step linearService) (linearAccount (2 * fourMiB + 1)) (recordedHistory ++ [.reconcile {}])) := by
  obtain ⟨vol, hFresh⟩ := linearAccount_fresh (2 * fourMiB + 1)
  have hObj : (Runs.run (step linearService) (linearAccount (2 * fourMiB + 1)) recordedHistory).obj =
      some ((Runs.run (step linearService) (linearAccount (2 * fourMiB + 1)) recordedHistory).obj.getD {}) := by
    decide +kernel
  refine ⟨by decide +kernel, reconcile_charged hFresh ⟨trivial, trivial, trivial, trivial, trivial⟩
    hObj ?_ ?_ ?_ ?_ ?_ ?_⟩ <;> decide +kernel

/-- An expansion of the bound volume, and the reconcile after it. -/
theorem expandedHistory_not_charged :
    ¬ Charged (Runs.run (step linearService) (linearAccount (2 * fourMiB))
      (bringUpHistory ++ [.expand (3 * fourMiB) fun _ => {}] ++ [.reconcile {}])) := by
  decide +kernel

end Liteio.VolumeReconciler
