import Liteio.Library.Tasks
import Liteio.Reconciler.Provisioning
import Liteio.Scheduler.Limits
import Liteio.State.FreeCache

/-! # A volume comes up

Rounds of the controller and the agent that nothing disturbs: the controller
schedules the volume to its node and binds it there, and no call of the agent
fails. Each pass does the next thing that is to be done and stops. What is left
of the labels, the binding and the status for the controller, and of the type, the
logical volume, the target and the status for the agent, is counted; a round does
one of these things at least, whatever passes before it have left undone.
-/

namespace Liteio.VolumeReconciler

open Worker VolumeSyncer Optimistic Tasks

variable {svc : PoolService} {node : String} {base vol : AntstorVolume} {disk : Disk}

/-! ## The state of the controller -/

structure NodeAdmits (node : String) (base : AntstorVolume) (n : Node) : Prop where
  info : n.info.id = node
  names : n.NamesDistinct
  sizes : ∀ item ∈ n.volumes, item.name = base.name → item.spec.sizeByte = base.spec.sizeByte
  targets : ∀ item ∈ n.volumes, item.spec.uuid = base.spec.uuid → item.spec.targetNodeId = node

structure Admits (node : String) (base : AntstorVolume) (s : State) : Prop where
  known : ∃ n, s.nodeMap.lookup node = some n ∧ NodeAdmits node base n
  indexed : ∀ other, s.volIDMap.lookup base.spec.uuid = some other → other = node

theorem mem_addVolume {n : Node} {item : AntstorVolume} (hNames : n.NamesDistinct)
    (h : item ∈ (n.addVolume vol).1.volumes) : item ∈ n.volumes ∨ item = n.resident vol := by
  rcases Placement.addVolume_volumes vol hNames with hSame | ⟨before, after, hOld, hEq⟩
  · exact .inl (hSame ▸ h)
  · rw [hEq, List.mem_append, List.mem_cons] at h
    rcases h with hBefore | hNew | hAfter
    · exact .inl (hOld.subset (List.mem_append_left after hBefore))
    · exact .inr hNew
    · exact .inl (hOld.subset (List.mem_append_right before hAfter))

theorem NodeAdmits.addVolume {n : Node} (h : NodeAdmits node base n) (hAsked : Asked base vol) :
    (n.addVolume vol).2 = false ∧ NodeAdmits node base (n.addVolume vol).1 := by
  have hAccepts : (n.addVolume vol).2 = false := by
    rw [← Bool.not_eq_true, Node.addVolume_fails_iff h.names]
    rintro ⟨item, hItem, hName, hSize⟩
    exact hSize ((h.sizes item hItem (hName.trans hAsked.name)).trans hAsked.sizeByte.symm)
  refine ⟨hAccepts, ?_, Node.namesDistinct_addVolume vol h.names, fun item hItem hName => ?_, fun item hItem hUuid => ?_⟩
  · rw [Node.info, Node.addVolume_pool]
    exact h.info
  · rcases mem_addVolume h.names hItem with hOld | rfl
    · exact h.sizes item hOld hName
    · exact hAsked.sizeByte
  · rcases mem_addVolume h.names hItem with hOld | rfl
    · exact h.targets item hOld hUuid
    · exact h.info

theorem Admits.bind {s : State} (h : Admits node base s) (hAsked : Asked base vol) (hUuid : base.spec.uuid ≠ "") :
    ∃ s', s.bindAntstorVolume node vol = (s', none) ∧ Admits node base s' := by
  obtain ⟨n, hn, hNode⟩ := h.known
  obtain ⟨hAccepts, hAdmits⟩ := hNode.addVolume hAsked
  refine ⟨{ s.setNode node (n.addVolume vol).1 with volIDMap := s.volIDMap.insert vol.spec.uuid node }, ?_,
    ⟨⟨_, Finmap.lookup_insert _, hAdmits⟩, fun other hOther => ?_⟩⟩
  · rw [State.bindAntstorVolume_eq hn (hAsked.uuid ▸ hUuid), hAccepts, if_neg Bool.false_ne_true]
  · rw [← hAsked.uuid, Finmap.lookup_insert] at hOther
    exact (Option.some.inj hOther).symm

theorem Admits.bound {s : State} (h : Admits node base s) {found : AntstorVolume}
    (hFound : s.getVolumeByID base.spec.uuid = .ok found) : found.spec.targetNodeId = node := by
  obtain ⟨n, hn, hNode⟩ := h.known
  unfold State.getVolumeByID at hFound
  split at hFound
  · cases hFound
  next id hId =>
    cases h.indexed id hId
    rw [hn] at hFound
    dsimp only at hFound
    split at hFound
    next hItem =>
      cases hFound
      exact hNode.targets found (List.mem_of_find?_eq_some hItem) (by simpa using List.find?_some hItem)
    · cases hFound

/-! ## What is to be done -/

inductive Task where
  | uuidLabel
  | status
  | node
  | binding
  | type
  | logicVolume
  | access
  deriving DecidableEq

instance : Fintype Task where
  elems := {.uuidLabel, .status, .node, .binding, .type, .logicVolume, .access}
  complete t := by cases t <;> decide

def Done (vol : AntstorVolume) : Task → Prop
  | .uuidLabel => vol.label uuidLabelKey ≠ none
  | .status => vol.status.status ≠ .unset
  | .node => vol.spec.targetNodeId ≠ ""
  | .binding => vol.label targetNodeIdLabelKey ≠ none ∧ inStateFinalizer ∈ vol.finalizers
  | .type => vol.spec.type ≠ .flexible
  | .logicVolume => hasLogicVolFinalizer vol = true
  | .access => spdkTargetFinalizer ∈ vol.finalizers

/-! ## A pass of the controller -/

def Outcome.after (out : Outcome) (vol : AntstorVolume) : AntstorVolume :=
  match out.write with
  | some w => w.applyTo vol
  | none => vol

theorem label_patch (vol : AntstorVolume) (key value : String) (finalizers : Option (List String))
    (targetNodeId : Option String) (other : String) :
    ((Write.patch [(key, value)] finalizers targetNodeId).applyTo vol).label other =
      if other = key then some value else vol.label other :=
  FiniteMap.find_put _ _ _ _

theorem validate_ok (hUuid : vol.spec.uuid ≠ "") (hLabel : vol.label uuidLabelKey ≠ none)
    (hStatus : vol.status.status ≠ .unset)
    (hLayout : ∀ val ∈ vol.annotationAt lvLayoutAnnoKey, val ∈ ["", "linear", "striped"]) :
    validate vol = .ok () := by
  rw [validate, if_neg hUuid, if_neg hLabel, if_neg hStatus]
  split
  next val hVal => exact if_pos (hLayout val hVal)
  · rfl

theorem persistBinding_eq_none_iff :
    persistBinding vol = none ↔ vol.label targetNodeIdLabelKey ≠ none ∧ inStateFinalizer ∈ vol.finalizers := by
  unfold persistBinding missingLabels missingFinalizers
  split_ifs <;> simp_all

theorem keeps_of {new : AntstorVolume} (hLabels : ∀ key, vol.label key ≠ none → new.label key ≠ none)
    (hFinalizers : ∀ item ∈ vol.finalizers, item ∈ new.finalizers)
    (hStatus : vol.status.status ≠ .unset → new.status.status ≠ .unset)
    (hNode : vol.spec.targetNodeId ≠ "" → new.spec.targetNodeId ≠ "")
    (hType : vol.spec.type ≠ .flexible → new.spec.type ≠ .flexible) : Keeps Done vol new := by
  intro t ht
  cases t with
  | uuidLabel => exact hLabels _ ht
  | status => exact hStatus ht
  | node => exact hNode ht
  | binding => exact ⟨hLabels _ ht.1, hFinalizers _ ht.2⟩
  | type => exact hType ht
  | logicVolume =>
    obtain ⟨item, hItem, hLogic⟩ := hasLogicVolFinalizer_iff.mp ht
    exact hasLogicVolFinalizer_iff.mpr ⟨item, hFinalizers item hItem, hLogic⟩
  | access => exact hFinalizers _ ht

theorem keeps_creating :
    Keeps Done vol ((Write.updateStatus { vol with status := { vol.status with status := .creating } }).applyTo vol) :=
  keeps_of (fun _ h => h) (fun _ h => h) (fun _ hUnset => by cases hUnset) (fun h => h) fun h => h

theorem keeps_patch {labels : List (String × String)} {finalizers : Option (List String)} {targetNodeId : Option String}
    (hFinalizers : ∀ new ∈ finalizers, ∀ item ∈ vol.finalizers, item ∈ new) (hNode : ∀ id ∈ targetNodeId, id ≠ "") :
    Keeps Done vol ((Write.patch labels finalizers targetNodeId).applyTo vol) := by
  refine keeps_of (fun key h => ?_) ?_ (fun h => h) ?_ fun h => h
  · change FiniteMap.find (labels.foldl (fun m entry => FiniteMap.put m entry.1 entry.2) vol.labels) key ≠ none
    induction labels using List.reverseRecOn with
    | nil => exact h
    | append_singleton entries entry ih =>
      rw [List.foldl_append, List.foldl_cons, List.foldl_nil, FiniteMap.find_put]
      split
      · exact Option.some_ne_none _
      · exact ih
  · cases finalizers with
    | none => exact fun _ h => h
    | some new => exact hFinalizers new rfl
  · cases targetNodeId with
    | none => exact fun h => h
    | some id => exact fun _ => hNode id rfl

theorem label_persisted (vol : AntstorVolume) :
    ((Write.patch (missingLabels vol) (missingFinalizers vol) none).applyTo vol).label targetNodeIdLabelKey ≠ none := by
  unfold missingLabels
  split
  · rw [label_patch, if_pos rfl]
    exact Option.some_ne_none _
  · assumption

theorem finalizers_persisted (vol : AntstorVolume) :
    inStateFinalizer ∈ ((Write.patch (missingLabels vol) (missingFinalizers vol) none).applyTo vol).finalizers := by
  change inStateFinalizer ∈ (missingFinalizers vol).getD vol.finalizers
  unfold missingFinalizers
  split
  · assumption
  · exact List.mem_append_right _ (List.mem_singleton_self _)

theorem mem_missingFinalizers {new : List String} (h : new ∈ missingFinalizers vol) :
    new = vol.finalizers ++ [inStateFinalizer] :=
  (Option.some.inj (Option.ite_none_left_eq_some.mp h).2).symm

def Task.controller : Task → Bool
  | .uuidLabel | .status | .node | .binding => true
  | .type | .logicVolume | .access => false

def Schedules (node : String) (ans : Answers) : Prop := ∃ info, ans.scheduled = .node info ∧ info.id = node

structure Advances (svc : PoolService) (node : String) (base vol : AntstorVolume) (disk : Disk) (out : Outcome) : Prop where
  admits : Admits node base out.state
  intact : Intact svc node base (out.after vol) disk
  live : (out.after vol).deletionTimestamp = none
  status : (out.after vol).status.status = .ready ↔ vol.status.status = .ready
  advances : Does Done vol (out.after vol) ∨
    out.after vol = vol ∧ ∀ t : Task, t.controller = true → Done vol t

section

variable (hBase : Provisionable svc node base) (hLive : vol.deletionTimestamp = none)
  (h : Intact svc node base vol disk)

include h hLive in
theorem advances_write {s : State} {w : Write} {t : Task} (hState : Admits node base s) (hw : Controls vol w)
    (hWelcome : (provisioningGuards node).welcome w (some vol) disk)
    (hStatus : (w.applyTo vol).status.status = .ready ↔ vol.status.status = .ready) (hKeeps : Keeps Done vol (w.applyTo vol))
    (hOld : ¬ Done vol t) (hNew : Done (w.applyTo vol) t) :
    Advances svc node base vol disk { state := s, write := some w } := by
  refine ⟨hState, h.controlled hw (fun _ => rfl) hWelcome, ?_, hStatus, .inl (hKeeps.does hOld hNew)⟩
  cases hw with
  | bound | updateStatus | patch => exact hLive

include hBase hLive h in
theorem bindTarget_advances {s : State} (hState : Admits node base s) (hTarget : vol.spec.targetNodeId ≠ "")
    (hTasks : Done vol .uuidLabel ∧ Done vol .status) :
    Advances svc node base vol disk (bindTarget s vol) := by
  have hNode : vol.spec.targetNodeId = node := h.target.resolve_left hTarget
  obtain ⟨s', hBind, hState'⟩ := hState.bind h.asked hBase.uuid
  rw [bindTarget, hNode, hBind]
  by_cases hBound : vol.label targetNodeIdLabelKey ≠ none ∧ inStateFinalizer ∈ vol.finalizers
  · rw [persistBinding_eq_none_iff.mpr hBound]
    refine ⟨hState', h, hLive, Iff.rfl, .inr ⟨rfl, fun t hController => ?_⟩⟩
    cases t with
    | uuidLabel => exact hTasks.1
    | status => exact hTasks.2
    | node => exact hTarget
    | binding => exact hBound
    | type | logicVolume | access => cases hController
  · have hWrite : persistBinding vol = some (.patch (missingLabels vol) (missingFinalizers vol) none) := by
      rw [persistBinding, if_neg fun hNone => hBound (persistBinding_eq_none_iff.mp (if_pos hNone))]
    rw [hWrite]
    have hKeeps : Keeps Done vol ((Write.patch (missingLabels vol) (missingFinalizers vol) none).applyTo vol) :=
      keeps_patch (fun _ hNew _ hItem => mem_missingFinalizers hNew ▸ List.mem_append_left _ hItem)
        fun _ hId => by cases hId
    refine advances_write hLive h hState' (controls_persisted vol) ⟨fun _ hId => (by cases hId), ?_⟩ Iff.rfl hKeeps
      (t := .binding) hBound ⟨label_persisted vol, finalizers_persisted vol⟩
    rintro _ ⟨⟩ _ hNew
    exact mem_missingFinalizers hNew

include hBase hLive h in
theorem scheduleVolume_advances {s : State} (hState : Admits node base s) {ans : Answers} (hAns : Schedules node ans)
    (hTarget : vol.spec.targetNodeId = "") :
    Advances svc node base vol disk (scheduleVolume ans.scheduled s vol) := by
  have hUndone : ¬ Done vol .node := by simp [Done, hTarget]
  have hSchedule : Advances svc node base vol disk (schedule ans.scheduled s vol) := by
    obtain ⟨info, hScheduled, rfl⟩ := hAns
    obtain ⟨s', hBind, hState'⟩ := hState.bind h.asked hBase.uuid
    rw [hScheduled, schedule, hBind]
    refine advances_write hLive h hState' (controls_label _ _ _ (.inr rfl))
      ⟨fun id hId => (Option.some.inj hId).symm, fun _ _ _ hNew => (by cases hNew)⟩ Iff.rfl 
      (keeps_patch (fun _ hNew => (by cases hNew)) fun _ hId => Option.some.inj hId ▸ hBase.node) hUndone hBase.node
  unfold scheduleVolume
  split
  next found hFound =>
    have hNode : found.spec.targetNodeId = node := hState.bound (h.asked.uuid ▸ hFound)
    rw [if_pos (hNode ▸ hBase.node), hNode]
    exact advances_write hLive h hState (.bound node) (.inr rfl) Iff.rfl
      (keeps_of (fun _ h => h) (fun _ h => h) (fun h => h) (fun _ => hBase.node) fun h => h) hUndone hBase.node
  · exact hSchedule

include hBase hLive h in
theorem reconcile_advances {s : State} (hState : Admits node base s) {ans : Answers} (hAns : Schedules node ans) :
    Advances svc node base vol disk (reconcile ans s vol) := by
  have hUuid : vol.spec.uuid ≠ "" := h.asked.uuid ▸ hBase.uuid
  have hRunning : ¬ vol.spec.stopReconcile = true := by simp [h.asked.running, hBase.running]
  rw [reconcile, if_neg (by simp [hLive]), handleReconcile, if_neg hRunning, if_neg fun hBoth => hUuid hBoth.1]
  by_cases hLabel : vol.label uuidLabelKey = none
  · rw [validate, if_neg hUuid, if_pos hLabel, if_neg h.asked.labelled]
    exact advances_write hLive h hState (controls_label _ _ _ (.inl rfl))
      ⟨fun _ hId => (by cases hId), fun _ _ _ hNew => (by cases hNew)⟩ Iff.rfl
      (keeps_patch (fun _ hNew => (by cases hNew)) fun _ hId => (by cases hId)) (t := .uuidLabel)
      (by simp [Done, hLabel]) (by simp [Done, label_patch])
  by_cases hStatus : vol.status.status = .unset
  · rw [validate, if_neg hUuid, if_neg hLabel, if_pos hStatus]
    refine advances_write hLive h hState (.updateStatus _ fun hReady => (by cases hReady)) trivial ?_ keeps_creating
      (t := .status) (not_not.mpr hStatus) fun hUnset => by cases hUnset
    simp [Write.applyTo, hStatus]
  rw [validate_ok hUuid hLabel hStatus (h.asked.layout ▸ hBase.layout)]
  dsimp only
  split
  next hTarget =>
    exact bindTarget_advances hBase hLive h hState hTarget ⟨hLabel, hStatus⟩
  next hTarget => exact scheduleVolume_advances hBase hLive h hState hAns (not_not.mp hTarget)

end

/-! ## A pass of the agent -/

def Proceeds (vol : AntstorVolume) (w : Write) : Prop :=
  (w.applyTo vol).deletionTimestamp = none ∧
    ((w.applyTo vol).status.status = .ready ∨ Does Done vol (w.applyTo vol))

section

variable {ans : Call → LifeAnswers} (hAns : ∀ c, (ans c).fails = false)

include hAns in
theorem allowHosts_completes (hostNode : Option NodeInfo) :
    (life svc).Completes ans (fun _ disk' => disk' = disk) (allowHosts hostNode) disk := by
  unfold allowHosts
  split
  next host =>
    split
    · have hPool : (perform svc (.getStoragePool host.id) (ans (.getStoragePool host.id)).toAnswers disk).1 =
          some (ans (.getStoragePool host.id)).pool := by
        rw [perform, hAns]
        rfl
      have hGet : (life svc).Completes ans (fun _ disk' => disk' = disk)
          (Prog.fetch (.getStoragePool host.id) id) disk := Model.completes_fetch hPool rfl
      exact hGet.bind fun _ _ hSame => hSame
    · exact rfl
  · exact rfl

include hAns in
theorem applyAllowHosts_completes (vol : AntstorVolume) :
    (life svc).Completes ans (fun _ disk' => Grown base disk disk') (applyAllowHosts vol) disk := by
  unfold applyAllowHosts
  split
  next tgt _ =>
    refine (allowHosts_completes hAns _).bind ?_
    rintro hosts _ rfl
    have hCall : Making svc base (.exposeAccess { openAccess := targetOf tgt, allowHostNQN := hosts }) := trivial
    exact perform_grown hCall _
  · exact .inl rfl

include hAns in
theorem applyVolume_completes (base : AntstorVolume) (hStatus : vol.status.status ≠ .ready) :
    (life svc).Completes ans (fun other disk' => other = vol ∧ Grown base disk disk') (applyVolume vol) disk := by
  have hSize : applyAllocatedSize vol = .done vol := by
    rw [applyAllocatedSize, if_neg fun hBoth => hStatus hBoth.2]
    rfl
  rw [applyVolume, hSize]
  exact (applyAllowHosts_completes hAns vol).bind fun _ _ hGrown => ⟨rfl, hGrown⟩

variable (hLive : vol.deletionTimestamp = none)

theorem proceeds_update (hLive : vol.deletionTimestamp = none) {new : AntstorVolume} {added : List String} {t : Task}
    (hLabels : new.labels = vol.labels) (hFinalizers : new.finalizers = vol.finalizers ++ added)
    (hNode : new.spec.targetNodeId = vol.spec.targetNodeId)
    (hType : vol.spec.type ≠ .flexible → new.spec.type ≠ .flexible) (hOld : ¬ Done vol t)
    (hNew : Done ((Write.update new).applyTo vol) t) : Proceeds vol (.update new) := by
  refine ⟨hLive, .inr (Keeps.does ?_ hOld hNew)⟩
  refine keeps_of (fun key h => ?_) (fun item hItem => ?_) (fun h => h) (fun h => hNode.trans_ne h) hType
  · rw [ObjectMeta.label, ← hLabels] at h
    exact h
  · exact hFinalizers ▸ List.mem_append_left _ hItem

theorem settledType_ne (svc : PoolService) : settledType svc ≠ .flexible := by
  unfold settledType
  split <;> decide

include hAns in
theorem createVolume_obtained (h : Intact svc node base vol disk) {fsType lvLayout : String}
    (hFits : ∀ linear, svc.layOut vol.spec.sizeByte lvLayout linear = some vol.spec.sizeByte) :
    (perform svc (.createVolume vol.name vol.spec.sizeByte fsType lvLayout)
      (ans (.createVolume vol.name vol.spec.sizeByte fsType lvLayout)).toAnswers disk).1 = some (svc.devPath vol.name) := by
  rcases h.lv with hNone | hSome
  · simp only [perform, hNone, hFits, hAns]
    rfl
  · simp only [perform, hSome, hAns, h.asked.sizeByte]
    exact if_neg (by simp)

include hAns hLive in
theorem createVolume_sends (hBase : Provisionable svc node base) (h : Intact svc node base vol disk)
    (hType : vol.spec.type ≠ .flexible) (hLogic : hasLogicVolFinalizer vol = false) :
    (life svc).Sends ans (Proceeds vol) (createVolume svc vol) disk := by
  obtain ⟨fsType, lvLayout, start, made, hEq, hFits, hKeep, -, kernelLvol, spdkLvol, rfl⟩ := makeLogicVolume_eq hBase h hType
  have hMake : (life svc).Completes ans (fun other _ => other = { vol with
      spec := { vol.spec with kernelLvol := kernelLvol, spdkLvol := spdkLvol } }) (makeLogicVolume svc vol) disk := by
    rw [hEq]
    have hCreate : (life svc).Completes ans (fun devPath _ => devPath = svc.devPath vol.name)
        (Prog.fetch (.createVolume vol.name vol.spec.sizeByte fsType lvLayout) id) disk :=
      Model.completes_fetch (createVolume_obtained hAns h hFits) rfl
    refine hCreate.bind ?_
    rintro _ disk rfl
    rw [hKeep]
    exact rfl
  rw [createVolume, if_neg (by simp [hLogic])]
  refine hMake.sends ?_
  rintro _ disk rfl
  refine proceeds_update hLive rfl rfl rfl (fun hType => hType) (t := .logicVolume) (Bool.not_eq_true _ ▸ hLogic) ?_
  exact hasLogicVolFinalizer_iff.mpr ⟨_, List.mem_append_right _ (List.mem_singleton_self _), by decide⟩

include hAns hLive in
theorem expose_sends {tgt : SpdkTarget} {aio : Option AioVolume} {lvol : Option SpdkLVolume}
    (hNqn : tgt.subsysNQN ≠ "") (hAccess : spdkTargetFinalizer ∉ vol.finalizers) :
    (life svc).Sends ans (Proceeds vol) (expose vol tgt aio lvol) disk := by
  refine (allowHosts_completes hAns _).sends ?_
  rintro hosts disk rfl
  have hExpose : ∀ access : Access, access.openAccess.nqn = tgt.subsysNQN → (life svc).Completes ans (fun _ _ => True)
      (Prog.fetch (.exposeAccess access) id) disk := fun access hSame => by
    refine Model.completes_fetch (b := (ans (.exposeAccess access)).svcID) ?_ trivial
    change (perform svc (.exposeAccess access) (ans (.exposeAccess access)).toAnswers disk).1 = _
    rw [perform, if_neg (hSame ▸ hNqn), hAns]
    rfl
  refine (hExpose _ (by exact rfl)).sends fun svcID _ _ => ?_
  exact proceeds_update hLive rfl rfl rfl (fun hType => hType) (t := .access) hAccess
    (List.mem_append_right _ (List.mem_singleton_self _))

theorem getNQNFromUUID_ne (uuid : String) : getNQNFromUUID uuid ≠ "" := by
  unfold getNQNFromUUID
  rw [Ne, String.append_eq_empty_iff]
  exact fun hBoth => absurd hBoth.1 (by decide)

include hLive in
theorem proceeds_ready : Proceeds vol (.updateStatus { vol with status := { vol.status with status := .ready } }) :=
  ⟨hLive, .inl rfl⟩

include hAns hLive in
theorem createOpenAccess_sends (hBase : Provisionable svc node base) (h : Intact svc node base vol disk)
    (hType : vol.spec.type ≠ .flexible) (hLogic : hasLogicVolFinalizer vol = true) :
    (life svc).Sends ans (Proceeds vol) ((createOpenAccess svc vol).bind fun vol =>
      Prog.send (.updateStatus { vol with status := { vol.status with status := .ready } })) disk := by
  obtain ⟨hEquipped, -⟩ := h.made hLogic
  obtain ⟨host, hHost⟩ := Option.ne_none_iff_exists'.mp (h.asked.hostNode ▸ hBase.host)
  rw [createOpenAccess, hHost]
  dsimp only
  rw [if_neg hBase.address]
  split
  · exact proceeds_ready hLive
  next hAccess =>
    rw [if_neg (h.asked.uuid ▸ hBase.uuid), openAccess]
    split
    next hKernel =>
      split
      · exact proceeds_ready hLive
      · obtain ⟨lvol, hLvol, hPath⟩ := hEquipped.kernelLvol hKernel
        rw [Option.mem_def.mp hLvol]
        dsimp only
        rw [if_neg hPath]
        exact (expose_sends hAns hLive (getNQNFromUUID_ne _) hAccess).bind _
    next hSpdk =>
      obtain ⟨lvol, hLvol⟩ := Option.ne_none_iff_exists'.mp (hEquipped.spdkLvol hSpdk)
      rw [hLvol]
      refine (expose_sends hAns hLive ?_ hAccess).bind _
      dsimp only [lvolTarget]
      split
      · exact getNQNFromUUID_ne _
      · assumption
    next hKernel hSpdk =>
      have hSettled := hBase.settled h hType
      unfold settledType at hSettled
      split at hSettled
      · exact absurd hSettled hKernel
      · exact absurd hSettled hSpdk

include hAns hLive in
theorem bringUp_sends (hBase : Provisionable svc node base) (h : Intact svc node base vol disk)
    (hStatus : vol.status.status ≠ .ready) : (life svc).Sends ans (Proceeds vol) (bringUp svc vol) disk := by
  rw [bringUp, if_neg hStatus]
  split
  next hFlexible =>
    exact proceeds_update hLive rfl (List.append_nil _).symm rfl (fun _ => settledType_ne svc) (t := .type)
      (by simp [Done, hFlexible]) (settledType_ne svc)
  next hType =>
    cases hLogic : hasLogicVolFinalizer vol with
    | false => exact (createVolume_sends hAns hLive hBase h hType hLogic).bind _
    | true =>
      rw [createVolume, if_pos hLogic]
      exact createOpenAccess_sends hAns hLive hBase h hType hLogic

include hAns hLive in
theorem syncOneVolume_sends (hBase : Provisionable svc node base) (h : Intact svc node base vol disk)
    (hIn : inStateFinalizer ∈ vol.finalizers) (hStatus : vol.status.status ≠ .ready) :
    (life svc).Sends ans (Proceeds vol) (syncOneVolume svc vol) disk := by
  have hStarts : ¬ VolumeSyncer.inStateFinalizer ∉ vol.finalizers := not_not.mpr hIn
  rw [syncOneVolume, if_neg hStarts, if_neg (by simp [hLive]), expandVolume_of_unlabelled (h.unexpanded hBase)]
  refine (applyVolume_completes hAns base hStatus).sends ?_
  rintro _ disk' ⟨rfl, hGrown⟩
  exact bringUp_sends hAns hLive hBase (h.grow hGrown) hStatus

end

/-! ## Rounds -/

structure Round where
  controller : Answers
  agent : Call → VolumeSyncer.Answers

def round (svc : PoolService) (a : Account) (r : Round) : Account :=
  step svc (step svc a (.reconcile r.controller)) (.sync r.agent)

/-- The scheduler finds the node, and no call of the agent fails. -/
structure Undisturbed (node : String) (r : Round) : Prop where
  schedules : Schedules node r.controller
  succeeds : ∀ c, (r.agent c).fails = false

structure Provisions (svc : PoolService) (node : String) (base : AntstorVolume) (a : Account) (vol : AntstorVolume) : Prop where
  obj : a.obj = some vol
  live : vol.deletionTimestamp = none
  intact : Intact svc node base vol a.disk
  admits : Admits node base a.state

theorem exec_agent {β : Type} (ans : Call → VolumeSyncer.Answers) (p : Pass β) (written : Bool)
    (obj : Option AntstorVolume) (disk : Disk) :
    (agent svc).exec ans p written obj disk = (life svc).exec (fun c => { toAnswers := ans c }) p written obj disk := by
  induction p generalizing written obj disk with
  | done b => rfl
  | stop => rfl
  | call c k ih => exact ih _ _ _ _
  | write w k ih =>
    rw [Model.exec, Model.exec]
    split
    · rfl
    · exact ih _ _ _

theorem step_reconcile {a : Account} {ans : Answers} (hObj : a.obj = some vol)
    (hLive : ((reconcile ans a.state vol).after vol).deletionTimestamp = none) :
    step svc a (.reconcile ans) =
      { a with obj := some ((reconcile ans a.state vol).after vol), state := (reconcile ans a.state vol).state } := by
  rw [step, hObj]
  dsimp only
  unfold Outcome.after at hLive ⊢
  cases hw : (reconcile ans a.state vol).write with
  | none => rfl
  | some w =>
    rw [hw] at hLive
    dsimp only at hLive ⊢
    congr 1
    exact finalize_live hLive

theorem reconcile_provisions (hBase : Provisionable svc node base) {a : Account} {ans : Answers}
    (h : Provisions svc node base a vol) (hAns : Schedules node ans) :
    ∃ new, Provisions svc node base (step svc a (.reconcile ans)) new ∧
      (new.status.status = .ready ↔ vol.status.status = .ready) ∧
      (Does Done vol new ∨ new = vol ∧ ∀ t : Task, t.controller = true → Done vol t) := by
  obtain ⟨hAdmits, hIntact, hLive, hStatus, hAdvances⟩ := reconcile_advances hBase h.live h.intact h.admits hAns
  refine ⟨_, ?_, hStatus, hAdvances⟩
  rw [step_reconcile h.obj hLive]
  exact ⟨rfl, hLive, hIntact, hAdmits⟩

theorem sync_ready {ans : Call → LifeAnswers} (hBase : Provisionable svc node base) (hLive : vol.deletionTimestamp = none)
    (h : Intact svc node base vol disk) (hStatus : vol.status.status = .ready) :
    ∃ new, ((life svc).exec ans (syncOneVolume svc vol) false (some vol) disk).1 = some new ∧
      new.deletionTimestamp = none ∧ new.status.status = .ready := by
  have hAll : (syncOneVolume svc vol).All (fun _ => True) (fun w => ∃ sizeByte, w = .update (withAllocated vol sizeByte))
      fun _ => True := by
    unfold syncOneVolume
    split
    · trivial
    rw [if_neg (by simp [hLive]), expandVolume_of_unlabelled (h.unexpanded hBase)]
    refine ((applyVolume_harmless vol).mono (fun _ _ => trivial) (fun _ hw => hw) fun _ hPost => hPost).bind ?_
    rintro other ⟨hSame, -⟩
    rw [bringUp, if_pos (hSame ▸ hStatus)]
    trivial
  rcases (life svc).exec_object hAll ans (some vol) disk with hSame | ⟨_, ⟨sizeByte, rfl⟩, hApplied⟩
  · exact ⟨vol, hSame, hLive, hStatus⟩
  · exact ⟨_, hApplied.trans (finalize_live hLive), hLive, hStatus⟩

theorem step_sync {a : Account} (hObj : a.obj = some vol) (ans : Call → VolumeSyncer.Answers) :
    let out := (life svc).exec (fun c => { toAnswers := ans c }) (syncOneVolume svc vol) false (some vol) a.disk
    step svc a (.sync ans) = { a with obj := out.1, disk := out.2 } := by
  rw [step, hObj, exec_agent]
  rfl

theorem sync_provisions (hBase : Provisionable svc node base) {a : Account} {ans : Call → VolumeSyncer.Answers}
    (h : Provisions svc node base a vol) (hAns : ∀ c, (ans c).fails = false) :
    ∃ new, Provisions svc node base (step svc a (.sync ans)) new ∧
      (new.status.status = .ready ∨ vol.status.status ≠ .ready ∧
        (Does Done vol new ∨ new = vol ∧ inStateFinalizer ∉ vol.finalizers)) := by
  have hInv : (provisioning svc node base).inv (some vol) a.disk := by
    rintro _ ⟨⟩ _
    exact h.intact
  have hKept := (syncOneVolume_provisions hBase h.live h.intact).exec (provisioning_valid hBase) (fun _ _ _ => trivial)
    (fun _ => rfl) hInv fun c => { toAnswers := ans c }
  have hRest : ∀ new, ((life svc).exec (fun c => { toAnswers := ans c }) (syncOneVolume svc vol) false (some vol) a.disk).1
      = some new → new.deletionTimestamp = none → Provisions svc node base (step svc a (.sync ans)) new := by
    intro new hNew hLive
    rw [step_sync h.obj]
    exact ⟨hNew, hLive, hKept new hNew hLive, h.admits⟩
  by_cases hStatus : vol.status.status = .ready
  · obtain ⟨new, hNew, hLive, hReady⟩ := sync_ready hBase h.live h.intact hStatus
    exact ⟨new, hRest new hNew hLive, .inl hReady⟩
  by_cases hIn : inStateFinalizer ∈ vol.finalizers
  · have hSends : (life svc).Sends (fun c => { toAnswers := ans c }) (Proceeds vol) (syncOneVolume svc vol) a.disk :=
      syncOneVolume_sends hAns h.live hBase h.intact hIn hStatus
    obtain ⟨w, ⟨hLive, hProceeds⟩, hNew⟩ := hSends.exec (some vol)
    refine ⟨w.applyTo vol, hRest _ (hNew.trans (finalize_live hLive)) hLive, ?_⟩
    exact hProceeds.imp id fun hLess => ⟨hStatus, .inl hLess⟩
  · refine ⟨vol, hRest vol ?_ h.live, .inr ⟨hStatus, .inr ⟨rfl, hIn⟩⟩⟩
    have hStops : VolumeSyncer.inStateFinalizer ∉ vol.finalizers := hIn
    rw [syncOneVolume, if_pos hStops]
    rfl

theorem round_provisions (hBase : Provisionable svc node base) {a : Account} {r : Round}
    (h : Provisions svc node base a vol) (hr : Undisturbed node r) :
    ∃ new, Provisions svc node base (round svc a r) new ∧
      (new.status.status = .ready ∨ vol.status.status ≠ .ready ∧ Does Done vol new) := by
  obtain ⟨mid, hMid, hStatus, hControlled⟩ := reconcile_provisions hBase h hr.schedules
  obtain ⟨new, hNew, hReady | ⟨hNot, hSynced⟩⟩ := sync_provisions hBase hMid hr.succeeds
  · exact ⟨new, hNew, .inl hReady⟩
  · refine ⟨new, hNew, .inr ⟨fun hReady => hNot (hStatus.mpr hReady), ?_⟩⟩
    rcases hControlled with hLess | ⟨rfl, hDone⟩
    · rcases hSynced with hMore | ⟨rfl, -⟩
      · exact hLess.trans_keeps hMore.keeps
      · exact hLess
    · rcases hSynced with hMore | ⟨-, hIn⟩
      · exact hMore
      · exact absurd (hDone .binding rfl).2 hIn

def Provisioned (svc : PoolService) (node : String) (base : AntstorVolume) (a : Account) : Prop :=
  ∃ vol, Provisions svc node base a vol

def Account.Done (a : Account) (t : Task) : Prop := ∀ vol ∈ a.obj, VolumeReconciler.Done vol t

def Account.Ready (a : Account) : Prop := ∃ vol, a.obj = some vol ∧ vol.status.status = .ready

theorem Provisions.does {a b : Account} {new : AntstorVolume} (h : Provisions svc node base a vol)
    (hNew : Provisions svc node base b new) (hDoes : Does Done vol new) : Does Account.Done a b := by
  obtain ⟨hKeeps, t, hOld, hDone⟩ := hDoes
  refine Keeps.does (t := t) (fun t hAll => ?_) (fun hAll => hOld (hAll vol h.obj)) ?_
  · intro other hOther
    cases hNew.obj.symm.trans hOther
    exact hKeeps t (hAll vol h.obj)
  · intro other hOther
    cases hNew.obj.symm.trans hOther
    exact hDone

theorem rounds_provision (hBase : Provisionable svc node base) {a : Account} (h : Provisions svc node base a vol)
    {rounds : List Round} (hRounds : ∀ r ∈ rounds, Undisturbed node r) (hLength : 8 ≤ rounds.length) :
    ∃ new, Provisions svc node base (Runs.run (round svc) a rounds) new ∧ new.status.status = .ready := by
  have hGuarded : Runs.Guarded (round svc) (fun _ r => Undisturbed node r) a rounds :=
    Runs.guarded_of_forall fun r hr _ => hRounds r hr
  have hStart : Provisioned svc node base a := ⟨vol, h⟩
  have hFinal : Provisioned svc node base (Runs.run (round svc) a rounds) ∧
      (Runs.run (round svc) a rounds).Ready := by
    have hTasks : Fintype.card Task < rounds.length := lt_of_lt_of_le (by decide) hLength
    refine run_completes Account.Done hGuarded hStart hTasks fun a r h hr => ?_
    obtain ⟨vol, h⟩ := h
    obtain ⟨new, hNew, hReady | ⟨hNot, hDoes⟩⟩ := round_provisions hBase h hr
    · exact ⟨⟨new, hNew⟩, .inl ⟨new, hNew.obj, hReady⟩⟩
    · refine ⟨⟨new, hNew⟩, .inr ⟨?_, h.does hNew hDoes⟩⟩
      rintro ⟨other, hOther, hReady⟩
      cases h.obj.symm.trans hOther
      exact hNot hReady
  obtain ⟨⟨new, hNew⟩, other, hOther, hReady⟩ := hFinal
  cases hNew.obj.symm.trans hOther
  exact ⟨new, hNew, hReady⟩

/-- Wherever a run has left a volume that nobody has deleted, eight undisturbed
rounds make it ready, with a logical volume of its size. -/
theorem provisioning_converges (hBase : Provisionable svc node base) (hInit : Intact svc node base base disk)
    {events : List (Event Process LifeAnswers)}
    (hGuarded : Runs.Guarded (life svc).protocol.step ((provisioningGuards node).Met (life svc))
      (System.init (some base) disk) events) {t : Optimistic.System Process (Option AntstorVolume) Disk Write (Option (Pass PUnit))}
    (hRun : Runs.run (life svc).protocol.step (System.init (some base) disk) events = t)
    (hVol : t.object.value = some vol) (hLive : vol.deletionTimestamp = none) {s : State} (hState : Admits node base s)
    {rounds : List Round} (hRounds : ∀ r ∈ rounds, Undisturbed node r) (hLength : 8 ≤ rounds.length) :
    ∃ new, (Runs.run (round svc) { obj := some vol, disk := t.world, state := s } rounds).obj = some new ∧
      Asked base new ∧ new.status.status = .ready ∧
      (Runs.run (round svc) { obj := some vol, disk := t.world, state := s } rounds).disk.lv = some base.spec.sizeByte := by
  have hIntact : Intact svc node base vol t.world := by
    have hLast := (intact_always hBase hInit hGuarded).run
    rw [hRun] at hLast
    exact hLast vol hVol hLive
  have hStart : Provisions svc node base { obj := some vol, disk := t.world, state := s } vol :=
    ⟨rfl, hLive, hIntact, hState⟩
  obtain ⟨new, hNew, hReady⟩ := rounds_provision hBase hStart hRounds hLength
  exact ⟨new, hNew.obj, hNew.intact.asked, hReady, hNew.intact.lv.resolve_left (hNew.intact.ready hReady)⟩

def plainRound : Round where
  controller := { scheduled := .node { id := "node-a" } }
  agent _ := {}

theorem boundVolume_provisionable : Provisionable linearService "node-a" boundVolume where
  node := by decide
  address := by decide
  uuid := by decide
  name := by decide
  size := by decide
  running := rfl
  unexpanded := by decide
  original := by decide
  type := .inr rfl
  host := by decide
  layout := by decide
  fits linear := by cases linear <;> rfl

theorem linearPool_admits : Admits "node-a" boundVolume (State.newState.setStoragePool Kube.exact linearPool) where
  known := ⟨_, rfl, ⟨rfl, List.nodup_nil, fun _ hItem => (by cases hItem), fun _ hItem => (by cases hItem)⟩⟩
  indexed _ hOther := by cases hOther

theorem makeLv_guarded :
    Runs.Guarded (life linearService).protocol.step ((provisioningGuards "node-a").Met (life linearService))
      (System.init (some boundVolume) {}) makeLv := by
  refine Runs.guarded_of_forall fun e he t => ?_
  have hWorker : ∀ ans, (provisioningGuards "node-a").Met (life linearService) t (.act .worker ans) := fun ans => by
    unfold Guards.Met
    dsimp only
    split <;> trivial
  rcases List.mem_cons.mp he with rfl | he
  · trivial
  rcases List.mem_pair.mp he with rfl | rfl
  · exact hWorker _
  · exact hWorker _

/-- The agent has made the logical volume and was stopped before it recorded it. -/
theorem provisioning_converges_after_makeLv :
    let t := Runs.run (life linearService).protocol.step (System.init (some boundVolume) {}) makeLv
    t.world.lv = some fourMiB ∧
      ∃ new, (Runs.run (round linearService)
        { obj := some boundVolume, disk := t.world, state := State.newState.setStoragePool Kube.exact linearPool }
        (List.replicate 8 plainRound)).obj = some new ∧ new.status.status = .ready := by
  have hRounds : ∀ r ∈ List.replicate 8 plainRound, Undisturbed "node-a" r := by
    intro r hr
    cases List.eq_of_mem_replicate hr
    exact ⟨⟨_, rfl, rfl⟩, fun _ => rfl⟩
  have hLogic : ¬ hasLogicVolFinalizer boundVolume = true := by
    decide
  have hInit : Intact linearService "node-a" boundVolume boundVolume {} :=
    ⟨⟨rfl, rfl, rfl, rfl, rfl, by decide, fun _ _ _ => rfl, rfl⟩, .inl rfl, .inr rfl, .inl rfl,
      fun hMade => absurd hMade hLogic, by decide⟩
  refine ⟨by decide, ?_⟩
  obtain ⟨new, hNew, -, hReady, -⟩ := provisioning_converges boundVolume_provisionable hInit makeLv_guarded rfl
    (show _ = some boundVolume by decide) rfl linearPool_admits hRounds (by decide)
  exact ⟨new, hNew, hReady⟩

end Liteio.VolumeReconciler
