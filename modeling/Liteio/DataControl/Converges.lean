import Liteio.DataControl.Protocol

/-! # Setting a data control up

A pass of the agent may end anywhere and leaves what it has made. Two passes that
nothing disturbs make a data control ready that nobody deletes, whatever the
passes before them have left on the node and in the object: each command they come
to is one that LVM and the NVMe client accept. It takes two, since the status
update that follows the first update of a pass is refused.
-/

namespace Liteio.DataControl

open Worker VolumeSyncer

namespace Machine

def Free (m : Machine) (vg : String) (devs : List String) : Prop :=
  m.hasVG vg = false → ∀ dev ∈ devs, m.inUse dev = false

variable {m : Machine} {vg : String} {devs : List String}

theorem hasVG_createVG (more : List String) : (m.createVG vg more).hasVG vg = true := by
  rw [hasVG, createVG, Finmap.lookup_insert, Option.isSome_some]

theorem free_of_hasVG (h : m.hasVG vg = true) : m.Free vg devs := fun hNot => by simp [h] at hNot

theorem Free.of_vgs {m' : Machine} (h : m.Free vg devs) (hSame : m'.vgs = m.vgs) : m'.Free vg devs := by
  unfold Free hasVG inUse at h ⊢
  rwa [hSame]

theorem Free.createLinearLV (h : m.Free vg devs) (lv : String) : (m.createLinearLV vg lv).Free vg devs := by
  cases hGroup : m.hasVG vg with
  | true => exact free_of_hasVG ((m.hasVG_createLinearLV vg lv vg).trans hGroup)
  | false =>
    rw [hasVG_eq_false_iff] at hGroup
    rwa [Machine.createLinearLV, hGroup]

end Machine

def SetupCall (vg : String) : Call → Prop
  | .createVG name _ | .createLinearLV name _ => name = vg
  | .removeVG _ | .removePVs _ | .disconnectTarget _ => False
  | _ => True

def SetupWrite (c : Control) (w : Write) : Prop :=
  (∃ pvs, w = .update (c.withLVM pvs)) ∨ w = .updateStatus c.ready

variable {m : Machine} {vg : String} {devs : List String} {st copy : Stored} {c base : Control}

theorem free_perform {call : Call} (hCall : SetupCall vg call) (ans : Answers) (h : m.Free vg devs) :
    (perform call ans m).2.Free vg devs := by
  cases call with
  | getVolumeGroup | listSubsystems | listNvmeDisk | listPV | listVG | listLVInVG =>
    exact Answers.list_keeps (P := (Machine.Free · vg devs)) h h _ _
  | connectTarget | createPV => exact Answers.command_keeps (P := (Machine.Free · vg devs)) h fun _ => h
  | createVG name more =>
    cases hCall
    exact Answers.command_keeps (P := (Machine.Free · vg devs)) h fun _ =>
      Machine.free_of_hasVG (Machine.hasVG_createVG more)
  | createLinearLV name lv =>
    cases hCall
    exact Answers.command_keeps (P := (Machine.Free · vg devs)) h fun _ => h.createLinearLV lv
  | removeVG | removePVs | disconnectTarget => exact hCall.elim

/-! ## What passes leave of a data control -/

structure Kept (base : Control) (c : Control) : Prop where
  vgName : c.vgName = base.vgName
  lvName : c.lvName = base.lvName
  engineType : c.spec.engineType = base.spec.engineType
  volumeGroups : c.spec.volumeGroups = base.spec.volumeGroups
  pvs : ¬ c.held → c.lvmPVs = base.lvmPVs

def Awaits (base : Control) (devs : List String) (st : Stored) (m : Machine) : Prop :=
  st.control.deleting = false → st.live = true ∧ Kept base st.control ∧ m.Free base.vgName devs

def awaiting (base : Control) (devs : List String) : Spec Call Write Stored Machine where
  permitted _ _ _ := True
  welcome _ _ _ := True
  inv := Awaits base devs
  rel copy obj := copy.control.deleting = true → obj.control.deleting = true
  callable copy call written _ :=
    if copy.control.deleting then written = false else SetupCall base.vgName call

theorem Kept.same (h : Kept base c) {c' : Control} (hSame : c.Same c') : Kept base c' := by
  obtain ⟨hNs, hName, -, hFin, hEngine, hGroups, hLvm, hPvs, -⟩ := hSame
  refine ⟨?_, ?_, hEngine.trans h.engineType, hGroups.trans h.volumeGroups, fun hHeld => ?_⟩
  · rw [← h.vgName, Control.vgName, Control.vgName, hNs, hName]
  · rw [← h.lvName, Control.lvName, Control.lvName, hName]
  · rw [Control.held, hFin] at hHeld
    rw [← h.pvs hHeld, Control.lvmPVs, Control.lvmPVs, hLvm, hPvs]

theorem Kept.withLVM (h : Kept base c) (pvs : List LVMControlPV) (old : Control) :
    Kept base ((c.withLVM pvs).over old) where
  vgName := h.vgName
  lvName := h.lvName
  engineType := h.engineType
  volumeGroups := h.volumeGroups
  pvs hHeld := absurd (by simp [Control.held, Control.withLVM, Control.over]) hHeld

theorem deleting_update (st : Stored) (c : Control) :
    (apply (.update c) st).control.deleting = st.control.deleting := by
  rw [apply]
  split
  · rw [Stored.reap]
    split <;> rfl
  · rfl

theorem removeVG_all (vg : String) :
    (removeVG vg).All (fun _ => True) (fun _ => False) fun _ => True :=
  ⟨trivial, fun _ => Prog.all_when fun _ => Prog.all_attempt trivial⟩

theorem removePVs_all (devs : Finset String) :
    (removePVs devs).All (fun _ => True) (fun _ => False) fun _ => True :=
  ⟨trivial, fun _ => Prog.all_when fun _ => Prog.all_attempt trivial⟩

theorem awaiting_meets_calls {β : Type} {calls : Call → Prop} {p : Run β} (hDeleting : copy.control.deleting = true)
    (h : p.All calls (fun _ => False) fun _ => True) (m : Machine) :
    (awaiting base devs).Meets agent copy (fun _ written _ => written = false) p false m := by
  refine (Spec.meets_of_calls (fun _ => True) h trivial fun c _ s _ => ⟨?_, fun _ => trivial⟩).mono
    fun _ _ _ hPost => hPost.1
  simp [awaiting, hDeleting]

theorem awaiting_meets_deletion (hDeleting : copy.control.deleting = true) (m : Machine) :
    (awaiting base devs).Meets agent copy (fun _ _ _ => True) (handleDeletion copy.control) false m := by
  unfold handleDeletion
  split
  next lvm _ _ =>
    refine Spec.Meets.bind (awaiting_meets_calls hDeleting (Prog.all_when fun _ => removeVG_all lvm.vg) m) ?_
    rintro - _ m rfl
    refine Spec.Meets.bind (awaiting_meets_calls hDeleting (removePVs_all _) m) ?_
    rintro - _ m rfl
    refine Spec.Meets.bind (awaiting_meets_calls hDeleting (disconnectAll_all _) m) ?_
    rintro - _ m rfl
    refine Spec.meets_when (fun _ => ⟨rfl, fun hNot => ?_, trivial⟩) fun _ => trivial
    have hStill := (deleting_update copy copy.control.released).trans hDeleting
    exact absurd (hStill.symm.trans hNot) (by decide)
  · trivial

theorem setupLVM_all (c : Control) (devs : List String) :
    (setupLVM c devs).All (SetupCall c.vgName) (fun _ => False) fun _ => True := by
  refine Prog.All.bind (Prog.all_fetch trivial) fun _ _ => ?_
  refine Prog.All.bind (Prog.all_when fun _ => Prog.all_attempt trivial) fun _ _ => ?_
  refine Prog.All.bind (Prog.all_fetch trivial) fun _ _ => ?_
  refine Prog.All.bind (Prog.all_when fun _ => Prog.all_attempt (by exact rfl)) fun _ _ => ?_
  refine Prog.All.bind (Prog.all_fetch trivial) fun _ _ => ?_
  exact Prog.all_when fun _ => Prog.all_attempt rfl

theorem setup_all (c : Control) (pvs : List LVMControlPV) :
    (setup c pvs).All (SetupCall c.vgName) (SetupWrite c) fun _ => True := by
  refine Prog.All.bind (Prog.all_fetch trivial) fun _ _ => ?_
  refine Prog.All.bind ((connectAll_all _ pvs).mono ?_ (fun _ h => h.elim) fun _ h => h) fun _ _ => ?_
  · rintro _ ⟨transType, addr, svcID, nqn, rfl⟩
    trivial
  refine Prog.All.bind (Prog.all_fetch trivial) fun disks _ => ?_
  cases findDevs disks pvs with
  | none => trivial
  | some found =>
    refine Prog.All.bind ((setupLVM_all c found.2).mono (fun _ h => h) (fun _ h => h.elim) fun _ h => h) fun _ _ => ?_
    exact ⟨.inl ⟨found.1, rfl⟩, trivial⟩

theorem reconcile_all (hDeleting : c.deleting = false) :
    (reconcile c).All (SetupCall c.vgName) (SetupWrite c) fun _ => True := by
  rw [reconcile, hDeleting, if_neg Bool.false_ne_true]
  split
  · trivial
  split
  · trivial
  refine Prog.All.bind ((collectPVs_all _ _).mono ?_ (fun _ h => h.elim) fun _ h => h) fun pvs _ => ?_
  · rintro _ ⟨name, rfl⟩
    trivial
  split
  · trivial
  · split
    · split
      · exact Prog.all_when fun _ => ⟨.inr rfl, trivial⟩
      · trivial
    · exact setup_all c pvs

theorem awaits_write (h : Awaits base devs copy m) (hDeleting : copy.control.deleting = false) {w : Write}
    (hWrite : SetupWrite copy.control w) (hFree : m.Free base.vgName devs) : Awaits base devs (apply w copy) m := by
  obtain ⟨hLive, hKept, -⟩ := h hDeleting
  intro _
  rcases hWrite with ⟨pvs, rfl⟩ | rfl
  · rw [apply_update hLive hDeleting]
    exact ⟨hLive, hKept.withLVM pvs _, hFree⟩
  · rw [apply, if_pos hLive]
    exact ⟨hLive, { hKept with }, hFree⟩

theorem awaits_writer {hand : Hand} {w : Write} (hWriter : writer hand copy = some w)
    (hCurrent : guarded w = true → copy = st) (h : Awaits base devs st m) : Awaits base devs (apply w st) m := by
  rcases writer_cases hWriter hCurrent with ⟨hLive, c, hEq, hSame⟩ | ⟨hLive, now, rfl⟩ | hEq
  · rw [hEq]
    intro hDeleting
    rw [Control.deleting, hSame.deletionTimestamp] at hDeleting
    obtain ⟨-, hKept, hFree⟩ := h hDeleting
    exact ⟨hLive, hKept.same hSame, hFree⟩
  · rcases apply_delete hLive now with ⟨hSame, -⟩ | ⟨-, hDeleting, -⟩
    · rwa [hSame]
    · exact fun hNot => absurd (hDeleting.symm.trans hNot) (by decide)
  · rwa [hEq]

theorem awaiting_valid (base : Control) (devs : List String) : (awaiting base devs).Valid agent where
  refl _ h := h
  program copy m h := by
    dsimp only [agent]
    split
    · cases hDeleting : copy.control.deleting with
      | true =>
        rw [reconcile, if_pos hDeleting]
        exact awaiting_meets_deletion hDeleting m
      | false =>
        obtain ⟨-, hKept, hFree⟩ := h hDeleting
        refine (Spec.meets_of_all (fun m => m.Free base.vgName devs) (reconcile_all hDeleting) hFree ?_ ?_).mono
          fun _ _ _ _ => trivial
        · rw [hKept.vgName]
          intro call hCall written m hFree
          refine ⟨?_, fun ans => free_perform hCall ans.1 hFree⟩
          simpa [awaiting, hDeleting] using hCall
        · intro w hWrite m hFree
          refine ⟨?_, awaits_write (fun _ => ⟨(h hDeleting).1, hKept, hFree⟩) hDeleting hWrite hFree⟩
          rcases hWrite with ⟨pvs, rfl⟩ | rfl <;> rfl
    · trivial
  call copy call written ans obj m h hRel hCallable _ hNot := by
    obtain ⟨hLive, hKept, hFree⟩ := h hNot
    refine ⟨hLive, hKept, ?_⟩
    dsimp only [awaiting] at hCallable hRel
    split at hCallable
    next hDeleting => exact absurd ((hRel hCallable hDeleting).symm.trans hNot) (by decide)
    · exact free_perform hCallable ans.1 hFree
  writer _ copy w obj m hWriter hCurrent h _ := by
    refine ⟨awaits_writer hWriter hCurrent h, fun other hRel hOther => ?_⟩
    have hDeleting := hRel hOther
    cases w with
    | update c => exact (deleting_update obj c).trans hDeleting
    | updateStatus c =>
      dsimp only [agent, apply]
      split <;> exact hDeleting
    | delete now =>
      dsimp only [agent, apply]
      rwa [hDeleting, Bool.not_true, Bool.and_false, if_neg Bool.false_ne_true]

/-! ## A pass that nothing disturbs -/

def undisturbed (group : AntstorVolumeGroup) (disks : List Csi.NvmeDevice) : Call → Answers × Hand :=
  fun _ => ({ group := group, disks := disks }, .schedule)

def pass (answers : Call → Answers × Hand) (x : Stored × Machine) : Stored × Machine :=
  agent.exec answers (agent.program x.1) false x.1 x.2

/-- The volumes of the group are there to be used: their targets have names of their
own, and each has its devices. -/
structure Supplied (group : AntstorVolumeGroup) (disks : List Csi.NvmeDevice) (pvs : List LVMControlPV)
    (found : List LVMControlPV × List String) : Prop where
  ready : group.status.status = .ready
  collected : pvsOf group.spec.volumes group.status.volumeStatus = some pvs
  targets : (pvs.map fun pv => pv.targetInfo.subsysNQN).Nodup
  located : findDevs disks pvs = some found
  nonempty : found.2 ≠ []
  devices : found.2.Nodup

section

variable {group : AntstorVolumeGroup} {disks : List Csi.NvmeDevice} {call : Call}

theorem undisturbed_command {fits : Bool} {effect : Machine → Machine} (hFits : fits = true) :
    (undisturbed group disks call).1.command fits effect m = (true, effect m) := by
  rw [Answers.command, hFits]
  rfl

theorem attempt_completes {ok : Reply call → Bool} {post : PUnit → Machine → Prop} {reply : Reply call} {m' : Machine}
    (hDone : perform call (undisturbed group disks call).1 m = (reply, m')) (hOk : ok reply = true)
    (h : post ⟨⟩ m') : agent.Completes (undisturbed group disks) post (.attempt call ok) m := by
  have hPerform : agent.perform call (undisturbed group disks call) m = (reply, m') := hDone
  exact Model.completes_attempt (by rwa [hPerform]) (by rwa [hPerform])

theorem list_completes {β : Type} {c : Call} {f : Reply c → Option β} {reply : Reply c} {b : β}
    (hDone : perform c (undisturbed group disks c).1 m = (reply, m)) (hValue : f reply = some b) :
    agent.Completes (undisturbed group disks) (fun b' m' => b' = b ∧ m' = m) (.fetch c f) m := by
  have hPerform : agent.perform c (undisturbed group disks c) m = (reply, m) := hDone
  exact Model.completes_fetch (by rwa [hPerform]) (by rw [hPerform]; exact ⟨rfl, rfl⟩)

/-- A connection is made only to a target that the listing before did not have. -/
theorem connectAll_completes {connectedNQN : List String} {pvs : List LVMControlPV} (m : Machine)
    (hNodup : (pvs.map fun pv => pv.targetInfo.subsysNQN).Nodup)
    (hListed : ∀ pv ∈ pvs, pv.targetInfo.subsysNQN ∈ m.nqns → pv.targetInfo.subsysNQN ∈ connectedNQN) :
    agent.Completes (undisturbed group disks) (fun _ m' => m'.vgs = m.vgs) (connectAll connectedNQN pvs) m := by
  induction pvs generalizing m with
  | nil => exact rfl
  | cons pv rest ih =>
    rw [List.map_cons, List.nodup_cons] at hNodup
    have hHead : agent.Completes (undisturbed group disks)
        (fun _ m' => m'.vgs = m.vgs ∧ ∀ nqn ∈ m'.nqns, nqn ∈ m.nqns ∨ nqn = pv.targetInfo.subsysNQN)
        (Prog.when (pv.targetInfo.subsysNQN ∉ connectedNQN) (.attempt (.connectTarget pv.targetInfo.transType.toLower
          pv.targetInfo.address pv.targetInfo.svcID pv.targetInfo.subsysNQN) id)) m := by
      refine Model.completes_when (fun hNew => ?_) fun _ => ⟨rfl, fun _ hNqn => .inl hNqn⟩
      have hFits : pv.targetInfo.subsysNQN ∉ m.nqns := fun hMem => hNew (hListed pv List.mem_cons_self hMem)
      refine attempt_completes (by rw [perform]; exact undisturbed_command (decide_eq_true hFits)) rfl ?_
      exact ⟨rfl, fun nqn hNqn => by simpa using hNqn⟩
    refine hHead.bind fun _ m' hConnected => ?_
    obtain ⟨hSame, hNqns⟩ := hConnected
    refine hSame ▸ ih m' hNodup.2 fun other hOther hMem => ?_
    rcases hNqns _ hMem with hOld | hEq
    · exact hListed other (List.mem_cons_of_mem pv hOther) hOld
    · exact absurd (hEq ▸ List.mem_map_of_mem hOther) hNodup.1

theorem setupLVM_completes (hFree : m.Free c.vgName devs) (hSome : devs ≠ []) (hNodup : devs.Nodup) :
    agent.Completes (undisturbed group disks) (fun _ _ => True) (setupLVM c devs) m := by
  refine Model.Completes.bind (list_completes rfl rfl) ?_
  rintro _ m ⟨rfl, rfl⟩
  have hCreated : agent.Completes (undisturbed group disks)
      (fun _ m' => m'.vgs = m.vgs ∧ ∀ dev ∈ devs, dev ∈ m'.pvs)
      (Prog.when (devs.toFinset \ m.pvs).Nonempty (.attempt (.createPV (devs.toFinset \ m.pvs)) id)) m := by
    refine Model.completes_when (fun _ => ?_) fun hNone => ⟨rfl, fun dev hDev => ?_⟩
    · refine attempt_completes (by rw [perform]; exact undisturbed_command (decide_eq_true Finset.sdiff_disjoint)) rfl ?_
      refine ⟨rfl, fun dev hDev => ?_⟩
      by_cases hMem : dev ∈ m.pvs
      · exact Finset.mem_union_left _ hMem
      · exact Finset.mem_union_right _ (Finset.mem_sdiff.mpr ⟨List.mem_toFinset.mpr hDev, hMem⟩)
    · by_contra hMem
      exact hNone ⟨dev, Finset.mem_sdiff.mpr ⟨List.mem_toFinset.mpr hDev, hMem⟩⟩
  refine hCreated.bind ?_
  rintro - m' ⟨hSame, hMem⟩
  have hFree' : m'.Free c.vgName devs := hFree.of_vgs hSame
  refine Model.Completes.bind (list_completes rfl rfl) ?_
  rintro _ m' ⟨rfl, rfl⟩
  have hGroup : agent.Completes (undisturbed group disks) (fun _ m'' => m''.hasVG c.vgName = true)
      (Prog.when (c.vgName ∉ m'.vgs.keys) (.attempt (.createVG c.vgName devs) id)) m' := by
    refine Model.completes_when (fun hNew => ?_) fun hOld => ?_
    · have hVG : m'.hasVG c.vgName = false := by simpa [m'.mem_keys_iff] using hNew
      have hDevs : ∀ dev ∈ devs, dev ∈ m'.pvs ∧ m'.inUse dev = false :=
        fun dev hDev => ⟨hMem dev hDev, hFree' hVG dev hDev⟩
      refine attempt_completes ?_ rfl (Machine.hasVG_createVG (m := m') devs)
      rw [perform]
      exact undisturbed_command (decide_eq_true ⟨hVG, hSome, hNodup, hDevs⟩)
    · exact (m'.mem_keys_iff _).mp (not_not.mp hOld)
  refine hGroup.bind fun _ m'' hVG => ?_
  refine Model.Completes.bind (list_completes rfl rfl) ?_
  rintro _ m'' ⟨rfl, rfl⟩
  refine Model.completes_when (fun hNew => ?_) fun _ => trivial
  exact attempt_completes (by rw [perform]; exact undisturbed_command (by simp [hVG, hNew])) rfl trivial

variable {pvs : List LVMControlPV} {found : List LVMControlPV × List String}

theorem setup_exec (h : Supplied group disks pvs found) (hFree : m.Free st.control.vgName found.2) :
    (agent.exec (undisturbed group disks) (setup st.control pvs) false st m).1 =
      apply (.update (st.control.withLVM found.1)) st := by
  refine (list_completes rfl rfl).exec_bind (fun out => out.1 = apply (.update (st.control.withLVM found.1)) st) ?_
  rintro _ m ⟨rfl, rfl⟩
  refine (connectAll_completes m h.targets fun _ _ hMem => hMem).exec_bind (fun out => out.1 = _) fun _ m' hSame => ?_
  refine (list_completes (c := .listNvmeDisk) (f := id) rfl rfl).exec_bind (fun out => out.1 = _) ?_
  rintro _ m' ⟨rfl, rfl⟩
  rw [h.located]
  have hFree' : m'.Free st.control.vgName found.2 := hFree.of_vgs hSame
  exact (setupLVM_completes hFree' h.nonempty h.devices).exec_bind (fun out => out.1 = _) fun _ _ _ => rfl

theorem collectPVs_completes (h : Supplied group disks pvs found) (vg : EntityIdentity) (first : List LVMControlPV)
    (m : Machine) :
    agent.Completes (undisturbed group disks) (fun all m' => all = first ++ pvs ∧ m' = m) (collectPVs [vg] first) m := by
  have hReply : agent.perform (.getVolumeGroup vg.name) (undisturbed group disks (.getVolumeGroup vg.name)) m =
      (some group, m) := rfl
  unfold collectPVs Model.Completes
  rw [hReply]
  dsimp only
  rw [if_neg (not_not.mpr h.ready), h.collected]
  exact ⟨rfl, rfl⟩

variable {uuid : String} {opt : Csi.PVCreateOption} (h : Supplied group disks pvs found)
  (hAwaits : Awaits (created uuid opt).control found.2 st m) (hDeleting : st.control.deleting = false)

theorem pass_ready (hReady : st.control.status.status = .ready) (hDeleting : st.control.deleting = false) :
    pass (undisturbed group disks) (st, m) = (st, m) := by
  change agent.exec _ (if st.live then reconcile st.control else .done ⟨⟩) false st m = _
  rw [reconcile, hDeleting, if_neg Bool.false_ne_true, if_pos hReady, ite_self]
  rfl

include h hAwaits hDeleting

theorem pass_collected (hStatus : st.control.status.status ≠ .ready) :
    (pass (undisturbed group disks) (st, m)).1 =
      (agent.exec (undisturbed group disks)
        (if st.control.held then
          match st.control.spec.lvm with
          | some lvm => Prog.when (lvm.lvol ≠ "") (Prog.send (.updateStatus st.control.ready))
          | none => .done ⟨⟩
        else setup st.control (st.control.lvmPVs ++ pvs)) false st m).1 := by
  obtain ⟨hLive, hKept, -⟩ := hAwaits hDeleting
  have hGroups : (created uuid opt).control.spec.volumeGroups ≠ [] := List.cons_ne_nil _ _
  change (agent.exec _ (if st.live then reconcile st.control else .done ⟨⟩) false st m).1 = _
  rw [if_pos hLive, reconcile, hDeleting, if_neg Bool.false_ne_true, if_neg hStatus, hKept.volumeGroups,
    if_neg hGroups]
  refine (collectPVs_completes h _ st.control.lvmPVs m).exec_bind (fun out => out.1 = _) ?_
  rintro _ _ ⟨rfl, rfl⟩
  rw [hKept.engineType]
  rfl

theorem pass_unheld (hStatus : st.control.status.status ≠ .ready) (hHeld : ¬ st.control.held) :
    (pass (undisturbed group disks) (st, m)).1 =
      { st with control := (st.control.withLVM found.1).over st.control } := by
  obtain ⟨hLive, hKept, hFree⟩ := hAwaits hDeleting
  have hNone : (created uuid opt).control.lvmPVs = [] := rfl
  rw [pass_collected h hAwaits hDeleting hStatus, if_neg hHeld, hKept.pvs hHeld, hNone, List.nil_append,
    ← apply_update hLive hDeleting]
  exact setup_exec h (hKept.vgName ▸ hFree)

theorem pass_held (hStatus : st.control.status.status ≠ .ready) (hHeld : st.control.held)
    (hRecorded : st.control.Recorded) (hName : opt.pvName ≠ "") :
    (pass (undisturbed group disks) (st, m)).1 = { st with control := st.control.ready } := by
  obtain ⟨hLive, hKept, -⟩ := hAwaits hDeleting
  have hLVol : st.control.lvName ≠ "" := hKept.lvName ▸ hName
  rw [pass_collected h hAwaits hDeleting hStatus, if_pos hHeld, hRecorded.2]
  dsimp only
  rw [Prog.when, if_pos hLVol]
  change apply (.updateStatus st.control.ready) st = _
  rw [apply, if_pos hLive]
  rfl

theorem pass_advances (hName : opt.pvName ≠ "") (hInv : Inv st m) :
    (pass (undisturbed group disks) (st, m)).1.control.deleting = false ∧
      (pass (undisturbed group disks) (st, m)).1.control.held ∧
      (st.control.held → (pass (undisturbed group disks) (st, m)).1.control.status.status = .ready) := by
  have hLive := (hAwaits hDeleting).1
  by_cases hReady : st.control.status.status = .ready
  · rw [pass_ready hReady hDeleting]
    exact ⟨hDeleting, hInv.ready hLive hDeleting hReady, fun _ => hReady⟩
  by_cases hHeld : st.control.held
  · rw [pass_held h hAwaits hDeleting hReady hHeld (hInv.built hLive hDeleting hHeld).1 hName]
    exact ⟨hDeleting, hHeld, fun _ => rfl⟩
  · rw [pass_unheld h hAwaits hDeleting hReady hHeld]
    exact ⟨hDeleting, by simp [Control.held, Control.withLVM, Control.over], fun h => absurd h hHeld⟩

end

/-! ## All together -/

theorem pass_inv (h : Inv st m) (answers : Call → Answers × Hand) :
    Inv (pass answers (st, m)).1 (pass answers (st, m)).2 :=
  (program_meets h).exec spec_valid (fun _ _ _ => trivial) (fun _ => rfl) h answers

theorem pass_awaits (h : Awaits base devs st m) (answers : Call → Answers × Hand) :
    Awaits base devs (pass answers (st, m)).1 (pass answers (st, m)).2 :=
  ((awaiting_valid base devs).program st m h).exec (awaiting_valid base devs) (fun _ _ _ => trivial)
    (fun _ => rfl) h answers

theorem created_awaits (uuid : String) (opt : Csi.PVCreateOption)
    (hFree : m.Free (created uuid opt).control.vgName devs) : Awaits (created uuid opt).control devs (created uuid opt) m :=
  fun _ => ⟨rfl, ⟨rfl, rfl, rfl, rfl, fun _ => rfl⟩, hFree⟩

/-- After any run in which nobody has deleted the data control, two passes that
nothing disturbs make it ready. -/
theorem setup_converges (uuid : String) (opt : Csi.PVCreateOption) (m : Machine)
    (events : List (Optimistic.Event Process (Answers × Hand))) (group : AntstorVolumeGroup)
    (disks : List Csi.NvmeDevice) (pvs : List LVMControlPV) (found : List LVMControlPV × List String)
    (hName : opt.pvName ≠ "") (hSupplied : Supplied group disks pvs found)
    (hFree : m.Free (created uuid opt).control.vgName found.2) :
    let t := Runs.run agent.protocol.step (Optimistic.System.init (created uuid opt) m) events
    let out := pass (undisturbed group disks) (pass (undisturbed group disks) (t.object.value, t.world))
    t.object.value.control.deleting = false →
      out.1.control.status.status = .ready ∧ out.1.control.deleting = false ∧ Serves out.1.control out.2 := by
  intro t out hDeleting
  have hInv : Inv t.object.value t.world := (inv_always uuid opt m events).run
  have hAwaits : Awaits (created uuid opt).control found.2 t.object.value t.world :=
    ((awaiting_valid _ _).always_free (fun _ _ _ => trivial) (fun _ _ _ => trivial)
      (created_awaits uuid opt hFree) events).run
  have hInv' := pass_inv hInv (undisturbed group disks)
  have hAwaits' := pass_awaits hAwaits (undisturbed group disks)
  obtain ⟨hDeleting', hHeld, -⟩ := pass_advances hSupplied hAwaits hDeleting hName hInv
  obtain ⟨hDeleting'', -, hReady⟩ := pass_advances hSupplied hAwaits' hDeleting' hName hInv'
  have hLive := (pass_awaits hAwaits' (undisturbed group disks) hDeleting'').1
  exact ⟨hReady hHeld, hDeleting'', (pass_inv hInv' _).serves hLive hDeleting'' (hReady hHeld)⟩

def oneVolume : AntstorVolumeGroup :=
  { spec := { volumes := [{}] }
    status := { status := .ready, volumeStatus := [{ spdkTarget := some { subsysNQN := "nqn", serialNum := "sn" } }] } }

def oneDisk : List Csi.NvmeDevice := [{ serialNumber := "sn", devicePath := "/dev/nvme0n1" }]

def brokenOff : List (Optimistic.Event Process (Answers × Hand)) :=
  .read .worker :: List.replicate 7 (.act .worker ({ group := oneVolume, disks := oneDisk }, .schedule)) ++
    [.fail .worker]

theorem setup_converges_after_brokenOff :
    let t := Runs.run agent.protocol.step (Optimistic.System.init (created "u" { pvName := "pv" }) {}) brokenOff
    t.world.pvs = {"/dev/nvme0n1"} ∧
      (pass (undisturbed oneVolume oneDisk)
        (pass (undisturbed oneVolume oneDisk) (t.object.value, t.world))).1.control.status.status = .ready :=
  ⟨by decide, (setup_converges "u" { pvName := "pv" } {} brokenOff oneVolume oneDisk
    [{ targetInfo := { subsysNQN := "nqn", serialNum := "sn" } }]
    ([{ devPath := "/dev/nvme0n1", targetInfo := { subsysNQN := "nqn", serialNum := "sn" } }], ["/dev/nvme0n1"])
    (by decide) ⟨rfl, rfl, by decide, rfl, by decide, by decide⟩ (fun _ _ _ => rfl) rfl).1⟩

end Liteio.DataControl
