import Liteio.DataControl.Agent
import Liteio.Library.Meets

/-! # A data control and its node

The agent's passes against the scheduling pass of the controller, the parameters
the node plugin records and the deletion of the data control, in any order and with
any call failing. A data control that is ready and not being deleted has its
logical volume on the node. One that has lost the finalizer of the agent in its
deletion has left nothing there, unless the deletion was asked for before the
finalizer was set or LVM could not list what there is.
-/

namespace Liteio.DataControl

open Worker VolumeSyncer

/-- The object as the API server has it. `early` says that its deletion was asked
for while the finalizer of the agent was not set. -/
structure Stored where
  control : Control
  live : Bool := true
  early : Bool := false
  deriving DecidableEq

def Stored.reap (st : Stored) : Stored :=
  if st.control.deleting && st.control.finalizers = [] then { st with live := false } else st

/-- What an update stores: neither the status nor the time of deletion is in it. -/
def Control.over (c old : Control) : Control :=
  { c with deletionTimestamp := old.deletionTimestamp, status := old.status }

def apply : Write → Stored → Stored
  | .update c, st => if st.live then { st with control := c.over st.control }.reap else st
  | .updateStatus c, st =>
    if st.live then { st with control := { st.control with status := c.status } } else st
  | .delete now, st =>
    if st.live && !st.control.deleting then
      { st with
        control := { st.control with deletionTimestamp := some now }
        early := !decide st.control.held }.reap
    else st

def guarded : Write → Bool
  | .update _ | .updateStatus _ => true
  | .delete _ => false

/-- Who else writes the object: the controller, which binds it to its host, the node
plugin and the user. -/
inductive Hand where
  | schedule
  | publish (params : CSINodePubParams)
  | delete (now : ℕ)

/-- The update of `HandleReconcile`; it panics where the labels are nil. -/
def schedule (c : Control) : Option Write :=
  if c.deleting || c.spec.targetNodeId ≠ "" then none
  else match c.spec.engineType with
    | .kernelLVM => c.labels.map fun labels =>
      .update { c with
        labels := some (labels.insert targetNodeIdLabelKey c.spec.hostNode.id)
        spec := { c.spec with targetNodeId := c.spec.hostNode.id } }
    | .spdkLVStore => some (.update c)

def writer (hand : Hand) (st : Stored) : Option Write :=
  if st.live then
    match hand with
    | .schedule => schedule st.control
    | .publish params =>
      some (.updateStatus { st.control with status := { st.control.status with csiNodePubParams := some params } })
    | .delete now => some (.delete now)
  else none

def agent : Model Stored Machine (Answers × Hand) Call Reply Write where
  program st := if st.live then reconcile st.control else .done ⟨⟩
  perform c ans := perform c ans.1
  writer ans := writer ans.2
  guarded := guarded
  apply := apply

/-! ## What holds throughout -/

namespace Control

def Recorded (c : Control) : Prop :=
  c.spec.engineType = .kernelLVM ∧ c.spec.lvm = some { vg := c.vgName, lvol := c.lvName }

def Built (c : Control) (m : Machine) : Prop := c.Recorded ∧ c.lvName ∈ m.lvsOf c.vgName

def Clean (c : Control) (m : Machine) : Prop :=
  m.hasVG c.vgName = false ∧ ∀ dev ∈ c.devs, dev ∉ m.pvs

structure Same (c c' : Control) : Prop where
  ns : c'.ns = c.ns
  name : c'.name = c.name
  deletionTimestamp : c'.deletionTimestamp = c.deletionTimestamp
  finalizers : c'.finalizers = c.finalizers
  engineType : c'.spec.engineType = c.spec.engineType
  volumeGroups : c'.spec.volumeGroups = c.spec.volumeGroups
  lvm : c'.spec.lvm = c.spec.lvm
  pvs : c'.pvs = c.pvs
  status : c'.status.status = c.status.status

end Control

structure Inv (st : Stored) (m : Machine) : Prop where
  ready : st.live = true → st.control.deleting = false → st.control.status.status = .ready → st.control.held
  built : st.live = true → st.control.deleting = false → st.control.held → st.control.Built m
  recorded : st.early = false → st.control.deleting = true → st.control.held → st.control.Recorded
  clean : st.early = false → m.missed = false → st.control.deleting = true → ¬ st.control.held →
    st.control.Clean m
  gone : st.live = false → st.control.deleting = true

structure Rel (copy obj : Stored) : Prop where
  deleting : copy.control.deleting = true → obj.control.deleting = true
  unheld : copy.control.deleting = false → ¬ copy.control.held →
    ¬ obj.control.held ∧ (obj.control.deleting = true → obj.early = true)

def SettingUp (copy : Stored) (written : Bool) : Prop :=
  written = false ∧ copy.control.deleting = false ∧ ¬ copy.control.held

def callable (copy : Stored) (c : Call) (written : Bool) : Prop :=
  match c with
  | .createPV _ | .createVG _ _ => SettingUp copy written
  | .removeVG _ | .removePVs _ => written = false ∧ copy.control.deleting = true
  | _ => True

def spec : Spec Call Write Stored Machine where
  permitted _ _ _ := True
  welcome _ _ _ := True
  inv := Inv
  rel := Rel
  callable copy c written _ := callable copy c written

variable {st copy : Stored} {m m' : Machine} {c c' : Control}

theorem Inv.world (h : Inv st m)
    (hBuilt : st.control.deleting = false → ∀ vg lv, lv ∈ m.lvsOf vg → lv ∈ m'.lvsOf vg)
    (hClean : st.early = false → m'.missed = false → st.control.deleting = true → ¬ st.control.held →
      m.missed = false ∧ (st.control.Clean m → st.control.Clean m')) : Inv st m' where
  ready := h.ready
  built hLive hDeleting hHeld := by
    obtain ⟨hRecorded, hLv⟩ := h.built hLive hDeleting hHeld
    exact ⟨hRecorded, hBuilt hDeleting _ _ hLv⟩
  recorded := h.recorded
  clean hEarly hMissed hDeleting hHeld := by
    obtain ⟨hMissed', hKept⟩ := hClean hEarly hMissed hDeleting hHeld
    exact hKept (h.clean hEarly hMissed' hDeleting hHeld)
  gone := h.gone

theorem Inv.same (h : Inv st m) (hSame : st.control.Same c) : Inv { st with control := c } m := by
  obtain ⟨hNs, hName, hDel, hFin, hEngine, -, hLvm, hPvs, hStatus⟩ := hSame
  have hVg : c.vgName = st.control.vgName := by simp only [Control.vgName, hNs, hName]
  have hLv : c.lvName = st.control.lvName := hName
  have hDevs : c.devs = st.control.devs := by simp only [Control.devs, Control.lvmPVs, hLvm, hPvs]
  have hRecorded : st.control.Recorded → c.Recorded := fun h => by
    simpa only [Control.Recorded, hEngine, hLvm, hVg, hLv] using h
  refine ⟨fun hLive hDeleting hReady => ?_, fun hLive hDeleting hHeld => ?_, fun hEarly hDeleting hHeld => ?_,
    fun hEarly hMissed hDeleting hHeld => ?_, fun hLive => ?_⟩
  all_goals simp only [Control.deleting, Control.held, hDel, hFin] at *
  · exact h.ready hLive hDeleting (hStatus ▸ hReady)
  · obtain ⟨hKept, hMem⟩ := h.built hLive hDeleting hHeld
    exact ⟨hRecorded hKept, by rwa [hVg, hLv]⟩
  · exact hRecorded (h.recorded hEarly hDeleting hHeld)
  · obtain ⟨hVG, hPV⟩ := h.clean hEarly hMissed hDeleting hHeld
    exact ⟨by rwa [hVg], by rwa [hDevs]⟩
  · exact h.gone hLive

theorem Inv.list {β : Type} {ans : Answers} (h : Inv st m) (value : β) (cleaning : Bool) :
    Inv st (ans.list value cleaning m).2 :=
  Answers.list_keeps h (h.world (fun _ _ _ hMem => hMem) fun _ hMissed => by simp at hMissed) value cleaning

theorem Rel.not_clean {written : Bool} (hRel : Rel copy st) (hSetting : SettingUp copy written)
    (hEarly : st.early = false) (hDeleting : st.control.deleting = true) : False := by
  have hEarly' := (hRel.unheld hSetting.2.1 hSetting.2.2).2 hDeleting
  simp [hEarly] at hEarly'

theorem call_keeps {written : Bool} {ans : Answers} (c : Call) (h : Inv st m)
    (hRel : written = false → Rel copy st) (hCallable : callable copy c written) :
    Inv st (perform c ans m).2 := by
  cases c with
  | getVolumeGroup | listSubsystems | listNvmeDisk | listPV | listVG | listLVInVG => exact h.list _ _
  | connectTarget | disconnectTarget =>
    exact Answers.command_keeps h fun _ => h.world (fun _ _ _ hMem => hMem)
      fun _ hMissed _ _ => ⟨hMissed, fun hClean => hClean⟩
  | createPV devs =>
    refine Answers.command_keeps h fun _ => h.world (fun _ _ _ hMem => hMem) fun hEarly _ hDeleting _ => ?_
    exact ((hRel hCallable.1).not_clean hCallable hEarly hDeleting).elim
  | createVG vg devs =>
    refine Answers.command_keeps h fun hFits => h.world (fun _ name lv hMem => ?_) fun hEarly _ hDeleting _ => ?_
    · exact m.lvsOf_createVG vg lv name devs (of_decide_eq_true hFits).1 hMem
    · exact ((hRel hCallable.1).not_clean hCallable hEarly hDeleting).elim
  | createLinearLV vg lv =>
    refine Answers.command_keeps h fun _ => h.world (fun _ name _ hMem => m.lvsOf_createLinearLV vg lv name hMem)
      fun _ hMissed _ _ => ⟨(m.missed_createLinearLV vg lv) ▸ hMissed, fun hClean => ?_⟩
    exact ⟨(m.hasVG_createLinearLV ..).trans hClean.1, (m.pvs_createLinearLV vg lv) ▸ hClean.2⟩
  | removeVG vg =>
    have hDeleting := (hRel hCallable.1).deleting hCallable.2
    refine Answers.command_keeps h fun _ => h.world (fun hNot => by simp [hDeleting] at hNot)
      fun _ hMissed _ _ => ⟨hMissed, ?_⟩
    exact fun hClean => ⟨m.hasVG_removeVG_of_not vg _ hClean.1, hClean.2⟩
  | removePVs devs =>
    have hDeleting := (hRel hCallable.1).deleting hCallable.2
    refine Answers.command_keeps h fun _ => h.world (fun hNot => by simp [hDeleting] at hNot)
      fun _ hMissed _ _ => ⟨hMissed, ?_⟩
    exact fun hClean => ⟨hClean.1, fun dev hDev hMem => hClean.2 dev hDev (Finset.mem_sdiff.mp hMem).1⟩

/-! ## The writers -/

theorem apply_update (hLive : st.live = true) (hDeleting : st.control.deleting = false) (c : Control) :
    apply (.update c) st = { st with control := c.over st.control } := by
  have hNot : (c.over st.control).deleting = false := hDeleting
  simp [apply, hLive, Stored.reap, hNot]

theorem Rel.same (h : Rel copy st) (hSame : st.control.Same c) : Rel copy { st with control := c } := by
  obtain ⟨-, -, hDel, hFin, -⟩ := hSame
  refine ⟨fun hDeleting => ?_, fun hDeleting hHeld => ?_⟩
  all_goals simp only [Control.deleting, Control.held, hDel, hFin] at *
  · exact h.deleting hDeleting
  · exact h.unheld hDeleting hHeld

theorem schedule_same {w : Write} (h : schedule c = some w) :
    c.deleting = false ∧ ∃ c', w = .update c' ∧ c.Same c' := by
  unfold schedule at h
  split at h
  · cases h
  next hNot =>
    simp only [Bool.or_eq_true, not_or] at hNot
    refine ⟨Bool.eq_false_iff.mpr hNot.1, ?_⟩
    split at h
    · obtain ⟨labels, -, rfl⟩ := Option.map_eq_some_iff.mp h
      exact ⟨_, rfl, rfl, rfl, rfl, rfl, rfl, rfl, rfl, rfl, rfl⟩
    · cases h
      exact ⟨c, rfl, rfl, rfl, rfl, rfl, rfl, rfl, rfl, rfl, rfl⟩

theorem apply_delete (hLive : st.live = true) (now : ℕ) :
    apply (.delete now) st = st ∧ st.control.deleting = true ∨
      st.control.deleting = false ∧ (apply (.delete now) st).control.deleting = true ∧
      ((apply (.delete now) st).control.held ↔ st.control.held) ∧
      (apply (.delete now) st).early = !decide st.control.held ∧
      (st.control.Recorded → (apply (.delete now) st).control.Recorded) := by
  cases hDeleting : st.control.deleting with
  | true => exact .inl ⟨by simp [apply, hLive, hDeleting], rfl⟩
  | false =>
    refine .inr ⟨rfl, ?_⟩
    simp only [apply, hLive, hDeleting, Bool.not_false, Bool.and_self, if_true, Stored.reap]
    split <;> exact ⟨rfl, Iff.rfl, rfl, fun h => h⟩

theorem delete_keeps (h : Inv st m) (hLive : st.live = true) (now : ℕ) :
    Inv (apply (.delete now) st) m ∧ ∀ other, Rel other st → Rel other (apply (.delete now) st) := by
  rcases apply_delete hLive now with ⟨hSame, -⟩ | ⟨hNot, hDeleting, hHeld, hEarly, hRecorded⟩
  · rw [hSame]
    exact ⟨h, fun _ hRel => hRel⟩
  · refine ⟨⟨fun _ hFalse => ?_, fun _ hFalse => ?_, fun _ _ hKept => ?_, fun hOrderly _ _ hLost => ?_, fun _ => hDeleting⟩,
      fun other hRel => ⟨fun _ => hDeleting, fun hOther hUnheld => ?_⟩⟩
    · simp [hDeleting] at hFalse
    · simp [hDeleting] at hFalse
    · exact hRecorded (h.built hLive hNot (hHeld.mp hKept)).1
    · rw [hEarly] at hOrderly
      rw [hHeld] at hLost
      simp [hLost] at hOrderly
    · have hLost := (hRel.unheld hOther hUnheld).1
      refine ⟨fun hKept => hLost (hHeld.mp hKept), fun _ => ?_⟩
      rw [hEarly]
      simp [hLost]

theorem writer_cases {hand : Hand} {w : Write} (hWriter : writer hand copy = some w)
    (hCurrent : guarded w = true → copy = st) :
    (st.live = true ∧ ∃ c, apply w st = { st with control := c } ∧ st.control.Same c) ∨
      (st.live = true ∧ ∃ now, w = .delete now) ∨ apply w st = st := by
  unfold writer at hWriter
  split at hWriter
  next hLive =>
    split at hWriter
    · obtain ⟨hDeleting, c', rfl, hSame⟩ := schedule_same hWriter
      cases hCurrent rfl
      exact .inl ⟨hLive, _, apply_update hLive hDeleting c', { hSame with deletionTimestamp := rfl, status := rfl }⟩
    · cases hWriter
      cases hCurrent rfl
      exact .inl ⟨hLive, _, if_pos hLive, rfl, rfl, rfl, rfl, rfl, rfl, rfl, rfl, rfl⟩
    next now =>
      cases hWriter
      cases hObj : st.live with
      | true => exact .inr (.inl ⟨rfl, now, rfl⟩)
      | false => exact .inr (.inr (by rw [apply, hObj]; rfl))
  · cases hWriter

theorem writer_keeps {hand : Hand} {w : Write} (hWriter : writer hand copy = some w)
    (hCurrent : guarded w = true → copy = st) (h : Inv st m) :
    Inv (apply w st) m ∧ ∀ other, Rel other st → Rel other (apply w st) := by
  rcases writer_cases hWriter hCurrent with ⟨-, c, hEq, hSame⟩ | ⟨hLive, now, rfl⟩ | hEq
  · rw [hEq]
    exact ⟨h.same hSame, fun _ hRel => hRel.same hSame⟩
  · exact delete_keeps h hLive now
  · rw [hEq]
    exact ⟨h, fun _ hRel => hRel⟩

/-! ## The agent -/

theorem collectPVs_all (groups : List EntityIdentity) (pvs : List LVMControlPV) :
    (collectPVs groups pvs).All (fun c => ∃ name, c = .getVolumeGroup name) (fun _ => False) fun _ => True := by
  induction groups generalizing pvs with
  | nil => trivial
  | cons vg rest ih =>
    refine ⟨⟨vg.name, rfl⟩, fun (reply : Option AntstorVolumeGroup) => ?_⟩
    dsimp only
    split
    · trivial
    · split
      · trivial
      · split
        · trivial
        · exact ih _

theorem connectAll_all (connectedNQN : List String) (pvs : List LVMControlPV) :
    (connectAll connectedNQN pvs).All (fun c => ∃ transType addr svcID nqn, c = .connectTarget transType addr svcID nqn)
      (fun _ => False) fun _ => True := by
  induction pvs with
  | nil => trivial
  | cons pv rest ih =>
    refine Prog.All.bind (Prog.all_when fun _ => Prog.all_attempt ⟨_, _, _, _, rfl⟩) fun _ _ => ih

theorem disconnectAll_all (pvs : List LVMControlPV) :
    (disconnectAll pvs).All (fun c => ∃ nqn, c = .disconnectTarget nqn) (fun _ => False) fun _ => True := by
  induction pvs with
  | nil => trivial
  | cons pv rest ih =>
    unfold disconnectAll
    split
    · exact ⟨⟨_, rfl⟩, fun _ => ih⟩
    · exact ih

abbrev Unwritten {β : Type} (copy : Stored) (post : β → Machine → Prop) (p : Run β) (m : Machine) : Prop :=
  spec.Meets agent copy (fun b written m => written = false ∧ post b m) p false m

theorem unwritten_of_calls {β : Type} {calls : Call → Prop} {p : Run β} (keeps : Machine → Prop)
    (h : p.All calls (fun _ => False) fun _ => True) (hKeeps : keeps m)
    (hCall : ∀ c, calls c → callable copy c false ∧ ∀ ans m, keeps m → keeps (perform c ans m).2) :
    Unwritten copy (fun _ m => keeps m) p m :=
  (Spec.meets_of_calls keeps h hKeeps fun c hc m hm =>
    ⟨(hCall c hc).1, fun ans => (hCall c hc).2 ans.1 m hm⟩).mono fun _ _ _ hPost => ⟨hPost.1, hPost.2.2⟩

theorem unwritten_fetch {β : Type} {call : Call} {value : Reply call → Option β} (hCallable : callable copy call false) :
    Unwritten copy (fun _ _ => True) (.fetch call value) m :=
  Spec.meets_fetch hCallable fun _ _ _ _ _ => ⟨rfl, trivial⟩

theorem unwritten_when_attempt {cond : Prop} [Decidable cond] {call : Call} {ok : Reply call → Bool}
    {P : Machine → Prop} (hCallable : callable copy call false)
    (hOk : ∀ ans, ok (perform call ans m).1 = true → P (perform call ans m).2) (hSkip : ¬ cond → P m) :
    Unwritten copy (fun _ m => P m) (.when cond (.attempt call ok)) m :=
  Spec.meets_when (fun _ => Spec.meets_attempt hCallable fun _ _ ans h => ⟨rfl, hOk ans.1 h⟩) fun h => ⟨rfl, hSkip h⟩

theorem setupLVM_meets (hSetting : SettingUp copy false) (devs : List String) (m : Machine) :
    Unwritten copy (fun _ m => c.lvName ∈ m.lvsOf c.vgName) (setupLVM c devs) m := by
  refine Spec.Meets.bind (unwritten_fetch (by trivial)) ?_
  rintro (names : Finset String) _ m ⟨rfl, -⟩
  refine Spec.Meets.bind (unwritten_when_attempt (P := fun _ => True) (by exact hSetting) (by simp) (by simp)) ?_
  rintro - _ m ⟨rfl, -⟩
  refine Spec.Meets.bind (unwritten_fetch (by trivial)) ?_
  rintro (vgs : Finset String) _ m ⟨rfl, -⟩
  refine Spec.Meets.bind (unwritten_when_attempt (P := fun _ => True) (by exact hSetting) (by simp) (by simp)) ?_
  rintro - _ m ⟨rfl, -⟩
  have hLVs : Unwritten copy (fun lvs m => lvs = m.lvsOf c.vgName) (Prog.fetch (.listLVInVG c.vgName) id) m := by
    refine Spec.meets_fetch trivial fun _ _ ans (lvs : List String) hLVs => ⟨rfl, ?_⟩
    obtain ⟨rfl, hSame⟩ := Answers.list_some hLVs
    exact congrArg (Machine.lvsOf · c.vgName) hSame.symm
  refine hLVs.bind ?_
  rintro lvs _ m ⟨rfl, rfl⟩
  refine unwritten_when_attempt (by trivial) (fun ans hOk => ?_) not_not.mp
  obtain ⟨hFits, hDone⟩ := Answers.command_ok hOk
  change c.lvName ∈ Machine.lvsOf (Answers.command ..).2 c.vgName
  rw [hDone]
  exact m.mem_lvsOf_createLinearLV _ _ (Bool.and_eq_true _ _ ▸ hFits).1

theorem withLVM_inv (hLive : copy.live = true) (hDeleting : copy.control.deleting = false)
    (hEngine : copy.control.spec.engineType = .kernelLVM) (pvs : List LVMControlPV)
    (hLv : copy.control.lvName ∈ m.lvsOf copy.control.vgName) :
    Inv (apply (.update (copy.control.withLVM pvs)) copy) m := by
  rw [apply_update hLive hDeleting]
  have hNot : ((copy.control.withLVM pvs).over copy.control).deleting = false := hDeleting
  have hHeld : ((copy.control.withLVM pvs).over copy.control).held := by
    simp [Control.held, Control.withLVM, Control.over]
  exact ⟨fun _ _ _ => hHeld, fun _ _ _ => ⟨⟨hEngine, rfl⟩, hLv⟩, fun _ hDeleting => by simp [hNot] at hDeleting,
    fun _ _ hDeleting => by simp [hNot] at hDeleting, fun hGone => by simp [hLive] at hGone⟩

theorem setup_meets (hLive : copy.live = true) (hSetting : SettingUp copy false)
    (hEngine : copy.control.spec.engineType = .kernelLVM) (pvs : List LVMControlPV) (m : Machine) :
    spec.Meets agent copy (fun _ _ _ => True) (setup copy.control pvs) false m := by
  refine Spec.Meets.bind (unwritten_fetch (by trivial)) ?_
  rintro (connectedNQN : List String) _ m ⟨rfl, -⟩
  refine (unwritten_of_calls (fun _ => True) (connectAll_all connectedNQN pvs) trivial ?_).bind ?_
  · rintro _ ⟨transType, addr, svcID, nqn, rfl⟩
    exact ⟨trivial, fun _ _ _ => trivial⟩
  rintro - _ m ⟨rfl, -⟩
  refine Spec.Meets.bind (unwritten_fetch (by trivial)) ?_
  rintro (disks : List Csi.NvmeDevice) _ m ⟨rfl, -⟩
  cases findDevs disks pvs with
  | none => trivial
  | some found =>
    refine (setupLVM_meets hSetting found.2 m).bind ?_
    rintro - _ m ⟨rfl, hLv⟩
    exact ⟨rfl, withLVM_inv hLive hSetting.2.1 hEngine found.1 hLv, trivial⟩

theorem cleaning_list {β : Type} (ans : Answers) (value : β) (m : Machine) :
    (ans.list value true m).1 = some value ∧ (ans.list value true m).2 = m ∨
      (ans.list value true m).2 = { m with missed := true } := by
  rcases ans.list_cases value true m with hEq | hEq <;> rw [hEq]
  · exact .inl ⟨rfl, rfl⟩
  · exact .inr rfl

def NoVG (vg : String) (m : Machine) : Prop := vg = "" ∨ m.missed = true ∨ m.hasVG vg = false

def NoPVs (devs : Finset String) (m : Machine) : Prop := m.missed = true ∨ ∀ dev ∈ devs, dev ∉ m.pvs

theorem removeVG_meets (hDeleting : copy.control.deleting = true) (vg : String) :
    Unwritten copy (fun _ m => NoVG vg m) (removeVG vg) m := by
  refine ⟨trivial, fun _ _ ans => ?_⟩
  change Unwritten copy (fun _ m => NoVG vg m) (Prog.when (vg ∈ Option.getD (ans.1.list m.vgs.keys true m).1 ∅) _)
    (ans.1.list m.vgs.keys true m).2
  rcases cleaning_list ans.1 m.vgs.keys m with ⟨hList, hSame⟩ | hMissed
  · rw [hList, hSame, Option.getD_some]
    refine unwritten_when_attempt ⟨rfl, hDeleting⟩ (fun ans hOk => .inr (.inr ?_)) fun hNone => .inr (.inr ?_)
    · have hDone := (Answers.command_ok hOk).2
      change (Answers.command ..).2.hasVG vg = false
      rw [hDone]
      exact m.hasVG_removeVG vg
    · rw [m.mem_keys_iff] at hNone
      exact Bool.eq_false_iff.mpr hNone
  · rw [hMissed]
    refine unwritten_when_attempt ⟨rfl, hDeleting⟩ (fun ans hOk => .inr (.inl ?_)) fun _ => .inr (.inl rfl)
    have hDone := (Answers.command_ok hOk).2
    change (Answers.command ..).2.missed = true
    rw [hDone]
    rfl

theorem removePVs_meets (hDeleting : copy.control.deleting = true) (devs : Finset String) {vg : String}
    (hVG : NoVG vg m) : Unwritten copy (fun _ m => NoVG vg m ∧ NoPVs devs m) (removePVs devs) m := by
  refine ⟨trivial, fun _ _ ans => ?_⟩
  change Unwritten copy (fun _ m => NoVG vg m ∧ NoPVs devs m)
    (Prog.when (devs ∩ Option.getD (ans.1.list m.pvs true m).1 ∅).Nonempty
      (.attempt (.removePVs (devs ∩ Option.getD (ans.1.list m.pvs true m).1 ∅)) id)) (ans.1.list m.pvs true m).2
  rcases cleaning_list ans.1 m.pvs m with ⟨hList, hSame⟩ | hMissed
  · rw [hList, hSame, Option.getD_some]
    refine unwritten_when_attempt ⟨rfl, hDeleting⟩ (fun ans hOk => ?_)
      fun hNone => ⟨hVG, .inr fun dev hDev hMem => hNone ⟨dev, Finset.mem_inter.mpr ⟨hDev, hMem⟩⟩⟩
    have hDone := (Answers.command_ok hOk).2
    change NoVG vg (Answers.command ..).2 ∧ NoPVs devs (Answers.command ..).2
    rw [hDone]
    refine ⟨hVG, .inr fun dev hDev hMem => ?_⟩
    obtain ⟨hMem, hNot⟩ := Finset.mem_sdiff.mp hMem
    exact hNot (Finset.mem_inter.mpr ⟨hDev, hMem⟩)
  · rw [hMissed]
    refine unwritten_when_attempt ⟨rfl, hDeleting⟩ (fun ans hOk => ?_) fun _ => ⟨.inr (.inl rfl), .inl rfl⟩
    have hDone := (Answers.command_ok hOk).2
    change NoVG vg (Answers.command ..).2 ∧ NoPVs devs (Answers.command ..).2
    rw [hDone]
    exact ⟨.inr (.inl rfl), .inl rfl⟩

theorem vgName_ne_empty (c : Control) : c.vgName ≠ "" := by
  intro h
  have := congrArg String.length h
  simp [Control.vgName] at this

theorem released_inv {lvm : LVMControl} (hLive : copy.live = true) (hDeleting : copy.control.deleting = true)
    (hLvm : copy.control.spec.lvm = some lvm) (hRecorded : copy.early = false → copy.control.Recorded)
    (hVG : NoVG lvm.vg m) (hPVs : NoPVs copy.control.devs.toFinset m) :
    Inv (apply (.update copy.control.released) copy) m := by
  have hStill : copy.control.released.deleting = true := hDeleting
  have hClean : copy.early = false → m.missed = false → copy.control.released.Clean m := by
    intro hEarly hMissed
    obtain rfl := Option.some.inj (hLvm.symm.trans (hRecorded hEarly).2)
    refine ⟨(hVG.resolve_left (vgName_ne_empty _)).resolve_left (by simp [hMissed]), fun dev hDev => ?_⟩
    exact hPVs.resolve_left (by simp [hMissed]) dev (List.mem_toFinset.mpr hDev)
  have hInv : ∀ live, Inv { control := copy.control.released, live := live, early := copy.early } m := fun live =>
    ⟨fun _ hNot => by simp [hStill] at hNot, fun _ hNot => by simp [hStill] at hNot,
      fun hEarly _ _ => hRecorded hEarly, fun hEarly hMissed _ _ => hClean hEarly hMissed, fun _ => hStill⟩
  have hKept : copy.control.released.over copy.control = copy.control.released := rfl
  rw [apply, if_pos hLive, hKept, Stored.reap]
  split
  · exact hInv false
  · exact hLive ▸ hInv true

theorem handleDeletion_meets (h : Inv copy m) (hLive : copy.live = true) (hDeleting : copy.control.deleting = true) :
    spec.Meets agent copy (fun _ _ _ => True) (handleDeletion copy.control) false m := by
  have hRecorded : copy.control.held → copy.early = false → copy.control.Recorded :=
    fun hHeld hEarly => h.recorded hEarly hDeleting hHeld
  unfold handleDeletion
  split
  next lvm hEngine hLvm =>
    have hVG : Unwritten copy (fun _ m => NoVG lvm.vg m) (Prog.when (lvm.vg ≠ "") (removeVG lvm.vg)) m :=
      Spec.meets_when (fun _ => removeVG_meets hDeleting lvm.vg) fun hEmpty => ⟨rfl, .inl (not_not.mp hEmpty)⟩
    refine hVG.bind ?_
    rintro - _ m ⟨rfl, hVG⟩
    refine (removePVs_meets hDeleting copy.control.devs.toFinset hVG).bind ?_
    rintro - _ m ⟨rfl, hGone⟩
    refine (unwritten_of_calls (fun m => NoVG lvm.vg m ∧ NoPVs copy.control.devs.toFinset m)
      (disconnectAll_all _) hGone ?_).bind ?_
    · rintro _ ⟨nqn, rfl⟩
      refine ⟨trivial, fun ans m hGone => ?_⟩
      exact Answers.command_keeps (P := fun m => NoVG lvm.vg m ∧ NoPVs _ m) hGone fun _ => hGone
    · rintro - _ m ⟨rfl, hVG, hPVs⟩
      refine Spec.meets_when (fun hHeld => ⟨rfl, ?_, trivial⟩) fun _ => trivial
      exact released_inv hLive hDeleting hLvm (hRecorded hHeld) hVG hPVs
  · trivial

theorem ready_inv (h : Inv copy m) (hLive : copy.live = true) (hHeld : copy.control.held) :
    Inv (apply (.updateStatus copy.control.ready) copy) m := by
  rw [apply, if_pos hLive]
  exact { h with ready := fun _ _ _ => hHeld }

theorem program_meets (h : Inv copy m) :
    spec.Meets agent copy (fun _ _ _ => True) (agent.program copy) false m := by
  dsimp only [agent]
  split
  next hLive =>
    unfold reconcile
    split
    next hDeleting => exact handleDeletion_meets h hLive hDeleting
    next hDeleting =>
      split
      · trivial
      split
      · trivial
      refine (unwritten_of_calls (Inv copy) (collectPVs_all ..) h ?_).bind ?_
      · rintro _ ⟨name, rfl⟩
        exact ⟨trivial, fun ans m h => h.list ans.group false⟩
      rintro pvs _ m ⟨rfl, h⟩
      split
      · trivial
      next hEngine =>
        split
        next hHeld =>
          split
          next lvm _ =>
            exact Spec.meets_when (fun _ => ⟨rfl, ready_inv h hLive hHeld, trivial⟩) fun _ => trivial
          · trivial
        next hHeld => exact setup_meets hLive ⟨rfl, Bool.eq_false_iff.mpr hDeleting, hHeld⟩ hEngine pvs m
  · trivial

theorem spec_valid : spec.Valid agent where
  refl st := ⟨fun h => h, fun hDeleting hHeld => ⟨hHeld, fun h => by simp [hDeleting] at h⟩⟩
  program _ _ h := program_meets h
  call _ c _ _ _ _ h hRel hCallable _ := call_keeps c h hRel hCallable
  writer _ _ _ _ _ hWriter hCurrent h _ := writer_keeps hWriter hCurrent h

def created (uuid : String) (opt : Csi.PVCreateOption) : Stored := { control := { Csi.newDataControl uuid opt with } }

theorem created_inv (uuid : String) (opt : Csi.PVCreateOption) (m : Machine) : Inv (created uuid opt) m := by
  have hNot : (created uuid opt).control.deleting = false := rfl
  have hHeld : ¬ (created uuid opt).control.held := List.not_mem_nil
  refine ⟨fun _ _ hReady => ?_, fun _ _ h => absurd h hHeld, fun _ _ h => absurd h hHeld, fun _ _ h => ?_, fun h => ?_⟩
  · cases hReady
  · simp [hNot] at h
  · cases h

theorem inv_always (uuid : String) (opt : Csi.PVCreateOption) (m : Machine)
    (events : List (Optimistic.Event Process (Answers × Hand))) :
    Runs.Always agent.protocol.step (fun t => Inv t.object.value t.world)
      (Optimistic.System.init (created uuid opt) m) events :=
  spec_valid.always_free (fun _ _ _ => trivial) (fun _ _ _ => trivial) (created_inv uuid opt m) events

/-- The finalizer of the agent is set, and the device that the PV of the data control
names is a logical volume on the node. -/
def Serves (c : Control) (m : Machine) : Prop :=
  c.held ∧ c.lvName ∈ m.lvsOf c.vgName ∧
    Csi.PV.getDevPath (.dataContrl c.toAntstorDataControl) = "/dev/" ++ c.vgName ++ "/" ++ c.lvName

theorem Inv.serves (h : Inv st m) (hLive : st.live = true) (hDeleting : st.control.deleting = false)
    (hReady : st.control.status.status = .ready) : Serves st.control m := by
  have hHeld := h.ready hLive hDeleting hReady
  obtain ⟨⟨-, hLvm⟩, hLv⟩ := h.built hLive hDeleting hHeld
  exact ⟨hHeld, hLv, by simp only [Csi.PV.getDevPath, hLvm]⟩

theorem ready_serves (uuid : String) (opt : Csi.PVCreateOption) (m : Machine)
    (events : List (Optimistic.Event Process (Answers × Hand))) :
    Runs.Always agent.protocol.step
      (fun t => t.object.value.live = true → t.object.value.control.deleting = false →
        t.object.value.control.status.status = .ready → Serves t.object.value.control t.world)
      (Optimistic.System.init (created uuid opt) m) events :=
  (inv_always uuid opt m events).mono fun _ h => h.serves

/-- A data control whose deletion was asked for under the finalizer of the agent
loses it only when neither its volume group nor one of its PVs is left, as long as
LVM lists what there is. -/
theorem deletion_leaves_nothing (uuid : String) (opt : Csi.PVCreateOption) (m : Machine)
    (events : List (Optimistic.Event Process (Answers × Hand))) :
    Runs.Always agent.protocol.step
      (fun t => t.object.value.early = false → t.world.missed = false →
        t.object.value.control.deleting = true → ¬ t.object.value.control.held →
          t.object.value.control.Clean t.world)
      (Optimistic.System.init (created uuid opt) m) events :=
  (inv_always uuid opt m events).mono fun _ h => h.clean

end Liteio.DataControl
