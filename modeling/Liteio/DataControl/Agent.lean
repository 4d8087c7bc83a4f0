import Liteio.Agent.Volume
import Liteio.Csi.Node
import Liteio.Library.Programs

/-! # The agent's pass over a data control

`DataControlReconciler.Reconcile` and its `handleDeletion` as a program that calls
the NVMe client and LVM of the node and the API server. The pass stops where the
source returns, which it does without an error and with a delay, and where an
index is out of range. The first update of a pass moves the version of the object
on, so that the status update the source sends after it is refused; the program
ends there.

`Machine` is what LVM and the NVMe client have on the node, `perform` what the
calls do there. LVM refuses what does not fit, and a call that fails may have acted
all the same. `missed` says whether a listing that a deletion asked for has failed.
-/

namespace Liteio.DataControl

open Worker VolumeSyncer

structure LVMControlPV where
  devPath : String := ""
  volId : EntityIdentity := {}
  targetInfo : SpdkTarget := {}
  deriving DecidableEq

structure Control extends AntstorDataControl where
  pvs : List LVMControlPV := []
  deriving DecidableEq

namespace Control

def vgName (c : Control) : String := c.ns ++ "-" ++ c.name

def lvName (c : Control) : String := c.name

/-- `PVs` of `Spec.LVM`, or of a new `LVMControl` if that is nil. -/
def lvmPVs (c : Control) : List LVMControlPV := if c.spec.lvm.isSome then c.pvs else []

def devs (c : Control) : List String := c.lvmPVs.map LVMControlPV.devPath

def deleting (c : Control) : Bool := c.deletionTimestamp.isSome

def held (c : Control) : Prop := kernelLVolFinalizer ∈ c.finalizers

instance (c : Control) : Decidable c.held := inferInstanceAs (Decidable (_ ∈ _))

def withLVM (c : Control) (pvs : List LVMControlPV) : Control :=
  { c with
    spec := { c.spec with lvm := some { vg := c.vgName, lvol := c.lvName } }
    pvs := pvs
    finalizers := c.finalizers ++ [kernelLVolFinalizer] }

def ready (c : Control) : Control := { c with status := { c.status with status := .ready } }

def released (c : Control) : Control := { c with finalizers := c.finalizers.erase kernelLVolFinalizer }

end Control

/-! ## The node -/

structure VolGroup where
  devices : List String := []
  lvs : List String := []
  deriving DecidableEq

structure Machine where
  nqns : List String := []
  pvs : Finset String := ∅
  vgs : FiniteMap String VolGroup := ∅
  missed : Bool := false
  deriving DecidableEq

namespace Machine

def hasVG (m : Machine) (vg : String) : Bool := (m.vgs.lookup vg).isSome

def lvsOf (m : Machine) (vg : String) : List String := ((m.vgs.lookup vg).map VolGroup.lvs).getD []

def inUse (m : Machine) (dev : String) : Bool := m.vgs.any fun _ group => dev ∈ group.devices

def createPV (m : Machine) (devs : Finset String) : Machine := { m with pvs := m.pvs ∪ devs }

def removePVs (m : Machine) (devs : Finset String) : Machine := { m with pvs := m.pvs \ devs }

def createVG (m : Machine) (vg : String) (devs : List String) : Machine :=
  { m with vgs := m.vgs.insert vg { devices := devs } }

def removeVG (m : Machine) (vg : String) : Machine := { m with vgs := m.vgs.erase vg }

def createLinearLV (m : Machine) (vg lv : String) : Machine :=
  match m.vgs.lookup vg with
  | some group => { m with vgs := m.vgs.insert vg { group with lvs := group.lvs ++ [lv] } }
  | none => m

end Machine

inductive Call where
  | getVolumeGroup (name : String)
  | listSubsystems
  | connectTarget (transType addr svcID nqn : String)
  | listNvmeDisk
  | listPV (cleaning : Bool)
  | createPV (devs : Finset String)
  | removePVs (devs : Finset String)
  | listVG (cleaning : Bool)
  | createVG (vg : String) (devs : List String)
  | removeVG (vg : String)
  | listLVInVG (vg : String)
  | createLinearLV (vg lv : String)
  | disconnectTarget (nqn : String)

/-- What a call returns: a listing unless it fails, or whether it has succeeded. -/
def Reply : Call → Type
  | .getVolumeGroup _ => Option AntstorVolumeGroup
  | .listSubsystems => Option (List String)
  | .listNvmeDisk => Option (List Csi.NvmeDevice)
  | .listPV _ => Option (Finset String)
  | .listVG _ => Option (Finset String)
  | .listLVInVG _ => Option (List String)
  | _ => Bool

/-- How a call goes: whether it succeeds, whether it has acted when it fails, and
what the API server and the NVMe client return. -/
structure Answers where
  ok : Bool := true
  acted : Bool := false
  group : AntstorVolumeGroup := {}
  disks : List Csi.NvmeDevice := []

namespace Answers

def command (ans : Answers) (fits : Bool) (effect : Machine → Machine) (m : Machine) : Bool × Machine :=
  if fits && ans.ok then (true, effect m)
  else if fits && ans.acted then (false, effect m)
  else (false, m)

def list {β : Type} (ans : Answers) (value : β) (cleaning : Bool) (m : Machine) : Option β × Machine :=
  if ans.ok then (some value, m) else (none, if cleaning then { m with missed := true } else m)

end Answers

def perform : (c : Call) → Answers → Machine → Reply c × Machine
  | .getVolumeGroup _, ans, m => ans.list ans.group false m
  | .listSubsystems, ans, m => ans.list m.nqns false m
  | .connectTarget _ _ _ nqn, ans, m =>
    ans.command (nqn ∉ m.nqns) (fun m => { m with nqns := m.nqns ++ [nqn] }) m
  | .listNvmeDisk, ans, m => ans.list ans.disks false m
  | .listPV cleaning, ans, m => ans.list m.pvs cleaning m
  | .createPV devs, ans, m => ans.command (Disjoint devs m.pvs) (·.createPV devs) m
  | .removePVs devs, ans, m =>
    ans.command (devs ⊆ m.pvs ∧ ∀ dev ∈ devs, m.inUse dev = false) (·.removePVs devs) m
  | .listVG cleaning, ans, m => ans.list m.vgs.keys cleaning m
  | .createVG vg devs, ans, m =>
    ans.command (m.hasVG vg = false ∧ devs ≠ [] ∧ devs.Nodup ∧ ∀ dev ∈ devs, dev ∈ m.pvs ∧ m.inUse dev = false)
      (·.createVG vg devs) m
  | .removeVG vg, ans, m => ans.command (m.hasVG vg) (·.removeVG vg) m
  | .listLVInVG vg, ans, m => ans.list (m.lvsOf vg) false m
  | .createLinearLV vg lv, ans, m => ans.command (m.hasVG vg && lv ∉ m.lvsOf vg) (·.createLinearLV vg lv) m
  | .disconnectTarget nqn, ans, m => ans.command true (fun m => { m with nqns := m.nqns.erase nqn }) m

theorem Answers.command_cases (ans : Answers) (fits : Bool) (effect : Machine → Machine) (m : Machine) :
    (ans.command fits effect m).2 = m ∧ (ans.command fits effect m).1 = false ∨
      fits = true ∧ (ans.command fits effect m).2 = effect m := by
  unfold command
  split
  next h => exact .inr ⟨(Bool.and_eq_true _ _ ▸ h).1, rfl⟩
  · split
    next h => exact .inr ⟨(Bool.and_eq_true _ _ ▸ h).1, rfl⟩
    · exact .inl ⟨rfl, rfl⟩

theorem Answers.command_keeps {P : Machine → Prop} {ans : Answers} {fits : Bool} {effect : Machine → Machine}
    {m : Machine} (h : P m) (hEffect : fits = true → P (effect m)) : P (ans.command fits effect m).2 := by
  rcases ans.command_cases fits effect m with ⟨hSame, -⟩ | ⟨hFits, hDone⟩
  · rwa [hSame]
  · rw [hDone]
    exact hEffect hFits

theorem Answers.command_ok {ans : Answers} {fits : Bool} {effect : Machine → Machine} {m : Machine}
    (h : (ans.command fits effect m).1 = true) : fits = true ∧ (ans.command fits effect m).2 = effect m := by
  rcases ans.command_cases fits effect m with ⟨-, hFailed⟩ | hDone
  · simp [hFailed] at h
  · exact hDone

theorem Answers.list_cases {β : Type} (ans : Answers) (value : β) (cleaning : Bool) (m : Machine) :
    ans.list value cleaning m = (some value, m) ∨
      ans.list value cleaning m = (none, if cleaning then { m with missed := true } else m) := by
  unfold list
  split
  · exact .inl rfl
  · exact .inr rfl

theorem Answers.list_keeps {P : Machine → Prop} {β : Type} {ans : Answers} {m : Machine} (h : P m)
    (hMissed : P { m with missed := true }) (value : β) (cleaning : Bool) : P (ans.list value cleaning m).2 := by
  rcases ans.list_cases value cleaning m with hEq | hEq <;> rw [hEq]
  · exact h
  · dsimp only
    split
    · exact hMissed
    · exact h

theorem Answers.list_some {β : Type} {ans : Answers} {value b : β} {cleaning : Bool} {m : Machine}
    (h : (ans.list value cleaning m).1 = some b) : b = value ∧ (ans.list value cleaning m).2 = m := by
  rcases ans.list_cases value cleaning m with hEq | hEq <;> rw [hEq] at h ⊢
  · exact ⟨(Option.some.inj h).symm, rfl⟩
  · cases h

namespace Machine

variable (m : Machine) (vg lv name : String) (devs : List String)

theorem hasVG_eq_false_iff : m.hasVG vg = false ↔ m.vgs.lookup vg = none := by
  rw [hasVG, Option.isSome_eq_false_iff, Option.isNone_iff_eq_none]

theorem mem_keys_iff : vg ∈ m.vgs.keys ↔ m.hasVG vg = true := by
  rw [Finmap.mem_keys, ← Finmap.lookup_isSome, hasVG]

theorem hasVG_removeVG : (m.removeVG vg).hasVG vg = false := by
  rw [hasVG_eq_false_iff, removeVG, Finmap.lookup_erase]

theorem hasVG_removeVG_of_not (h : m.hasVG name = false) : (m.removeVG vg).hasVG name = false := by
  rw [hasVG_eq_false_iff] at h ⊢
  rw [removeVG, FiniteMap.lookup_erase_eq, h, ite_self]

theorem lvsOf_createVG (h : m.hasVG vg = false) (hMem : lv ∈ m.lvsOf name) :
    lv ∈ (m.createVG vg devs).lvsOf name := by
  by_cases hEq : name = vg
  · subst hEq
    rw [hasVG_eq_false_iff] at h
    simp [lvsOf, h] at hMem
  · rwa [lvsOf, createVG, Finmap.lookup_insert_of_ne _ hEq]

theorem mem_lvsOf_createLinearLV (h : m.hasVG vg = true) : lv ∈ (m.createLinearLV vg lv).lvsOf vg := by
  obtain ⟨group, hGroup⟩ := Option.isSome_iff_exists.mp h
  simp [createLinearLV, hGroup, lvsOf]

theorem lvsOf_createLinearLV {other : String} (hMem : other ∈ m.lvsOf name) :
    other ∈ (m.createLinearLV vg lv).lvsOf name := by
  unfold createLinearLV
  split
  next group hGroup =>
    by_cases hEq : name = vg
    · subst hEq
      simp only [lvsOf, hGroup, Option.map_some, Option.getD_some] at hMem
      simp [lvsOf, hMem]
    · rwa [lvsOf, Finmap.lookup_insert_of_ne _ hEq]
  · exact hMem

theorem hasVG_createLinearLV : (m.createLinearLV vg lv).hasVG name = m.hasVG name := by
  unfold createLinearLV
  split
  next group hGroup =>
    by_cases hEq : name = vg
    · subst hEq
      simp [hasVG, hGroup]
    · rw [hasVG, Finmap.lookup_insert_of_ne _ hEq, hasVG]
  · rfl

theorem pvs_createLinearLV : (m.createLinearLV vg lv).pvs = m.pvs := by
  unfold createLinearLV
  split <;> rfl

theorem missed_createLinearLV : (m.createLinearLV vg lv).missed = m.missed := by
  unfold createLinearLV
  split <;> rfl

end Machine

/-! ## The pass -/

inductive Write where
  | update (c : Control)
  | updateStatus (c : Control)
  | delete (now : ℕ)

abbrev Run := Prog Call Reply Write

/-- The PVs of the volumes of a group that have a target. The volumes are taken by
the index of the status, and a status without its volume ends the process. -/
def pvsOf (volumes : List VolumeMeta) : List VolumeTargetStatus → Option (List LVMControlPV)
  | [] => some []
  | item :: rest =>
    match item.spdkTarget with
    | none => pvsOf volumes.tail rest
    | some tgt => do
      let vol ← volumes.head?
      let pvs ← pvsOf volumes.tail rest
      return { volId := vol.volId, targetInfo := tgt } :: pvs

def collectPVs : List EntityIdentity → List LVMControlPV → Run (List LVMControlPV)
  | [], pvs => .done pvs
  | vg :: rest, pvs =>
    .call (.getVolumeGroup vg.name) fun (reply : Option AntstorVolumeGroup) =>
      match reply with
      | none => .stop
      | some group =>
        if group.status.status ≠ .ready then .stop
        else match pvsOf group.spec.volumes group.status.volumeStatus with
          | none => .stop
          | some more => collectPVs rest (pvs ++ more)

def connectAll (connectedNQN : List String) : List LVMControlPV → Run PUnit
  | [] => .done ⟨⟩
  | pv :: rest =>
    (Prog.when (pv.targetInfo.subsysNQN ∉ connectedNQN)
      (.attempt (.connectTarget pv.targetInfo.transType.toLower pv.targetInfo.address pv.targetInfo.svcID
        pv.targetInfo.subsysNQN) id)).bind fun _ => connectAll connectedNQN rest

/-- The device path of each PV and all devices: every disk with the serial number of
a target counts, and the last one gives the path. -/
def findDevs (disks : List Csi.NvmeDevice) : List LVMControlPV → Option (List LVMControlPV × List String)
  | [] => some ([], [])
  | pv :: rest =>
    let found := (disks.filter fun disk => disk.serialNumber = pv.targetInfo.serialNum).map Csi.NvmeDevice.devicePath
    match found.getLast? with
    | none => none
    | some devPath => do
      let (pvs, devs) ← findDevs disks rest
      return ({ pv with devPath := devPath } :: pvs, found ++ devs)

def setupLVM (c : Control) (devs : List String) : Run PUnit := do
  let names ← Prog.fetch (.listPV false) id
  Prog.when (devs.toFinset \ names).Nonempty (.attempt (.createPV (devs.toFinset \ names)) id)
  let vgs ← Prog.fetch (.listVG false) id
  Prog.when (c.vgName ∉ vgs) (.attempt (.createVG c.vgName devs) id)
  let lvs ← Prog.fetch (.listLVInVG c.vgName) id
  Prog.when (c.lvName ∉ lvs) (.attempt (.createLinearLV c.vgName c.lvName) id)

def setup (c : Control) (pvs : List LVMControlPV) : Run PUnit := do
  let connectedNQN ← Prog.fetch .listSubsystems id
  connectAll connectedNQN pvs
  let disks ← Prog.fetch .listNvmeDisk id
  match findDevs disks pvs with
  | none => .stop
  | some (pvs, devs) => do
    setupLVM c devs
    Prog.send (.update (c.withLVM pvs))

def disconnectAll : List LVMControlPV → Run PUnit
  | [] => .done ⟨⟩
  | pv :: rest =>
    -- an error is only logged
    if pv.targetInfo.subsysNQN ≠ "" then .call (.disconnectTarget pv.targetInfo.subsysNQN) fun _ => disconnectAll rest
    else disconnectAll rest

/-- A listing that fails is logged and taken to be empty. -/
def removeVG (vg : String) : Run PUnit :=
  .call (.listVG true) fun (vgs : Option (Finset String)) =>
    Prog.when (vg ∈ vgs.getD ∅) (.attempt (.removeVG vg) id)

def removePVs (devs : Finset String) : Run PUnit :=
  .call (.listPV true) fun (names : Option (Finset String)) =>
    Prog.when (devs ∩ names.getD ∅).Nonempty (.attempt (.removePVs (devs ∩ names.getD ∅)) id)

def handleDeletion (c : Control) : Run PUnit :=
  match c.spec.engineType, c.spec.lvm with
  | .kernelLVM, some lvm => do
    Prog.when (lvm.vg ≠ "") (removeVG lvm.vg)
    removePVs c.devs.toFinset
    disconnectAll c.lvmPVs
    Prog.when c.held (Prog.send (.update c.released))
  | _, _ => .done ⟨⟩

def reconcile (c : Control) : Run PUnit :=
  if c.deleting then handleDeletion c
  else if c.status.status = .ready then .done ⟨⟩
  else if c.spec.volumeGroups = [] then .done ⟨⟩
  else do
    let pvs ← collectPVs c.spec.volumeGroups c.lvmPVs
    match c.spec.engineType with
    | .spdkLVStore => .done ⟨⟩
    | .kernelLVM =>
      if c.held then
        match c.spec.lvm with
        | some lvm => Prog.when (lvm.lvol ≠ "") (Prog.send (.updateStatus c.ready))
        | none => .done ⟨⟩
      else setup c pvs

end Liteio.DataControl
