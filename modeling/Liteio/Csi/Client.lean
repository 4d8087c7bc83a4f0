import Liteio.Csi.Create
import Liteio.Library.Requests
import Liteio.VolumeGroup.Sched

/-! # The CSI client over the API server

`CreatePV`, `GetPvByID` and `DeletePV` of pkg/csi/client/pv.go on the volumes,
volume groups and data controls of the namespace, each request with its fate, and
the answer of `ControllerServer.CreateVolume`. The UUID a call generates is an
argument of it, and so are the order in which the API server lists what carries a
label and the reading of quantities, which ends the process on other texts.
-/

namespace Liteio

structure LVMControl where
  vg : String := ""
  lvol : String := ""
  deriving DecidableEq

structure AntstorDataControlSpec where
  uuid : String := ""
  totalSize : ℤ := 0
  lvm : Option LVMControl := none
  engineType : PoolMode := .kernelLVM
  raidLevel : String := ""
  hostNode : NodeInfo := {}
  targetNodeId : String := ""
  volumeGroups : List EntityIdentity := []
  deriving DecidableEq

structure AntstorDataControl extends ObjectMeta where
  spec : AntstorDataControlSpec := {}
  status : AntstorVolumeStatus := {}
  deriving DecidableEq

def ObjectMeta.deleted (now : ℕ) (m : ObjectMeta) : Option ObjectMeta :=
  if m.finalizers = [] then none
  else some { m with deletionTimestamp := some (m.deletionTimestamp.getD now) }

def AntstorVolume.deleted (now : ℕ) (vol : AntstorVolume) : Option AntstorVolume :=
  (vol.toObjectMeta.deleted now).map fun m => { vol with toObjectMeta := m }

def AntstorVolumeGroup.deleted (now : ℕ) (group : AntstorVolumeGroup) : Option AntstorVolumeGroup :=
  (group.toObjectMeta.deleted now).map fun m => { group with toObjectMeta := m }

def AntstorDataControl.deleted (now : ℕ) (control : AntstorDataControl) : Option AntstorDataControl :=
  (control.toObjectMeta.deleted now).map fun m => { control with toObjectMeta := m }

namespace Csi

open MachineInt Requests

def dataControlUuidPrefix : String := "dc-"
def pvTypeVolume : String := "Volume"
def pvTypeVolumeGroup : String := "VolumeGroup"
def dataControlNameKey : String := "obnvmf/data-control-name"
def stragetyBestFit : String := "BestFit"

structure Cluster where
  volumes : FiniteMap String AntstorVolume := ∅
  volumeGroups : FiniteMap String AntstorVolumeGroup := ∅
  dataControls : FiniteMap String AntstorDataControl := ∅

def PVCreateOption.typeOfPV (opt : PVCreateOption) : String :=
  if opt.raidLevel ≠ "" then pvTypeVolumeGroup else textOr opt.pvType pvTypeVolume

def SymmetryValue.ofText : String → SymmetryValue
  | "Asymmetric" => .asymmetric
  | "Symmetric" => .symmetric
  | text => .other text

def mustParse (parseQuantity : String → Option Quantity) (text : String) : Except CreateError Quantity :=
  match parseQuantity text with
  | some q => .ok q
  | none => .error (.mustParse text)

def PVCreateOption.pvLabels (opt : PVCreateOption) : FiniteMap String String :=
  opt.labels.insert volumePVNameLabelKey opt.pvName

def newVolumeGroup (parseQuantity : String → Option Quantity) (uuid : String) (opt : PVCreateOption) :
    Except CreateError AntstorVolumeGroup := do
  let min ← mustParse parseQuantity opt.minVolumeSize
  let max ← mustParse parseQuantity opt.maxVolumeSize
  return {
    ns := defaultNamespace
    name := opt.pvName
    labels := some (opt.pvLabels.insert dataControlNameKey opt.pvName)
    annotations := some opt.annotations
    spec := {
      uuid := uuid
      totalSize := opt.size
      stragety := { name := stragetyBestFit, allowEmptyNode := opt.allowEmptyNode }
      desiredVolumeSpec := {
        annotations := some opt.annotations
        labels := some opt.pvLabels
        countRange := { min := 1, max := opt.maxVolumes }
        sizeRange := { min := min, max := max }
        sizeSymmetry := SymmetryValue.ofText opt.sizeSymmetry } } }

def newDataControl (uuid : String) (opt : PVCreateOption) : AntstorDataControl where
  ns := defaultNamespace
  name := opt.pvName
  labels := some (opt.pvLabels.insert uuidLabelKey (dataControlUuidPrefix ++ uuid))
  annotations := some opt.annotations
  spec := {
    uuid := dataControlUuidPrefix ++ uuid
    totalSize := opt.size
    engineType := .kernelLVM
    raidLevel := opt.raidLevel
    hostNode := opt.hostNode
    volumeGroups := [{ ns := defaultNamespace, name := opt.pvName, uuid := uuid }] }

structure Fates where
  getVolume : Fate := .answered
  createVolume : Fate := .answered
  getVolumeGroup : Fate := .answered
  createVolumeGroup : Fate := .answered
  getDataControl : Fate := .answered
  createDataControl : Fate := .answered

structure CreateCall where
  opt : PVCreateOption
  uuid : String
  fates : Fates := {}

abbrev Answer := Except (Failure CreateError) String

namespace Cluster

def createVolumePV (c : Cluster) (call : CreateCall) : Cluster × Answer :=
  let out := ensure call.fates.getVolume call.fates.createVolume c.volumes call.opt.pvName
    (newVolume call.uuid call.opt)
  ({ c with volumes := out.1 }, out.2.map fun vol => vol.spec.uuid)

def createVolumeGroup (parseQuantity : String → Option Quantity) (c : Cluster) (call : CreateCall) :
    Cluster × Except (Failure CreateError) AntstorVolumeGroup :=
  let out := ensure call.fates.getVolumeGroup call.fates.createVolumeGroup c.volumeGroups
    call.opt.pvName (newVolumeGroup parseQuantity call.uuid call.opt)
  ({ c with volumeGroups := out.1 }, out.2)

def createDataControl (c : Cluster) (call : CreateCall) : Cluster × Answer :=
  let out := ensure call.fates.getDataControl call.fates.createDataControl c.dataControls
    call.opt.pvName (.ok (newDataControl call.uuid call.opt))
  ({ c with dataControls := out.1 }, out.2.map fun control => control.spec.uuid)

/-- A type of PV that is none of the two gets an empty ID and no error. -/
def createPV (parseQuantity : String → Option Quantity) (c : Cluster) (call : CreateCall) : Cluster × Answer :=
  match call.opt.check with
  | some err => (c, .error (.built err))
  | none =>
    if call.opt.typeOfPV = pvTypeVolume then c.createVolumePV call
    else if call.opt.typeOfPV = pvTypeVolumeGroup then
      let out := c.createVolumeGroup parseQuantity call
      match out.2 with
      | .error err => (out.1, .error err)
      | .ok _ => out.1.createDataControl call
    else (c, .ok "")

end Cluster

structure VolumeCall where
  api : Answers
  req : CreateVolumeRequest
  uuid : String
  fates : Fates := {}

structure CreateVolumeResponse where
  volumeId : String
  capacityBytes : ℤ
  volumeContext : FiniteMap String String
  contentSource : Option String
  accessibleTopology : List (FiniteMap String String)
  deriving DecidableEq

def newResponse (req : CreateVolumeRequest) (opt : PVCreateOption) (volID : String) : CreateVolumeResponse where
  volumeId := volID
  capacityBytes := opt.size
  volumeContext := req.parameters
  contentSource := req.snapshotId
  accessibleTopology :=
    if opt.positionAdvice = "MustLocal" then [Finmap.singleton k8sLabelKeyHostname opt.hostNode.hostname]
    else []

def Cluster.createVolume (parseQuantity : String → Option Quantity) (c : Cluster) (call : VolumeCall) :
    Cluster × Except (Failure CreateError) CreateVolumeResponse :=
  match Csi.createVolume call.api call.req with
  | .error err => (c, .error (.built err))
  | .ok opt =>
    let out := c.createPV parseQuantity { opt := opt, uuid := call.uuid, fates := call.fates }
    (out.1, out.2.map (newResponse call.req opt))

inductive DeleteError where
  | emptyID
  | list
  | get
  | delete
  deriving DecidableEq

/-- One call of `DeletePV`: what is listed for the label, and the fates of its
other requests. -/
structure DeleteCall where
  id : String
  now : ℕ := 0
  volumes : Option (List AntstorVolume) := none
  dataControls : Option (List AntstorDataControl) := none
  getVolumeGroup : String → Fate := fun _ => .answered
  deleteVolumeGroup : String → Fate := fun _ => .answered
  delete : Fate := .answered

inductive PV where
  | volume (vol : AntstorVolume)
  | dataContrl (control : AntstorDataControl)

def getPvByID (call : DeleteCall) : Except DeleteError (Option PV) :=
  if dataControlUuidPrefix.toList.isPrefixOf call.id.toList then
    match call.dataControls with
    | none => .error .list
    | some items => .ok (items.head?.map .dataContrl)
  else
    match call.volumes with
    | none => .error .list
    | some items => .ok (items.head?.map .volume)

namespace Cluster

def deleteVolumeGroups (call : DeleteCall) : List EntityIdentity → Cluster → Cluster × Option DeleteError
  | [], c => (c, none)
  | item :: items, c =>
    if call.getVolumeGroup item.name ≠ .answered then (c, some .get)
    else if (c.volumeGroups.lookup item.name).isNone then deleteVolumeGroups call items c
    else
      let out := Requests.delete (call.deleteVolumeGroup item.name) (AntstorVolumeGroup.deleted call.now)
        c.volumeGroups item.name
      if out.2 then deleteVolumeGroups call items { c with volumeGroups := out.1 }
      else ({ c with volumeGroups := out.1 }, some .delete)

def deletePV (c : Cluster) (call : DeleteCall) : Cluster × Option DeleteError :=
  if call.id = "" then (c, some .emptyID)
  else
    match getPvByID call with
    | .error err => (c, some err)
    | .ok none => (c, none)
    | .ok (some (.volume vol)) =>
      let out := Requests.delete call.delete (AntstorVolume.deleted call.now) c.volumes vol.name
      ({ c with volumes := out.1 }, if out.2 then none else some .delete)
    | .ok (some (.dataContrl control)) =>
      match deleteVolumeGroups call control.spec.volumeGroups c with
      | (c, some err) => (c, some err)
      | (c, none) =>
        let out := Requests.delete call.delete (AntstorDataControl.deleted call.now) c.dataControls control.name
        ({ c with dataControls := out.1 }, if out.2 then none else some .delete)

end Cluster

end Csi

end Liteio
