import Liteio.Csi.Client

/-! # The CSI node server

`NodeStageVolume`, `NodeUnstageVolume`, `NodePublishVolume` and
`NodeExpandVolume` of pkg/csi/rpcserver/node.go as functions of the host with its
NVMe disks and of the answers a call gets. An outcome has the calls that were
made outside, the device the handler decided on, the NQN it made sure to be
connected to and the error it ended with; a nil pointer ends it as well. The log
lines and the waiting times are left out.
-/

namespace Liteio.Csi

def containerTypeKey : String := "obnvmf/pod-runtime-class"
def containerTypeForKata : String := "rund"
def spdkConnectModeKey : String := "obnvmf/spdk-conn-mode"
def spdkConnectModeGuestKernelDirect : String := "guest-direct"
def volumeModeKey : String := "obnvmf/volume-mode"
def volumeModeBlock : String := "Block"
def mkfsParamsKey : String := "obnvmf/mkfsParams"
def volContextKeySkipUpdatePublishParam : String := "skip-save-context"
def expansionOriginalSizeKey : String := "obnvmf/expansion-original-size"
def podKeys : List String :=
  ["csi.storage.k8s.io/pod.name", "csi.storage.k8s.io/pod.namespace", "csi.storage.k8s.io/pod.uid"]

namespace PV

def getMeta : PV → ObjectMeta
  | .volume vol => vol.toObjectMeta
  | .dataContrl control => control.toObjectMeta

def getStatus : PV → VolumeStatus
  | .volume vol => vol.status.status
  | .dataContrl control => control.status.status

/-- A key that is absent reads as the empty text. -/
def annotationOf (pv : PV) (key : String) : String := (pv.getMeta.annotationAt key).getD ""

def getFsType (pv : PV) : String := textOr ((pv.getMeta.label fsTypeLabelKey).getD "") "xfs"

/-- `none` if the host node is nil. -/
def isLocal : PV → Option Bool
  | .volume vol => vol.spec.hostNode.map fun host => host.id = vol.spec.targetNodeId
  | .dataContrl control => some (control.spec.engineType = .kernelLVM)

def isLVM : PV → Bool
  | .volume vol => vol.spec.type = .kernelLVol
  | .dataContrl control => control.spec.engineType = .kernelLVM

def getDevPath : PV → String
  | .volume vol => (vol.spec.kernelLvol.map KernelLvol.devPath).getD ""
  | .dataContrl control =>
    match control.spec.lvm with
    | some lvm => "/dev/" ++ lvm.vg ++ "/" ++ lvm.lvol
    | none => ""

def getSpdkTarget : PV → Option SpdkTarget
  | .volume vol => vol.spec.spdkTarget
  | .dataContrl _ => none

def isForRund (pv : PV) : Bool := pv.annotationOf containerTypeKey = containerTypeForKata

end PV

structure NvmeDevice where
  devicePath : String
  serialNumber : String
  deriving DecidableEq

structure Host where
  disks : List NvmeDevice := []
  deriving DecidableEq

inductive NodeCall where
  | connectTarget (transType address svcID nqn hostTransAddr : String)
  | disconnectTarget (nqn : String)
  | safeFormat (devicePath fsType : String) (mkfsArgs : List String)
  | mount (source target fsType : String) (options : List String)
  | unmount (target : String)
  | mountBlock (devicePath target : String)
  | resize (devicePath path : String)
  | writeKataVolumeConfigFile (dir devicePath fsType : String) (isBlockMode : Bool)
  | writeConfigFileForKataSpdkDirectConnect (dir fsType : String) (target : Option SpdkTarget)
  | removeFile (dir : String)
  | setNodePublishParameters (id stagingTargetPath targetPath : String) (context : List (String × String))
  deriving DecidableEq

inductive NodeError where
  | invalidArgument
  | mkdir
  | getPv
  | notFoundResource
  | notReady
  | expanding
  | nilPointer
  | listNvmeDisk
  | connect
  | noDevice
  | mountPoint
  | format
  | mount
  | unmount
  | stillMounted
  | configFile
  | disconnect
  | resize
  | blockDeviceSize
  | blockModeOfKata
  deriving DecidableEq

inductive MountPoint where
  | mounted
  | notMounted
  | notExist
  | unknown
  deriving DecidableEq

/-- The answers to what a handler asks and does outside. `attached` are the disks
that a connection brings, as far as they show up in time. -/
structure NodeAnswers where
  getPvByID : Except NodeError PV
  mkdirAll : Bool := true
  listNvmeDisk : Bool := true
  connectTarget : Bool := true
  attached : List NvmeDevice := []
  listAgain : Bool := true
  mountPoint : MountPoint := .notMounted
  mkdirAgain : Bool := true
  safeFormat : Bool := true
  mount : Bool := true
  configFile : Bool := true
  mountCount : Option ℕ := some 1
  unmount : Bool := true
  disconnectTarget : Bool := true
  isMounted : Option Bool := some false
  resize : Bool := true
  blockDeviceSize : Option ℤ := some 0

structure Outcome where
  host : Host
  calls : List NodeCall := []
  device : Option String := none
  connected : Option String := none
  capacityBytes : Option ℤ := none
  err : Option NodeError := none

namespace Outcome

def fail (out : Outcome) (err : NodeError) : Outcome := { out with err := some err }

def add (out : Outcome) (call : NodeCall) : Outcome := { out with calls := out.calls ++ [call] }

def attempt (out : Outcome) (call : NodeCall) (ok : Bool) (err : NodeError) (next : Outcome → Outcome) :
    Outcome :=
  if ok then next (out.add call) else (out.add call).fail err

end Outcome

/-- The last disk with the serial number; the empty text if there is none. -/
def findDevicePath (serialNum : String) (devices : List NvmeDevice) : String :=
  devices.foldl (fun devicePath item =>
    if item.serialNumber = serialNum then item.devicePath else devicePath) ""

/-- The target is followed only if there is a disk to compare it with. -/
def getDevicePath (ans : NodeAnswers) (host : Host) (tgt : Option SpdkTarget) : Except NodeError String :=
  if ans.listNvmeDisk then
    match tgt with
    | some tgt => .ok (findDevicePath tgt.serialNum host.disks)
    | none => if host.disks = [] then .ok "" else .error .nilPointer
  else .error .listNvmeDisk

def connectCall (tgt : SpdkTarget) : NodeCall :=
  let (transType, hostTransAddr) :=
    if tgt.transType = "VFIOUSER" then ("vfio-user", tgt.addrFam)
    else if tgt.transType = "TCP" then ("tcp", "")
    else ("", "")
  .connectTarget transType tgt.address tgt.svcID tgt.subsysNQN hostTransAddr

def connectSpdkTarget (ans : NodeAnswers) (out : Outcome) (tgt : Option SpdkTarget)
    (next : Outcome → String → Outcome) : Outcome :=
  if ans.listNvmeDisk then
    match tgt with
    | none => out.fail .nilPointer
    | some tgt =>
      let devicePath := findDevicePath tgt.serialNum out.host.disks
      if devicePath ≠ "" then next { out with connected := some tgt.subsysNQN } devicePath
      else
        out.attempt (connectCall tgt) ans.connectTarget .connect fun out =>
          let host := { out.host with disks := out.host.disks ++ ans.attached }
          let out := { out with host := host, connected := some tgt.subsysNQN }
          if ans.listAgain then next out (findDevicePath tgt.serialNum host.disks)
          else out.fail .listNvmeDisk
  else out.fail .listNvmeDisk

inductive VolumeCapability where
  | block
  | mount
  deriving DecidableEq

structure NodeStageVolumeRequest where
  volumeId : String
  stagingTargetPath : String
  volumeCapability : Option VolumeCapability
  volumeContext : FiniteMap String String := ∅

def NodeStageVolumeRequest.mkfsArgs (req : NodeStageVolumeRequest) : List String :=
  let mkfsParams := (req.volumeContext.lookup mkfsParamsKey).getD ""
  if mkfsParams ≠ "" then (mkfsParams.toList.splitOn ' ').map String.ofList else []

def stageKata (ans : NodeAnswers) (out : Outcome) (req : NodeStageVolumeRequest) (pv : PV) (isLocalDisk : Bool) :
    Outcome :=
  let fsType := pv.getFsType
  let path := req.stagingTargetPath
  if !isLocalDisk ∧ pv.annotationOf spdkConnectModeKey = spdkConnectModeGuestKernelDirect then
    out.attempt (.writeConfigFileForKataSpdkDirectConnect path fsType pv.getSpdkTarget)
      (ans.configFile && pv.getSpdkTarget.isSome) .configFile id
  else
    let devicePath := if isLocalDisk then pv.getDevPath else ""
    let out := { out with device := some devicePath }
    let isBlockModeForRund := pv.annotationOf volumeModeKey = volumeModeBlock
    let configure := fun (out : Outcome) =>
      out.attempt (.writeKataVolumeConfigFile path devicePath fsType isBlockModeForRund) ans.configFile
        .configFile id
    if isBlockModeForRund then configure out
    else out.attempt (.safeFormat devicePath fsType req.mkfsArgs) ans.safeFormat .format configure

def isClonedVol (pv : PV) : Bool :=
  (pv.getMeta.label volumeSourceSnapNameLabelKey).isSome &&
    (pv.getMeta.label volumeSourceSnapNamespaceLabelKey).isSome

def formatAndMount (ans : NodeAnswers) (req : NodeStageVolumeRequest) (pv : PV) (devicePath : String)
    (out : Outcome) : Outcome :=
  let mountOpts := if isClonedVol pv then ["nouuid"] else []
  out.attempt (.safeFormat devicePath pv.getFsType req.mkfsArgs) ans.safeFormat .format fun out =>
    out.attempt (.mount devicePath req.stagingTargetPath pv.getFsType mountOpts) ans.mount .mount id

def stageDevice (ans : NodeAnswers) (req : NodeStageVolumeRequest) (pv : PV) (out : Outcome)
    (devicePath : String) : Outcome :=
  if devicePath = "" then out.fail .noDevice
  else
    let out := { out with device := some devicePath }
    if req.volumeCapability = some .block then out
    else
      match ans.mountPoint with
      | .unknown => out.fail .mountPoint
      | .mounted => out
      | .notExist => if ans.mkdirAgain then formatAndMount ans req pv devicePath out else out.fail .mkdir
      | .notMounted => formatAndMount ans req pv devicePath out

def nodeStageVolume (ans : NodeAnswers) (host : Host) (req : NodeStageVolumeRequest) : Outcome :=
  let out : Outcome := { host := host }
  if req.volumeId = "" ∨ req.stagingTargetPath = "" ∨ req.volumeCapability = none then
    out.fail .invalidArgument
  else if !ans.mkdirAll then out.fail .mkdir
  else
    match ans.getPvByID with
    | .error _ => out.fail .getPv
    | .ok pv =>
      if pv.getStatus ≠ .ready then out.fail .notReady
      else
        match pv.isLocal with
        | none => out.fail .nilPointer
        | some isLocalDisk =>
          if pv.isForRund then stageKata ans out req pv isLocalDisk
          else if !isLocalDisk || (!pv.isLVM && pv.getSpdkTarget.isSome) then
            connectSpdkTarget ans out pv.getSpdkTarget (stageDevice ans req pv)
          else stageDevice ans req pv out pv.getDevPath

structure NodeUnstageVolumeRequest where
  volumeId : String
  stagingTargetPath : String

def disconnect (ans : NodeAnswers) (pv : PV) (out : Outcome) : Outcome :=
  if pv.isLVM then out
  else
    match pv.getSpdkTarget with
    | none => out.fail .nilPointer
    | some tgt =>
      -- the nvme client refuses an empty name
      if tgt.subsysNQN = "" then out.fail .disconnect
      else out.attempt (.disconnectTarget tgt.subsysNQN) ans.disconnectTarget .disconnect id

def unmountPath (ans : NodeAnswers) (req : NodeUnstageVolumeRequest) (pv : PV) (out : Outcome) : Outcome :=
  match ans.mountCount with
  | none => out.fail .mountPoint
  | some cnt =>
    out.attempt (.unmount req.stagingTargetPath) ans.unmount .unmount fun out =>
      if 1 < cnt then out.fail .stillMounted else disconnect ans pv out

def unmountStage (ans : NodeAnswers) (req : NodeUnstageVolumeRequest) (pv : PV) (out : Outcome) : Outcome :=
  if pv.isForRund then
    out.attempt (.removeFile req.stagingTargetPath) ans.configFile .configFile (unmountPath ans req pv)
  else unmountPath ans req pv out

/-- A check for a mount point that fails on a path that exists counts as mounted. -/
def nodeUnstageVolume (ans : NodeAnswers) (host : Host) (req : NodeUnstageVolumeRequest) : Outcome :=
  let out : Outcome := { host := host }
  if req.volumeId = "" ∨ req.stagingTargetPath = "" then out.fail .invalidArgument
  else
    match ans.getPvByID with
    | .error .notFoundResource => out
    | .error _ => out.fail .getPv
    | .ok pv =>
      match ans.mountPoint with
      | .notMounted | .notExist => disconnect ans pv out
      | .mounted | .unknown => unmountStage ans req pv out

structure NodePublishVolumeRequest where
  volumeId : String
  stagingTargetPath : String
  targetPath : String
  volumeCapability : Option VolumeCapability
  isReadonly : Bool := false
  volumeContext : FiniteMap String String := ∅

/-- Whatever becomes of the record, the handler goes on. -/
def recordParameters (req : NodePublishVolumeRequest) (out : Outcome) : Outcome :=
  if req.volumeContext.lookup volContextKeySkipUpdatePublishParam = some "true" then out
  else out.add (.setNodePublishParameters req.volumeId req.stagingTargetPath req.targetPath
    (podKeys.filterMap fun key => (req.volumeContext.lookup key).map fun val => (key, val)))

def publishMount (ans : NodeAnswers) (req : NodePublishVolumeRequest) (pv : PV) (out : Outcome) : Outcome :=
  let options := if req.isReadonly then ["bind", "ro"] else ["bind"]
  if !ans.mkdirAll then out.fail .mkdir
  else
    match ans.isMounted with
    | none => out.fail .mountPoint
    | some true => out
    | some false =>
      out.attempt (.mount req.stagingTargetPath req.targetPath pv.getFsType options) ans.mount .mount id

def stagedDevice (ans : NodeAnswers) (host : Host) (pv : PV) : Except NodeError String :=
  if pv.isLVM then .ok pv.getDevPath else getDevicePath ans host pv.getSpdkTarget

def withDevice (ans : NodeAnswers) (pv : PV) (out : Outcome) (next : Outcome → String → Outcome) : Outcome :=
  match stagedDevice ans out.host pv with
  | .error err => out.fail err
  | .ok devPath =>
    if devPath = "" then out.fail .noDevice else next { out with device := some devPath } devPath

def publishBlock (ans : NodeAnswers) (req : NodePublishVolumeRequest) (out : Outcome) (devPath : String) :
    Outcome :=
  match ans.isMounted with
  | none => out.fail .mountPoint
  | some true => out
  | some false =>
    if !ans.mkdirAll then out.fail .mkdir
    else out.attempt (.mountBlock devPath req.targetPath) ans.mount .mount id

def nodePublishVolume (ans : NodeAnswers) (host : Host) (req : NodePublishVolumeRequest) : Outcome :=
  let out : Outcome := { host := host }
  if req.volumeId = "" ∨ req.targetPath = "" ∨ req.stagingTargetPath = "" ∨ req.volumeCapability = none then
    out.fail .invalidArgument
  else
    let out := recordParameters req out
    match ans.getPvByID with
    | .error _ => out.fail .getPv
    | .ok pv =>
      if req.volumeCapability = some .block then
        if pv.isForRund then out.fail .blockModeOfKata
        else withDevice ans pv out (publishBlock ans req)
      else publishMount ans req pv out

structure NodeExpandVolumeRequest where
  volumeId : String
  volumePath : String

def expandDevice (ans : NodeAnswers) (req : NodeExpandVolumeRequest) (out : Outcome) (devicePath : String) :
    Outcome :=
  out.attempt (.resize devicePath req.volumePath) ans.resize .resize fun out =>
    match ans.blockDeviceSize with
    | none => out.fail .blockDeviceSize
    | some realSize => { out with capacityBytes := some realSize }

def nodeExpandVolume (ans : NodeAnswers) (host : Host) (req : NodeExpandVolumeRequest) : Outcome :=
  let out : Outcome := { host := host }
  if req.volumeId = "" ∨ req.volumePath = "" then out.fail .invalidArgument
  else
    match ans.getPvByID with
    | .error _ => out.fail .getPv
    | .ok pv =>
      if pv.getStatus ≠ .ready then out.fail .notReady
      else if (pv.getMeta.label expansionOriginalSizeKey).isSome then out.fail .expanding
      else withDevice ans pv out (expandDevice ans req)

end Liteio.Csi
