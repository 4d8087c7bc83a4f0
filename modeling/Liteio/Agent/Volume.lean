import Liteio.Api.Objects
import Liteio.Library.Meets

/-! # Syncing one volume on its node

`VolumeSyncer.syncOneVolume` as a program that calls the pool engine, the SPDK
service and the API server, and sends updates of the volume it has read. A pass
stops where the source returns, with or without an error, and where it would
follow a nil pointer. The functions of the source that go on return the volume
as they have changed it.

`Disk` is what exists on the node for the volume, and `perform` what the calls
do there. A call that fails may have acted all the same.
-/

namespace Liteio.VolumeSyncer

open MachineInt Strconv Worker

def expansionOriginalSize : String := "obnvmf/expansion-original-size"
def volumeSourceSnapNameLabelKey : String := "obnvmf/volume-source-snap-name"
def volumeSourceSnapNamespaceLabelKey : String := "obnvmf/volume-source-snap-ns"
def spdkConnectModeKey : String := "obnvmf/spdk-conn-mode"
def spdkConnectModeGuestKernelDirect : String := "guest-direct"
def fsTypeLabelKey : String := "obnvmf/fs-type"
def lvLayoutAnnoKey : String := "obnvmf/lv-layout"
def annotationHostNQN : String := "obnvmf/hostnqn"

def inStateFinalizer : String := "antstor.alipay.com/in-state"
def kernelLVolFinalizer : String := "antstor.alipay.com/lvm"
def spdkLvolFinalizer : String := "antstor.alipay.com/spdk-lvol"
def logicVolumeFinalizer : String := "antstor.alipay.com/logic-volume"
def spdkTargetFinalizer : String := "antstor.alipay.com/spdk-tgt"

structure AioVolume where
  devPath : String := ""
  bdevName : String := ""
  deriving DecidableEq

structure SpdkLVolume where
  lvsName : String := ""
  lvolName : String := ""
  deriving DecidableEq

structure Target where
  nqn : String := ""
  serialNumber : String := ""
  nsUUID : String := ""
  svcID : String := ""
  transAddr : String := ""
  transType : String := ""
  addrFam : String := ""
  deriving DecidableEq

structure Access where
  aio : Option AioVolume := none
  lvol : Option SpdkLVolume := none
  openAccess : Target := {}
  allowHostNQN : List String := []
  deriving DecidableEq

inductive Call where
  | expandVolume (volName : String) (targetSize originSize : ℕ)
  | resizeAioBdev (bdevName : String) (targetSize : ℕ)
  | getVolume (volName : String)
  | createVolume (volName : String) (sizeByte : ℕ) (fsType lvLayout : String)
  | deleteVolume (volName : String)
  | createLvolClone (lvStore snapName cloneName : String)
  | inflateLvol (lvStore lvolName : String)
  | exposeAccess (access : Access)
  | removeAccess (access : Access)
  | getStoragePool (name : String)
  | getSnapshot (ns name : String)
  | listSnapshots (ns originName : String)
  deriving DecidableEq

/-- What a call returns; a missing value or `false` is an error. -/
def Reply : Call → Type
  | .expandVolume .. | .resizeAioBdev .. | .deleteVolume _ | .createLvolClone .. => Bool
  | .inflateLvol .. | .removeAccess _ => Bool
  | .getVolume _ => Option ℕ
  | .createVolume .. | .exposeAccess _ => Option String
  | .getStoragePool _ => Option StoragePool
  | .getSnapshot .. => Option AntstorSnapshot
  | .listSnapshots .. => Option (List AntstorSnapshot)

/-- The writes of the agent and of everyone else: an update carries the version
it was read at, a patch and a deletion do not. -/
inductive Write where
  | update (vol : AntstorVolume)
  | updateStatus (vol : AntstorVolume)
  | patch (labels : List (String × String)) (finalizers : Option (List String))
      (targetNodeId : Option String)
  | delete (now : ℕ)
  deriving DecidableEq

def Write.guarded : Write → Bool
  | .update _ | .updateStatus _ => true
  | .patch .. | .delete _ => false

def finalize (vol : AntstorVolume) : Option AntstorVolume :=
  if vol.deletionTimestamp.isSome ∧ vol.finalizers = [] then none else some vol

def Write.applyTo : Write → AntstorVolume → AntstorVolume
  | .update vol, current =>
    { vol with name := current.name, deletionTimestamp := current.deletionTimestamp, status := current.status }
  | .updateStatus vol, current => { current with status := vol.status }
  | .patch labels finalizers targetNodeId, current =>
    { current with
      labels := labels.foldl (fun m entry => FiniteMap.put m entry.1 entry.2) current.labels
      finalizers := finalizers.getD current.finalizers
      spec := { current.spec with targetNodeId := targetNodeId.getD current.spec.targetNodeId } }
  | .delete now, current => { current with deletionTimestamp := current.deletionTimestamp.or (some now) }

def Write.apply (w : Write) (obj : Option AntstorVolume) : Option AntstorVolume :=
  obj.bind fun vol => finalize (w.applyTo vol)

abbrev Pass (β : Type) := Prog Call Reply Write β

/-- `poolService`: the mode, the pool and the volume group of the node. `pvCount`
is the engine's cached count of physical volumes and `stripes` the real one. -/
structure PoolService where
  mode : PoolMode := .kernelLVM
  storagePool : StoragePool := {}
  pvCount : ℕ := 1
  stripes : ℕ := 1
  extendSize : ℕ := fourMiB

def hasLogicVolFinalizer (vol : AntstorVolume) : Bool :=
  kernelLVolFinalizer ∈ vol.finalizers || spdkLvolFinalizer ∈ vol.finalizers ||
    logicVolumeFinalizer ∈ vol.finalizers

def sourceSnapshot (vol : AntstorVolume) : Option (String × String) :=
  match vol.label volumeSourceSnapNamespaceLabelKey, vol.label volumeSourceSnapNameLabelKey with
  | some ns, some name => some (ns, name)
  | _, _ => none

def getSNFromUUID (uuid : String) : String :=
  String.ofList ((uuid.toList.filter fun c => c ≠ '-').take 20)

def getBdevNameFromUUID (uuid : String) : String := getSNFromUUID uuid

def getNQNFromUUID (uuid : String) : String := "nqn.2021-03.com.alipay.ob:uuid:" ++ uuid

def targetOf (tgt : SpdkTarget) : Target where
  nqn := tgt.subsysNQN
  serialNumber := tgt.serialNum
  nsUUID := tgt.nsUUID
  svcID := tgt.svcID
  transAddr := tgt.address
  transType := tgt.transType
  addrFam := tgt.addrFam

def expansionOf (vol : AntstorVolume) : Option (String × Option String) :=
  match vol.spec.type with
  | .kernelLVol =>
    match vol.spec.kernelLvol, vol.spec.hostNode, vol.spec.spdkTarget with
    | some lvol, some hostNode, tgt =>
      if vol.spec.targetNodeId = hostNode.id then some (lvol.name, none)
      else tgt.map fun tgt => (lvol.name, some tgt.bdevName)
    | _, _, _ => none
  | .spdkLVol => vol.spec.spdkLvol.map fun lvol => (lvol.fullName, none)
  | _ => some ("", none)

def resizeAioBdev (bdevName : Option String) (targetSize : ℕ) : Pass PUnit :=
  match bdevName with
  | some bdevName => Prog.attempt (.resizeAioBdev bdevName targetSize) id
  | none => return ⟨⟩

def expandVolume (vol : AntstorVolume) : Pass AntstorVolume :=
  match vol.label expansionOriginalSize with
  | none => return vol
  | some originSizeStr =>
    match atoi originSizeStr, expansionOf vol with
    | (originalSize, none), some (volName, bdevName) => do
      let targetSize := vol.spec.sizeByte
      Prog.attempt (.expandVolume volName targetSize (uint64 originalSize)) id
      resizeAioBdev bdevName targetSize
      let vol := { vol with labels := FiniteMap.drop vol.labels expansionOriginalSize }
      Prog.send (.update vol)
      return vol
    | _, _ => .stop

def inflateLvol (svc : PoolService) (vol : AntstorVolume) (needed : Bool) : Pass PUnit :=
  if needed then Prog.attempt (.inflateLvol svc.storagePool.spec.spdkLVStore.name vol.name) id else return ⟨⟩

/-- A clone, and a volume that has snapshots, is inflated before it goes. -/
def detachSnapshots (svc : PoolService) (vol : AntstorVolume) : Pass PUnit :=
  if vol.spec.type = .spdkLVol then do
    inflateLvol svc vol (sourceSnapshot vol).isSome
    let snapList ← Prog.fetch (.listSnapshots vol.ns vol.name) id
    inflateLvol svc vol !snapList.isEmpty
  else return ⟨⟩

def deleteLogicVolume (svc : PoolService) (vol : AntstorVolume) : Pass PUnit := do
  detachSnapshots svc vol
  Prog.attempt (.deleteVolume vol.name) id
  Prog.send (.update { vol with finalizers := vol.finalizers.filter fun item =>
    item ∉ [kernelLVolFinalizer, spdkLvolFinalizer, logicVolumeFinalizer] })

def removeTarget (vol : AntstorVolume) : Pass PUnit :=
  match vol.spec.spdkTarget with
  | some tgt => do
    Prog.attempt (.removeAccess
      { aio := some { bdevName := tgt.bdevName }
        openAccess := { transAddr := tgt.address, transType := tgt.transType, nqn := tgt.subsysNQN } }) id
    if spdkTargetFinalizer ∈ vol.finalizers then
      Prog.send (.update { vol with
        finalizers := vol.finalizers.filter fun item => item ≠ spdkTargetFinalizer })
      .stop
  | none => if spdkTargetFinalizer ∈ vol.finalizers then .stop else return ⟨⟩

def handleDeletion (svc : PoolService) (vol : AntstorVolume) : Pass PUnit := do
  removeTarget vol
  if hasLogicVolFinalizer vol then deleteLogicVolume svc vol

def updateVolumeType (svc : PoolService) (vol : AntstorVolume) : Pass PUnit :=
  let type := match svc.mode with
    | .kernelLVM => .kernelLVol
    | .spdkLVStore => .spdkLVol
  Prog.send (.update { vol with spec := { vol.spec with type := type } })

def allowHosts (hostNode : Option NodeInfo) : Pass (List String) :=
  match hostNode with
  | some hostNode =>
    if hostNode.id ≠ "" then do
      let hostPool ← Prog.fetch (.getStoragePool hostNode.id) id
      return (hostPool.annotationAt annotationHostNQN).toList
    else return []
  | none => return []

def withAllocated (vol : AntstorVolume) (sizeByte : ℕ) : AntstorVolume :=
  { vol with annotations := FiniteMap.put vol.annotations allocatedSizeAnnoKey (itoa (int64 sizeByte)) }

def applyAllocatedSize (vol : AntstorVolume) : Pass AntstorVolume :=
  if vol.annotationAt allocatedSizeAnnoKey = none ∧ vol.status.status = .ready then do
    let sizeByte ← Prog.fetch (.getVolume vol.name) id
    if 0 < sizeByte ∧ sizeByte ≠ vol.spec.sizeByte then
      Prog.send (.update (withAllocated vol sizeByte))
      return withAllocated vol sizeByte
    else return vol
  else return vol

def applyAllowHosts (vol : AntstorVolume) : Pass PUnit :=
  match vol.spec.spdkTarget with
  | some tgt => do
    let hosts ← allowHosts vol.spec.hostNode
    let _ ← Prog.perform (.exposeAccess { openAccess := targetOf tgt, allowHostNQN := hosts })
    return ⟨⟩
  | none => return ⟨⟩

def applyVolume (vol : AntstorVolume) : Pass AntstorVolume := do
  let vol ← applyAllocatedSize vol
  applyAllowHosts vol
  return vol

def fsTypeOf (vol : AntstorVolume) : String :=
  if vol.annotationAt spdkConnectModeKey = some spdkConnectModeGuestKernelDirect then
    (vol.annotationAt fsTypeLabelKey).getD ""
  else ""

/-- The engine makes the volume unless there is nothing to make; a device path
needs a place to be kept. -/
def allocate (vol : AntstorVolume) (fsType lvLayout : String) : Pass AntstorVolume :=
  if 0 < vol.spec.sizeByte ∧ vol.name ≠ "" then do
    let devPath ← Prog.fetch (.createVolume vol.name vol.spec.sizeByte fsType lvLayout) id
    if devPath = "" then return vol
    else
      match vol.spec.kernelLvol with
      | some lvol => return { vol with spec := { vol.spec with kernelLvol := some { lvol with devPath := devPath } } }
      | none => .stop
  else return vol

def makeLogicVolume (svc : PoolService) (vol : AntstorVolume) : Pass AntstorVolume :=
  match vol.spec.type with
  | .kernelLVol =>
    if (sourceSnapshot vol).isSome then .stop
    else
      let lvol := { vol.spec.kernelLvol.getD {} with name := vol.name }
      allocate { vol with spec := { vol.spec with kernelLvol := some lvol } } (fsTypeOf vol)
        ((vol.annotationAt lvLayoutAnnoKey).getD "")
  | .spdkLVol => do
    let lvsName := svc.storagePool.spec.spdkLVStore.name
    let made := { vol with
      spec := { vol.spec with spdkLvol := some { lvsName := lvsName, name := vol.name, thin := false } } }
    match sourceSnapshot vol with
    | some (snapNS, snapName) =>
      let snap ← Prog.fetch (.getSnapshot snapNS snapName) id
      Prog.attempt (.createLvolClone lvsName snap.spec.spdkLvol.name vol.name) id
      return made
    | none => allocate made "" ""
  | _ => return vol

def createVolume (svc : PoolService) (vol : AntstorVolume) : Pass AntstorVolume :=
  if hasLogicVolFinalizer vol then return vol
  else do
    let vol ← makeLogicVolume svc vol
    Prog.send (.update { vol with finalizers := vol.finalizers ++ [logicVolumeFinalizer] })
    .stop

def expose (vol : AntstorVolume) (tgt : SpdkTarget) (aio : Option AioVolume) (lvol : Option SpdkLVolume) :
    Pass AntstorVolume := do
  let hosts ← allowHosts vol.spec.hostNode
  let svcID ← Prog.fetch (.exposeAccess
    { aio := aio, lvol := lvol, openAccess := targetOf tgt, allowHostNQN := hosts }) id
  Prog.send (.update { vol with
    finalizers := vol.finalizers ++ [spdkTargetFinalizer]
    spec := { vol.spec with spdkTarget := some { tgt with svcID := svcID } } })
  .stop

def kernelTarget (uuid nodeIP : String) : SpdkTarget where
  subsysNQN := getNQNFromUUID uuid
  nsUUID := uuid
  bdevName := getBdevNameFromUUID uuid
  serialNum := getSNFromUUID uuid
  transType := "TCP"
  address := nodeIP
  addrFam := "IPv4"

/-- A migration destination keeps the name and the namespace of its target. -/
def lvolTarget (lvol : SpdkLvol) (uuid nodeIP : String) (tgt : SpdkTarget) : SpdkTarget :=
  { tgt with
    bdevName := lvol.fullName
    serialNum := getSNFromUUID uuid
    address := nodeIP
    transType := "TCP"
    addrFam := "IPv4"
    subsysNQN := if tgt.subsysNQN = "" then getNQNFromUUID uuid else tgt.subsysNQN
    nsUUID := if tgt.nsUUID = "" then uuid else tgt.nsUUID }

def openAccess (vol : AntstorVolume) (isLocal : Bool) (nodeIP : String) : Pass AntstorVolume :=
  match vol.spec.type with
  | .kernelLVol =>
    if isLocal then return vol
    else
      match vol.spec.kernelLvol with
      | some lvol =>
        if lvol.devPath = "" then .stop
        else
          let tgt := kernelTarget vol.spec.uuid nodeIP
          expose vol tgt (some { devPath := lvol.devPath, bdevName := tgt.bdevName }) none
      | none => .stop
  | .spdkLVol =>
    match vol.spec.spdkLvol with
    | some lvol =>
      expose vol (lvolTarget lvol vol.spec.uuid nodeIP (vol.spec.spdkTarget.getD {})) none
        (some { lvsName := lvol.lvsName, lvolName := lvol.name })
    | none => .stop
  | _ =>
    match vol.spec.spdkTarget with
    | some tgt => expose vol tgt none none
    | none => .stop

def createOpenAccess (svc : PoolService) (vol : AntstorVolume) : Pass AntstorVolume :=
  match vol.spec.hostNode with
  | none => .stop
  | some hostNode =>
    let nodeIP := svc.storagePool.spec.nodeInfo.ip
    if nodeIP = "" then .stop
    else if spdkTargetFinalizer ∈ vol.finalizers then return vol
    else if vol.spec.uuid = "" then .stop
    else openAccess vol (vol.spec.targetNodeId = hostNode.id) nodeIP

def bringUp (svc : PoolService) (vol : AntstorVolume) : Pass PUnit :=
  if vol.status.status = .ready then return ⟨⟩
  else if vol.spec.type = .flexible then updateVolumeType svc vol
  else do
    let vol ← createVolume svc vol
    let vol ← createOpenAccess svc vol
    Prog.send (.updateStatus { vol with status := { vol.status with status := .ready } })

def syncOneVolume (svc : PoolService) (vol : AntstorVolume) : Pass PUnit :=
  if inStateFinalizer ∉ vol.finalizers then .stop
  else if vol.deletionTimestamp.isSome then handleDeletion svc vol
  else do
    let vol ← expandVolume vol
    let vol ← applyVolume vol
    bringUp svc vol

structure Disk where
  lv : Option ℕ := none
  targets : List String := []
  deriving DecidableEq

structure Answers where
  fails : Bool := false
  acts : Bool := false
  svcID : String := ""
  pool : StoragePool := {}
  snapshot : AntstorSnapshot := {}
  snapList : List AntstorSnapshot := []
  hasLinearLV : Bool := false
  cloneSize : ℕ := 0

/-- A failing call leaves the disk alone, or not. -/
def Answers.effect (ans : Answers) (before after : Disk) : Disk :=
  if ans.fails && !ans.acts then before else after

def roundUp (unit size : ℕ) : ℕ := (size + (unit - 1)) / unit * unit

/-- `lvextend --size +delta`, in whole extents; an extension by nothing fails. -/
def PoolService.extend (svc : PoolService) (targetSize originSize lv : ℕ) : Option ℕ :=
  match svc.mode with
  | .kernelLVM =>
    let delta := int64 ((targetSize : ℤ) - originSize)
    if 0 < delta then some (lv + roundUp svc.extendSize delta.toNat) else none
  | .spdkLVStore => some (roundUp svc.extendSize targetSize)

/-- The size a new logical volume gets. A striped one is cut down to whole
stripes first, and one without any extent is not made. -/
def PoolService.layOut (svc : PoolService) (sizeByte : ℕ) (lvLayout : String) (hasLinearLV : Bool) : Option ℕ :=
  match svc.mode with
  | .kernelLVM =>
    let lvLayout := if lvLayout = "" then (if hasLinearLV then "linear" else "striped") else lvLayout
    if lvLayout = "linear" then some (roundUp svc.extendSize sizeByte)
    else if lvLayout = "striped" then
      let unitSize := svc.pvCount * svc.extendSize
      let sizeByte := if 0 < svc.pvCount then sizeByte / unitSize * unitSize else sizeByte
      (some (roundUp (svc.stripes * svc.extendSize) sizeByte)).filter fun size => 0 < size
    else none
  | .spdkLVStore => some (roundUp svc.extendSize sizeByte)

def PoolService.devPath (svc : PoolService) (volName : String) : String :=
  match svc.mode with
  | .kernelLVM => "/dev/" ++ svc.storagePool.spec.kernelLVM.name ++ "/" ++ volName
  | .spdkLVStore => ""

def perform (svc : PoolService) : (c : Call) → Answers → Disk → Reply c × Disk
  | .expandVolume _ targetSize originSize, ans, disk =>
    match disk.lv with
    | some lv =>
      match svc.extend targetSize originSize lv with
      | some size => (!ans.fails, ans.effect disk { disk with lv := some size })
      | none => (false, disk)
    | none => (svc.mode = .spdkLVStore && !ans.fails, disk)
  | .resizeAioBdev .., ans, disk => (!ans.fails, disk)
  | .getVolume _, ans, disk => (if ans.fails then none else some (disk.lv.getD 0), disk)
  | .createVolume volName sizeByte _ lvLayout, ans, disk =>
    match disk.lv with
    | some lv =>
      (if ans.fails || (svc.mode = .kernelLVM && lv ≠ sizeByte) then none else some (svc.devPath volName), disk)
    | none =>
      match svc.layOut sizeByte lvLayout ans.hasLinearLV with
      | some size =>
        (if ans.fails then none else some (svc.devPath volName), ans.effect disk { disk with lv := some size })
      | none => (none, disk)
  | .deleteVolume _, ans, disk => (!ans.fails, ans.effect disk { disk with lv := none })
  | .createLvolClone .., ans, disk =>
    (!ans.fails, ans.effect disk { disk with lv := disk.lv.or (some ans.cloneSize) })
  | .inflateLvol .., ans, disk => (!ans.fails, disk)
  | .exposeAccess access, ans, disk =>
    if access.openAccess.nqn = "" then (none, disk)
    else (if ans.fails then none else some ans.svcID,
      ans.effect disk { disk with targets := disk.targets.insert access.openAccess.nqn })
  | .removeAccess access, ans, disk =>
    (!ans.fails, ans.effect disk { disk with
      targets := disk.targets.filter fun nqn => access.openAccess.nqn = "" ∨ nqn ≠ access.openAccess.nqn })
  | .getStoragePool _, ans, disk => (if ans.fails then none else some ans.pool, disk)
  | .getSnapshot .., ans, disk => (if ans.fails then none else some ans.snapshot, disk)
  | .listSnapshots .., ans, disk => (if ans.fails then none else some ans.snapList, disk)

def model {ε : Type} (svc : PoolService) (answers : ε → Answers)
    (writer : ε → Option AntstorVolume → Option Write) :
    Model (Option AntstorVolume) Disk ε Call Reply Write where
  program
    | some vol => syncOneVolume svc vol
    | none => .stop
  perform c ans := perform svc c (answers ans)
  writer := writer
  guarded := Write.guarded
  apply := Write.apply

end Liteio.VolumeSyncer
