import Liteio.Library.FiniteMap
import Liteio.Library.MachineInt
import Liteio.Library.Strconv

/-! # API objects: volumes, snapshots and storage pools

The types of pkg/api/volume.antstor.alipay.com/v1 that the controller reads,
with their zero values as defaults. Label and annotation maps keep the
difference between a nil map and an empty one. A resource quantity is an
arbitrary-precision decimal and is read as a rational; `uint64` fields are
naturals and `int64` fields integers, reduced where the code computes.
-/

namespace Liteio

open MachineInt Strconv

abbrev StringMap := Option (FiniteMap String String)

abbrev Quantity := ℚ

abbrev ResourceList := FiniteMap String Quantity

def resourceDiskPoolByte : String := "storage"

/-- `ResourceList.Storage()`: the zero quantity when the key is absent. -/
def storage (resources : ResourceList) : Quantity := (resources.lookup resourceDiskPoolByte).getD 0

def reservationIDKey : String := "obnvmf/reservation-id"

def selectedTgtNodeKey : String := "obnvmf/selected-tgt-node"

def snapshotReservedSpaceAnnotationKey : String := "obnvmf/snapshot-reserved-bytes"

def allocatedSizeAnnoKey : String := "obnvmf/allocated-bytes"

def nodeLabelSelectorKey : String := "obnvmf/node-label-selector"

def poolLabelSelectorKey : String := "obnvmf/pool-label-selector"

def k8sAnnoSelectedNode : String := "volume.kubernetes.io/selected-node"

def volumeContextKeyPvcName : String := "csi.storage.k8s.io/pvc-name"

def volumeContextKeyPvcNS : String := "csi.storage.k8s.io/pvc-namespace"

def volumeDataHolderKey : String := "antstor.csi.alipay.com/data-holder"

def poolLabelsNodeSnKey : String := "obnvmf/node-sn"

def targetNodeIdLabelKey : String := "obnvmf/target-node-id"

def poolSchedulingStatusLabelKey : String := "obnvmf/pool-scheduling-status"

def uuidLabelKey : String := "obnvmf/vol-uuid"

def inStateFinalizer : String := "antstor.alipay.com/in-state"

def noStoragePoolAvailable : String := "NoStoragePoolAvailable"

def fourMiB : ℕ := 4194304

inductive GetResult (α : Type*) where
  | found (obj : α)
  | notFound (text : String)
  | error (text : String)

structure OwnerReference where
  apiVersion : String
  kind : String
  name : String
  uid : String
  blockOwnerDeletion : Option Bool := none
  deriving DecidableEq

structure ObjectMeta where
  ns : String := ""
  name : String := ""
  uid : String := ""
  labels : StringMap := none
  annotations : StringMap := none
  creationTimestamp : ℕ := 0
  deletionTimestamp : Option ℕ := none
  finalizers : List String := []
  ownerReferences : List OwnerReference := []
  deriving DecidableEq

def ObjectMeta.label (m : ObjectMeta) (key : String) : Option String := FiniteMap.find m.labels key

def ObjectMeta.annotationAt (m : ObjectMeta) (key : String) : Option String :=
  FiniteMap.find m.annotations key

structure NodeInfo where
  id : String := ""
  ip : String := ""
  hostname : String := ""
  labels : StringMap := none
  deriving DecidableEq

inductive NodeSelectorOperator where
  | opIn
  | opNotIn
  | opExists
  | opDoesNotExist
  | opGt
  | opLt
  deriving DecidableEq

structure NodeSelectorRequirement where
  key : String
  operator : NodeSelectorOperator
  values : List String := []
  deriving DecidableEq

structure NodeSelectorTerm where
  matchExpressions : List NodeSelectorRequirement := []
  matchFields : List NodeSelectorRequirement := []
  deriving DecidableEq

structure NodeSelector where
  nodeSelectorTerms : List NodeSelectorTerm := []
  deriving DecidableEq

structure NodeAffinity where
  requiredDuringSchedulingIgnoredDuringExecution : Option NodeSelector := none
  deriving DecidableEq

inductive VolumeType where
  | unset
  | flexible
  | kernelLVol
  | spdkLVol
  deriving DecidableEq

inductive VolumePosition where
  | noPreference
  | mustLocal
  | preferLocal
  | preferRemote
  | mustRemote
  deriving DecidableEq

inductive VolumeStatus where
  | unset
  | creating
  | ready
  | deleted
  deriving DecidableEq

structure SpdkTarget where
  bdevName : String := ""
  subsysNQN : String := ""
  svcID : String := ""
  serialNum : String := ""
  transType : String := ""
  nsUUID : String := ""
  address : String := ""
  addrFam : String := ""
  deriving DecidableEq

structure KernelLvol where
  name : String := ""
  devPath : String := ""
  deriving DecidableEq

structure SpdkLvol where
  name : String := ""
  lvsName : String := ""
  thin : Bool := false
  deriving DecidableEq

def SpdkLvol.fullName (vol : SpdkLvol) : String := vol.lvsName ++ "/" ++ vol.name

structure AntstorVolumeSpec where
  uuid : String := ""
  type : VolumeType := .unset
  sizeByte : ℕ := 0
  positionAdvice : VolumePosition := .noPreference
  nodeAffinity : Option NodeAffinity := none
  poolAffinity : Option NodeAffinity := none
  targetNodeId : String := ""
  hostNode : Option NodeInfo := none
  kernelLvol : Option KernelLvol := none
  spdkLvol : Option SpdkLvol := none
  spdkTarget : Option SpdkTarget := none
  stopReconcile : Bool := false
  deriving DecidableEq

structure CSINodePubParams where
  csiVolumeContext : StringMap := none
  stagingTargetPath : String := ""
  targetPath : String := ""
  deriving DecidableEq

structure AntstorVolumeStatus where
  status : VolumeStatus := .unset
  message : String := ""
  csiNodePubParams : Option CSINodePubParams := none
  deriving DecidableEq

structure AntstorVolume extends ObjectMeta where
  spec : AntstorVolumeSpec := {}
  status : AntstorVolumeStatus := {}
  deriving DecidableEq

/-- The numeric value of an annotation: zero when it is absent, and the value
`strconv.Atoi` returns, whatever error comes with it, when it is present. -/
def AntstorVolume.annotationBytes (vol : AntstorVolume) (key : String) : ℤ :=
  match vol.annotationAt key with
  | some text => (atoi text).1
  | none => 0

def AntstorVolume.getTotalSize (vol : AntstorVolume) : ℕ :=
  let reservedSnapSize := vol.annotationBytes snapshotReservedSpaceAnnotationKey
  let allocatedSize := vol.annotationBytes allocatedSizeAnnoKey
  if 0 < allocatedSize then uint64 (int64 (allocatedSize + reservedSnapSize))
  else uint64 (vol.spec.sizeByte + uint64 reservedSnapSize)

inductive SnapshotStatusName where
  | unset
  | creating
  | ready
  | merging
  | merged
  | error
  | deleted
  deriving DecidableEq

structure AntstorSnapshotSpec where
  uuid : String := ""
  volType : VolumeType := .unset
  kernelLvol : KernelLvol := {}
  spdkLvol : SpdkLvol := {}
  size : ℤ := 0
  originVolName : String := ""
  originVolNamespace : String := ""
  originVolTargetNodeID : String := ""
  deriving DecidableEq

structure AntstorSnapshot extends ObjectMeta where
  spec : AntstorSnapshotSpec := {}
  status : SnapshotStatusName := .unset
  deriving DecidableEq

inductive PoolMode where
  | kernelLVM
  | spdkLVStore
  deriving DecidableEq

inductive PoolStatus where
  | unset
  | ready
  | locked
  | offline
  | unknown
  deriving DecidableEq

inductive PoolConditionType where
  | spdk
  | lvm
  | kubeNode
  deriving DecidableEq

inductive ConditionStatus where
  | ok
  | error
  deriving DecidableEq

structure PoolCondition where
  type : PoolConditionType
  status : ConditionStatus
  message : String := ""
  deriving DecidableEq

structure KernelLVol where
  name : String := ""
  sizeByte : ℕ := 0
  deriving DecidableEq

structure KernelLVM where
  name : String := ""
  vgUUID : String := ""
  bytes : ℕ := 0
  reservedLVol : List KernelLVol := []
  deriving DecidableEq

structure SpdkLVStore where
  name : String := ""
  uuid : String := ""
  bytes : ℕ := 0
  deriving DecidableEq

structure NodeAddress where
  type : String
  address : String
  deriving DecidableEq

structure StoragePoolSpec where
  kernelLVM : KernelLVM := {}
  spdkLVStore : SpdkLVStore := {}
  addresses : List NodeAddress := []
  nodeInfo : NodeInfo := {}
  deriving DecidableEq

structure StoragePoolStatus where
  capacity : ResourceList := ∅
  vgFreeSize : Quantity := 0
  conditions : List PoolCondition := []
  status : PoolStatus := .unset
  message : String := ""
  deriving DecidableEq

structure StoragePool extends ObjectMeta where
  spec : StoragePoolSpec := {}
  status : StoragePoolStatus := {}
  deriving DecidableEq

structure Taint where
  key : String
  value : String := ""
  effect : String := ""
  deriving DecidableEq

structure KubeNode where
  name : String := ""
  labels : StringMap := none
  taints : List Taint := []
  deriving DecidableEq

/-- The functions of the Kubernetes libraries the controller calls on values
it does not inspect itself, and the rounding of exact values to `float64`. -/
structure Kube where
  roundFloat64 : ℚ → ℚ
  asApproximateFloat64 : Quantity → ℚ
  matchNodeSelectorTerms : KubeNode → NodeSelector → Option Bool
  parseLabelSelector : String → Option (StringMap → Bool)

/-- The library as concrete runs use it: numbers convert exactly, selector
terms are read as conjunctions of `In` requirements on labels, and no label
selector parses. -/
def Kube.exact : Kube where
  roundFloat64 x := x
  asApproximateFloat64 q := q
  matchNodeSelectorTerms node selector := some <| selector.nodeSelectorTerms.any fun term =>
    !term.matchExpressions.isEmpty && term.matchExpressions.all fun req =>
      req.operator = .opIn && match FiniteMap.find node.labels req.key with
        | some value => req.values.contains value
        | none => false
  parseLabelSelector _ := none

/-- `Quantity.AsInt64`: the value and whether it is an integer of the range. -/
def asInt64 (q : Quantity) : ℤ × Bool :=
  if q.den = 1 ∧ InInt64 q.num then (q.num, true) else (0, false)

def Kube.bytesOf (K : Kube) (q : Quantity) : ℤ :=
  if (asInt64 q).2 then (asInt64 q).1 else ofFloat (roundFloat (K.asApproximateFloat64 q))

def StoragePool.getVgTotalBytes (K : Kube) (sp : StoragePool) : ℤ :=
  let bytes := if 0 < sp.spec.kernelLVM.bytes then int64 sp.spec.kernelLVM.bytes else 0
  let bytes := if bytes ≤ 0 ∧ 0 < sp.spec.spdkLVStore.bytes then int64 sp.spec.spdkLVStore.bytes else bytes
  if bytes ≤ 0 then K.bytesOf (storage sp.status.capacity) else bytes

def StoragePool.getVgFreeBytes (K : Kube) (sp : StoragePool) : ℤ := K.bytesOf sp.status.vgFreeSize

def StoragePool.getAvailableBytes (K : Kube) (sp : StoragePool) : ℤ :=
  sp.spec.kernelLVM.reservedLVol.foldl (fun size item => int64 (size - int64 item.sizeByte))
    (sp.getVgTotalBytes K)

def StoragePool.isSchedulable (sp : StoragePool) : Bool :=
  let labelLocked := sp.toObjectMeta.label poolSchedulingStatusLabelKey = some "locked"
  let statusNotReady := sp.status.status ≠ .ready
  !labelLocked && !statusNotReady

theorem AntstorVolume.getTotalSize_of_annotations_none {vol : AntstorVolume}
    (h : vol.annotations = none) (hSize : vol.spec.sizeByte < 2 ^ 64) :
    vol.getTotalSize = vol.spec.sizeByte := by
  have hBytes : ∀ key, vol.annotationBytes key = 0 := by
    intro key
    simp [annotationBytes, ObjectMeta.annotationAt, h]
  rw [getTotalSize, hBytes, hBytes]
  simp only [lt_irrefl, if_false, uint64]
  omega

end Liteio
