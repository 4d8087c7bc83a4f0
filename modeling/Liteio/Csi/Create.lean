import Liteio.Library.Requests
import Liteio.State.Node

/-! # CSI volume creation

`ControllerServer.CreateVolume` of pkg/csi/rpcserver up to the options it hands
to `CreatePV` of pkg/csi/client, and the volume that `CreatePV` creates for a
single-volume PV. The API server is read through `Answers`, in which `none` is
a failed call. The volume type and the position are texts of the request; the
API server refuses texts that name neither.
-/

namespace Liteio.Csi

open MachineInt

def pvcNameKey : String := "csi.storage.k8s.io/pvc/name"
def pvcNamespaceKey : String := "csi.storage.k8s.io/pvc/namespace"
def diskLocationKey : String := "positionAdvice"
def volumeTypeKey : String := "volumeType"
def fsTypeKey : String := "fsType"
def pvTypeKey : String := "obnvmf/pv-type"
def raidLevelKey : String := "datacontrol/raid-level"
def engineTypeKey : String := "datacontrol/engine-type"
def volGroupSymmetryKey : String := "volgroup/size-symmetry"
def volGroupMinSizeKey : String := "volgroup/min-size"
def volGroupMaxSizeKey : String := "volgroup/max-size"
def volGroupMaxVolumesKey : String := "volgroup/max-volumes"
def volGroupAllowEmptyKey : String := "volgroup/allow-empty-node"
def volumeTypeAnnoKey : String := "obnvmf/volume-type"
def volumePositionAdviceKey : String := "custom.k8s.alipay.com/sds-position-advice"
def fsTypeLabelKey : String := "obnvmf/fs-type"
def volumePVNameLabelKey : String := "obnvmf/pv-name"
def volumeSourceSnapNameLabelKey : String := "obnvmf/volume-source-snap-name"
def volumeSourceSnapNamespaceLabelKey : String := "obnvmf/volume-source-snap-ns"
def uuidLabelKey : String := "obnvmf/vol-uuid"
def k8sLabelKeyHostname : String := "kubernetes.io/hostname"
def defaultNamespace : String := "obnvmf"

structure CreateVolumeRequest where
  name : String
  requiredBytes : Option ℤ := none
  parameters : FiniteMap String String := ∅
  snapshotId : Option String := none

def CreateVolumeRequest.parameter (req : CreateVolumeRequest) (key : String) : String :=
  (req.parameters.lookup key).getD ""

structure Answers where
  getSnapshotByID : String → Option AntstorSnapshot
  getClaim : String → String → Option PersistentVolumeClaim
  getByNodeID : String → Option NodeInfo

inductive CreateError where
  | capacityRange
  | snapshot (id : String)
  | snapshotNotReady (status : SnapshotStatusName)
  | claim (ns name : String)
  | node (nodeName : String)
  | invalidRequest
  | tooSmall
  | create
  | mustParse (text : String)
  deriving DecidableEq

structure PVCreateOption where
  pvName : String := ""
  labels : FiniteMap String String := ∅
  annotations : FiniteMap String String := ∅
  hostNode : NodeInfo := {}
  size : ℤ := 0
  volumeType : String := ""
  positionAdvice : String := ""
  pvType : String := ""
  raidLevel : String := ""
  engineType : String := ""
  maxVolumes : ℤ := 0
  maxVolumeSize : String := ""
  minVolumeSize : String := ""
  sizeSymmetry : String := ""
  allowEmptyNode : Bool := false
  deriving DecidableEq

def textOr (text default : String) : String := if text = "" then default else text

def initialOption (req : CreateVolumeRequest) (size : ℤ) : PVCreateOption where
  pvName := req.name
  size := size
  volumeType := textOr (req.parameter volumeTypeKey) "Flexible"
  positionAdvice := req.parameter diskLocationKey
  pvType := req.parameter pvTypeKey
  raidLevel := req.parameter raidLevelKey
  engineType := req.parameter engineTypeKey
  sizeSymmetry := req.parameter volGroupSymmetryKey
  maxVolumeSize := req.parameter volGroupMaxSizeKey
  minVolumeSize := req.parameter volGroupMinSizeKey
  maxVolumes := match req.parameters.lookup volGroupMaxVolumesKey with
    | some val => (Strconv.atoi val).1
    | none => 0
  allowEmptyNode := match req.parameters.lookup volGroupAllowEmptyKey with
    | some val => val = "true"
    | none => true
  labels :=
    let fsType := textOr (req.parameter fsTypeKey) "xfs"
    let labels := (Finmap.singleton fsTypeLabelKey fsType).insert volumePVNameLabelKey req.name
    (labels.insert volumeContextKeyPvcName (req.parameter pvcNameKey)).insert volumeContextKeyPvcNS
      (req.parameter pvcNamespaceKey)
  annotations := Finmap.singleton fsTypeLabelKey (textOr (req.parameter fsTypeKey) "xfs")

def fromSnapshot (snap : AntstorSnapshot) (opt : PVCreateOption) : PVCreateOption :=
  let labels := opt.labels.insert volumeSourceSnapNameLabelKey snap.name
  { opt with
    labels := labels.insert volumeSourceSnapNamespaceLabelKey snap.ns
    annotations := opt.annotations.insert poolLabelSelectorKey
      (poolLabelsNodeSnKey ++ "=" ++ snap.spec.originVolTargetNodeID) }

def withContentSource (api : Answers) (req : CreateVolumeRequest) (opt : PVCreateOption) :
    Except CreateError PVCreateOption :=
  match req.snapshotId with
  | none => .ok opt
  | some id =>
    match api.getSnapshotByID id with
    | none => .error (.snapshot id)
    | some snap =>
      if snap.status ≠ .ready then .error (.snapshotNotReady snap.status) else .ok (fromSnapshot snap opt)

def obnvmfAnnotations (pvc : PersistentVolumeClaim) : FiniteMap String String :=
  (pvc.annotations.getD ∅).filterKeys fun key => "obnvmf/".toList.isPrefixOf key.toList

def fromClaim (pvc : PersistentVolumeClaim) (opt : PVCreateOption) : PVCreateOption :=
  let holder := (pvc.annotationAt volumeDataHolderKey).getD ""
  let annotations := match pvc.annotationAt snapshotReservedSpaceAnnotationKey with
    | some snapSize => opt.annotations.insert snapshotReservedSpaceAnnotationKey snapSize
    | none => opt.annotations
  { opt with
    labels := if holder ≠ "" then opt.labels.insert volumeDataHolderKey holder else opt.labels
    positionAdvice := (pvc.annotationAt volumePositionAdviceKey).getD opt.positionAdvice
    volumeType := (pvc.annotationAt volumeTypeAnnoKey).getD opt.volumeType
    annotations := obnvmfAnnotations pvc ∪ annotations }

def withClaim (api : Answers) (req : CreateVolumeRequest) (opt : PVCreateOption) :
    Except CreateError (PVCreateOption × String) :=
  let ns := req.parameter pvcNamespaceKey
  let name := req.parameter pvcNameKey
  if ns ≠ "" ∧ name ≠ "" then
    match api.getClaim ns name with
    | none => .error (.claim ns name)
    | some pvc => .ok (fromClaim pvc opt, (pvc.annotationAt k8sAnnoSelectedNode).getD "")
  else .ok (opt, "")

def withHostNode (api : Answers) (nodeName : String) (opt : PVCreateOption) :
    Except CreateError PVCreateOption :=
  if nodeName = "" then .ok opt
  else
    match api.getByNodeID nodeName with
    | none => .error (.node nodeName)
    | some info => .ok { opt with hostNode := { info with
        id := nodeName
        hostname := match info.labels with
          | some labels => (labels.lookup k8sLabelKeyHostname).getD ""
          | none => info.hostname } }

def createVolume (api : Answers) (req : CreateVolumeRequest) : Except CreateError PVCreateOption := do
  match req.requiredBytes with
  | none => .error .capacityRange
  | some size =>
    let opt ← withContentSource api req (initialOption req size)
    let (opt, nodeName) ← withClaim api req opt
    withHostNode api nodeName opt

def VolumeType.ofText : String → Option VolumeType
  | "Flexible" => some .flexible
  | "KernelLVol" => some .kernelLVol
  | "SpdkLVol" => some .spdkLVol
  | _ => none

def VolumePosition.ofText : String → Option VolumePosition
  | "MustLocal" => some .mustLocal
  | "PreferLocal" => some .preferLocal
  | "PreferRemote" => some .preferRemote
  | "MustRemote" => some .mustRemote
  | "" => some .noPreference
  | _ => none

/-- The size is checked after it was cut to a multiple of 4 MiB, and stored as it
was asked for. -/
def PVCreateOption.check (opt : PVCreateOption) : Option CreateError :=
  if opt.pvName = "" ∨ opt.size = 0 then some .invalidRequest
  else if uint64 opt.size / fourMiB * fourMiB < fourMiB then some .tooSmall
  else none

def newVolume (uuid : String) (opt : PVCreateOption) : Except CreateError AntstorVolume :=
  match VolumeType.ofText opt.volumeType, VolumePosition.ofText opt.positionAdvice with
  | some type, some positionAdvice => .ok
    { ns := defaultNamespace
      name := opt.pvName
      labels := some ((opt.labels.insert volumePVNameLabelKey opt.pvName).insert uuidLabelKey uuid)
      annotations := some opt.annotations
      spec := { uuid := uuid, type := type, sizeByte := uint64 opt.size, hostNode := some opt.hostNode,
                positionAdvice := positionAdvice }
      status := { status := .creating } }
  | _, _ => .error .create

def createPV (uuid : String) (opt : PVCreateOption) : Except CreateError AntstorVolume :=
  match opt.check with
  | some err => .error err
  | none => newVolume uuid opt

theorem obnvmfAnnotations_lookup {pvc : PersistentVolumeClaim} {key : String}
    (hKey : "obnvmf/".toList.isPrefixOf key.toList) : (obnvmfAnnotations pvc).lookup key = pvc.annotationAt key := by
  rw [obnvmfAnnotations, FiniteMap.lookup_filterKeys, if_pos hKey, ObjectMeta.annotationAt]
  cases pvc.annotations <;> rfl

theorem fromClaim_lookup {pvc : PersistentVolumeClaim} {opt : PVCreateOption} {key : String}
    (hKey : "obnvmf/".toList.isPrefixOf key.toList) :
    (fromClaim pvc opt).annotations.lookup key = (pvc.annotationAt key).or (opt.annotations.lookup key) := by
  rw [fromClaim, FiniteMap.lookup_union_eq, obnvmfAnnotations_lookup hKey]
  cases hSnap : pvc.annotationAt snapshotReservedSpaceAnnotationKey with
  | none => rfl
  | some snapSize =>
    dsimp only
    rw [FiniteMap.lookup_insert_eq]
    split
    · rename_i hSame
      rw [hSame, hSnap]
      rfl
    · rfl

def annotationOfClaim (api : Answers) (req : CreateVolumeRequest) (key : String) : Option String :=
  if req.parameter pvcNamespaceKey ≠ "" ∧ req.parameter pvcNameKey ≠ "" then
    (api.getClaim (req.parameter pvcNamespaceKey) (req.parameter pvcNameKey)).bind fun pvc =>
      pvc.annotationAt key
  else none

theorem withClaim_lookup {api : Answers} {req : CreateVolumeRequest} {opt claimed : PVCreateOption}
    {nodeName key : String} (hKey : "obnvmf/".toList.isPrefixOf key.toList)
    (h : withClaim api req opt = .ok (claimed, nodeName)) :
    claimed.annotations.lookup key = (annotationOfClaim api req key).or (opt.annotations.lookup key) := by
  unfold withClaim at h
  unfold annotationOfClaim
  dsimp only at h
  split at h
  · rename_i hNamed
    rw [if_pos hNamed]
    split at h
    · cases h
    · rename_i pvc hClaim
      cases h
      rw [hClaim]
      exact fromClaim_lookup hKey
  · rename_i hNamed
    cases h
    rw [if_neg hNamed]
    rfl

theorem withHostNode_annotations {api : Answers} {nodeName : String} {opt opt' : PVCreateOption}
    (h : withHostNode api nodeName opt = .ok opt') : opt'.annotations = opt.annotations := by
  unfold withHostNode at h
  split at h
  · cases h
    rfl
  · split at h
    · cases h
    · cases h
      rfl

theorem createVolume_stages {api : Answers} {req : CreateVolumeRequest} {opt : PVCreateOption}
    (h : createVolume api req = .ok opt) :
    ∃ size source claimed nodeName, req.requiredBytes = some size ∧
      withContentSource api req (initialOption req size) = .ok source ∧
      withClaim api req source = .ok (claimed, nodeName) ∧ withHostNode api nodeName claimed = .ok opt := by
  unfold createVolume at h
  split at h
  · cases h
  · rename_i size hSize
    obtain ⟨source, hSource, hRest⟩ := Requests.bind_eq_ok h
    obtain ⟨⟨claimed, nodeName⟩, hClaimed, hHost⟩ := Requests.bind_eq_ok hRest
    exact ⟨size, source, claimed, nodeName, hSize, hSource, hClaimed, hHost⟩

structure MadeFrom (uuid : String) (opt : PVCreateOption) (vol : AntstorVolume) : Prop where
  name : vol.name = opt.pvName
  labels : vol.labels = some ((opt.labels.insert volumePVNameLabelKey opt.pvName).insert uuidLabelKey uuid)
  annotations : vol.annotations = some opt.annotations
  uuid : vol.spec.uuid = uuid
  sizeByte : vol.spec.sizeByte = uint64 opt.size
  hostNode : vol.spec.hostNode = some opt.hostNode

theorem newVolume_madeFrom {uuid : String} {opt : PVCreateOption} {vol : AntstorVolume}
    (h : newVolume uuid opt = .ok vol) : MadeFrom uuid opt vol := by
  unfold newVolume at h
  split at h
  · cases h
    exact ⟨rfl, rfl, rfl, rfl, rfl, rfl⟩
  · cases h

theorem createPV_madeFrom {uuid : String} {opt : PVCreateOption} {vol : AntstorVolume}
    (h : createPV uuid opt = .ok vol) : MadeFrom uuid opt vol := by
  unfold createPV at h
  split at h
  · cases h
  · exact newVolume_madeFrom h

/-- An annotation under a key of this system comes from the claim or, if the
claim has none, from the content source of the request. -/
theorem volume_annotationAt {api : Answers} {req : CreateVolumeRequest} {uuid key : String} {vol : AntstorVolume}
    (hKey : "obnvmf/".toList.isPrefixOf key.toList) (h : (createVolume api req).bind (createPV uuid) = .ok vol) :
    ∃ size source, withContentSource api req (initialOption req size) = .ok source ∧
      vol.annotationAt key = (annotationOfClaim api req key).or (source.annotations.lookup key) := by
  obtain ⟨opt, hOption, hCreated⟩ := Requests.bind_eq_ok h
  obtain ⟨size, source, claimed, nodeName, -, hSource, hClaimed, hHost⟩ := createVolume_stages hOption
  refine ⟨size, source, hSource, ?_⟩
  rw [ObjectMeta.annotationAt, (createPV_madeFrom hCreated).annotations, FiniteMap.find_some,
    withHostNode_annotations hHost, withClaim_lookup hKey hClaimed]

end Liteio.Csi
