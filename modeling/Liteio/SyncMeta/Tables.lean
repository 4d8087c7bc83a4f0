import Liteio.Csi.Client
import Liteio.Library.Orm
import Mathlib.Data.Fintype.Sets

/-! # Tables of the metadata database

The tables of pkg/controller/syncmeta with their columns, and the rows that are
made of the API objects. The texts that `json.Marshal` gives are a parameter.
-/

namespace Liteio.SyncMeta

open MachineInt Orm

inductive StoragePoolColumn where
  | id | clusterName | name | vgType | vgName | reservedVol | totalSize | freeSize | nodeID | nodeIP
  | nodeHostname | status | createdAt | updatedAt | deletedAt
  deriving DecidableEq

instance : Fintype StoragePoolColumn := Fintype.ofList
  [.id, .clusterName, .name, .vgType, .vgName, .reservedVol, .totalSize, .freeSize, .nodeID, .nodeIP,
    .nodeHostname, .status, .createdAt, .updatedAt, .deletedAt]
  fun c => by cases c <;> simp

inductive AntstorVolumeColumn where
  | id | clusterName | name | uid | labels | pvcNS | pvcName | lvolDevPath | lvolName | isThin
  | positionAdvice | size | targetNodeID | hostNodeID | hostNodeIP | hostNodeHostname | spdkSubsysNQN
  | spdkSvcID | spdkSN | spdkTransType | spdkBdevName | spdkNsUUID | spdkAddress | csiStagingPath
  | csiPublishPath | podNS | podName | status | createdAt | updatedAt | deletedAt
  deriving DecidableEq

instance : Fintype AntstorVolumeColumn := Fintype.ofList
  [.id, .clusterName, .name, .uid, .labels, .pvcNS, .pvcName, .lvolDevPath, .lvolName, .isThin,
    .positionAdvice, .size, .targetNodeID, .hostNodeID, .hostNodeIP, .hostNodeHostname,
    .spdkSubsysNQN, .spdkSvcID, .spdkSN, .spdkTransType, .spdkBdevName, .spdkNsUUID, .spdkAddress,
    .csiStagingPath, .csiPublishPath, .podNS, .podName, .status, .createdAt, .updatedAt, .deletedAt]
  fun c => by cases c <;> simp

inductive AntstorSnapshotColumn where
  | id | name | clusterName | originVolName | originVolNs | originVolTargetNodeID | volType | lvolDevPath
  | lvolName | spdkLvsName | spdkSnapName | size | status | createdAt | updatedAt | deletedAt
  deriving DecidableEq

instance : Fintype AntstorSnapshotColumn := Fintype.ofList
  [.id, .name, .clusterName, .originVolName, .originVolNs, .originVolTargetNodeID, .volType,
    .lvolDevPath, .lvolName, .spdkLvsName, .spdkSnapName, .size, .status, .createdAt, .updatedAt,
    .deletedAt]
  fun c => by cases c <;> simp

inductive AntstorDataControlColumn where
  | id | name | clusterName | uid | raidLevel | targetNodeId | engineType | lvmVG | lvmLV | pvcNS | pvcName
  | hostNodeID | hostNodeIP | hostNodeHostname | podNS | podName | status | createdAt | updatedAt | deletedAt
  deriving DecidableEq

instance : Fintype AntstorDataControlColumn := Fintype.ofList
  [.id, .name, .clusterName, .uid, .raidLevel, .targetNodeId, .engineType, .lvmVG, .lvmLV, .pvcNS,
    .pvcName, .hostNodeID, .hostNodeIP, .hostNodeHostname, .podNS, .podName, .status, .createdAt,
    .updatedAt, .deletedAt]
  fun c => by cases c <;> simp

inductive AntstorVolumeGroupColumn where
  | id | name | clusterName | uid | size | dataControlName | volumes | status | createdAt | updatedAt
  | deletedAt
  deriving DecidableEq

instance : Fintype AntstorVolumeGroupColumn := Fintype.ofList
  [.id, .name, .clusterName, .uid, .size, .dataControlName, .volumes, .status, .createdAt,
    .updatedAt, .deletedAt]
  fun c => by cases c <;> simp

structure Marshal where
  reservedLVol : List KernelLVol → String
  labels : FiniteMap String String → String
  volumes : List VolumeMeta → String

def volumeContextKeyPodName : String := "csi.storage.k8s.io/pod.name"
def volumeContextKeyPodNS : String := "csi.storage.k8s.io/pod.namespace"

def volumeStatusText : VolumeStatus → String
  | .unset => ""
  | .creating => "creating"
  | .ready => "ready"
  | .deleted => "deleted"

def snapshotStatusText : SnapshotStatusName → String
  | .unset => ""
  | .creating => "creating"
  | .ready => "ready"
  | .merging => "merging"
  | .merged => "merged"
  | .error => "error"
  | .deleted => "deleted"

def poolStatusText : PoolStatus → String
  | .unset => ""
  | .ready => "ready"
  | .locked => "locked"
  | .offline => "offline"
  | .unknown => "unknown"

def volumeTypeText : VolumeType → String
  | .unset => ""
  | .flexible => "Flexible"
  | .kernelLVol => "KernelLVol"
  | .spdkLVol => "SpdkLVol"

def positionText : VolumePosition → String
  | .noPreference => ""
  | .mustLocal => "MustLocal"
  | .preferLocal => "PreferLocal"
  | .preferRemote => "PreferRemote"
  | .mustRemote => "MustRemote"

def poolModeText : PoolMode → String
  | .kernelLVM => "KernelLVM"
  | .spdkLVStore => "SpdkLVStore"

/-- A key that is absent reads as the empty text. -/
def textAt (m : StringMap) (key : String) : String := (FiniteMap.find m key).getD ""

/-- The type and the name of the volume group; the one of SPDK wins. -/
def volumeGroupOf (sp : StoragePool) : VolumeType × String :=
  if sp.spec.spdkLVStore.name ≠ "" then (.spdkLVol, sp.spec.spdkLVStore.name)
  else if sp.spec.kernelLVM.name ≠ "" then (.kernelLVol, sp.spec.kernelLVM.name)
  else (.unset, "")

def toStoragePoolMapping (K : Kube) (json : Marshal) (clusterName : String) (sp : StoragePool) :
    Row StoragePoolColumn
  | .clusterName => .text clusterName
  | .name => .text sp.name
  | .vgType => .text (volumeTypeText (volumeGroupOf sp).1)
  | .vgName => .text (volumeGroupOf sp).2
  | .reservedVol => .text (json.reservedLVol sp.spec.kernelLVM.reservedLVol)
  | .totalSize => .int (uint64 (sp.getVgTotalBytes K))
  | .freeSize => .int (uint64 (ofFloat (K.asApproximateFloat64 sp.status.vgFreeSize)))
  | .nodeID => .text sp.spec.nodeInfo.id
  | .nodeIP => .text sp.spec.nodeInfo.ip
  | .nodeHostname => .text sp.spec.nodeInfo.hostname
  | .status => .text (poolStatusText sp.status.status)
  | .id | .createdAt | .updatedAt | .deletedAt => .int 0

def toAntstorVolumeMapping (json : Marshal) (clusterName : String) (vol : AntstorVolume) :
    Row AntstorVolumeColumn :=
  let hostNode := vol.spec.hostNode.getD {}
  let spdk := vol.spec.spdkTarget.getD {}
  let csi := vol.status.csiNodePubParams.getD {}
  fun
  | .clusterName => .text clusterName
  | .name => .text vol.name
  | .uid => .text vol.spec.uuid
  | .labels => .text (match vol.labels with
    | some labels => json.labels labels
    | none => "\x7b\x7d")
  | .pvcNS => .text (textAt vol.labels volumeContextKeyPvcNS)
  | .pvcName => .text (textAt vol.labels volumeContextKeyPvcName)
  | .lvolDevPath => .text (vol.spec.kernelLvol.getD {}).devPath
  | .lvolName => .text (match vol.spec.spdkLvol with
    | some lvol => lvol.lvsName
    | none => (vol.spec.kernelLvol.getD {}).name)
  | .isThin => .int 0
  | .positionAdvice => .text (positionText vol.spec.positionAdvice)
  | .size => .int vol.spec.sizeByte
  | .targetNodeID => .text vol.spec.targetNodeId
  | .hostNodeID => .text hostNode.id
  | .hostNodeIP => .text hostNode.ip
  | .hostNodeHostname => .text hostNode.hostname
  | .spdkSubsysNQN => .text spdk.subsysNQN
  | .spdkSvcID => .text spdk.svcID
  | .spdkSN => .text spdk.serialNum
  | .spdkTransType => .text spdk.transType
  | .spdkBdevName => .text spdk.bdevName
  | .spdkNsUUID => .text spdk.nsUUID
  | .spdkAddress => .text spdk.address
  | .csiStagingPath => .text csi.stagingTargetPath
  | .csiPublishPath => .text csi.targetPath
  | .podNS => .text (textAt csi.csiVolumeContext volumeContextKeyPodNS)
  | .podName => .text (textAt csi.csiVolumeContext volumeContextKeyPodName)
  | .status => .text (volumeStatusText vol.status.status)
  | .id | .createdAt | .updatedAt | .deletedAt => .int 0

def toAntstorSnapshotMapping (clusterName : String) (snap : AntstorSnapshot) : Row AntstorSnapshotColumn
  | .clusterName => .text clusterName
  | .name => .text snap.name
  | .originVolName => .text snap.spec.originVolName
  | .originVolNs => .text snap.spec.originVolNamespace
  | .originVolTargetNodeID => .text snap.spec.originVolTargetNodeID
  | .volType => .text (volumeTypeText snap.spec.volType)
  | .lvolDevPath => .text snap.spec.kernelLvol.devPath
  | .lvolName => .text snap.spec.kernelLvol.name
  | .spdkLvsName => .text snap.spec.spdkLvol.lvsName
  | .spdkSnapName => .text snap.spec.spdkLvol.name
  | .size => .int snap.spec.size
  | .status => .text (snapshotStatusText snap.status)
  | .id | .createdAt | .updatedAt | .deletedAt => .int 0

def toAntstorDataControlMapping (clusterName : String) (ad : AntstorDataControl) : Row AntstorDataControlColumn :=
  let csi := ad.status.csiNodePubParams.getD {}
  let lvm := ad.spec.lvm.getD {}
  fun
  | .clusterName => .text clusterName
  | .name => .text ad.name
  | .uid => .text ad.spec.uuid
  | .raidLevel => .text ad.spec.raidLevel
  | .targetNodeId => .text ad.spec.targetNodeId
  | .engineType => .text (poolModeText ad.spec.engineType)
  | .lvmVG => .text lvm.vg
  | .lvmLV => .text lvm.lvol
  | .pvcNS => .text (textAt ad.labels volumeContextKeyPvcNS)
  | .pvcName => .text (textAt ad.labels volumeContextKeyPvcName)
  | .hostNodeID => .text ad.spec.hostNode.id
  | .hostNodeIP => .text ad.spec.hostNode.ip
  | .hostNodeHostname => .text ad.spec.hostNode.hostname
  | .podNS => .text (textAt csi.csiVolumeContext volumeContextKeyPodNS)
  | .podName => .text (textAt csi.csiVolumeContext volumeContextKeyPodName)
  | .status => .text (volumeStatusText ad.status.status)
  | .id | .createdAt | .updatedAt | .deletedAt => .int 0

def toAntstorVolumeGroupMapping (json : Marshal) (clusterName : String) (group : AntstorVolumeGroup) :
    Row AntstorVolumeGroupColumn
  | .clusterName => .text clusterName
  | .name => .text group.name
  | .uid => .text group.spec.uuid
  | .size => .int group.spec.totalSize
  | .dataControlName => .text (textAt group.labels Csi.dataControlNameKey)
  | .volumes => .text (json.volumes group.spec.volumes)
  | .status => .text (volumeStatusText group.status.status)
  | .id | .createdAt | .updatedAt | .deletedAt => .int 0

/-- What the functions of sql.go are told about one table: the columns all
tables have, the columns an update sets and the ones its condition is made of. No
update sets the columns a row is looked up by or the one that marks it as deleted,
and no sync the ones of the condition. -/
structure Table (κ : Type) where
  id : κ
  clusterName : κ
  name : κ
  status : κ
  createdAt : κ
  updatedAt : κ
  deletedAt : κ
  updated : List κ
  key : List κ
  distinct : [id, clusterName, name, status, createdAt, updatedAt, deletedAt].Nodup
  kept : ∀ c ∈ [clusterName, name, deletedAt], c ∉ updated
  keyed : ∀ c ∈ key, c ∉ [status, createdAt, updatedAt, deletedAt]

theorem Table.deletedAt_ne {κ : Type} (T : Table κ) :
    T.deletedAt ≠ T.id ∧ T.deletedAt ≠ T.createdAt ∧ T.deletedAt ≠ T.updatedAt := by
  have h := T.distinct
  simp only [List.nodup_cons, List.mem_cons, not_or] at h
  obtain ⟨⟨-, -, -, -, -, hId, -⟩, -, -, -, ⟨-, hCreated, -⟩, ⟨hUpdated, -⟩, -⟩ := h
  exact ⟨Ne.symm hId, Ne.symm hCreated, Ne.symm hUpdated⟩

theorem Table.names_ne {κ : Type} (T : Table κ) {c : κ} (hc : c ∈ [T.clusterName, T.name]) :
    c ∉ [T.id, T.status, T.createdAt, T.updatedAt, T.deletedAt] := by
  have h := T.distinct
  simp only [List.nodup_cons, List.mem_cons, not_or] at h
  obtain ⟨⟨hIdCluster, hIdName, -⟩, ⟨-, hCluster⟩, hName, -⟩ := h
  simp only [List.mem_cons, not_or]
  rcases List.mem_cons.mp hc with rfl | hc
  · exact ⟨Ne.symm hIdCluster, hCluster⟩
  · obtain rfl := List.mem_singleton.mp hc
    exact ⟨Ne.symm hIdName, hName⟩

def storagePool : Table StoragePoolColumn where
  id := .id
  clusterName := .clusterName
  name := .name
  status := .status
  createdAt := .createdAt
  updatedAt := .updatedAt
  deletedAt := .deletedAt
  updated := [.vgType, .vgName, .reservedVol, .totalSize, .nodeIP, .nodeHostname, .freeSize, .status, .updatedAt]
  key := [.clusterName, .name]
  distinct := by decide
  kept := by decide
  keyed := by decide

def antstorVolume : Table AntstorVolumeColumn where
  id := .id
  clusterName := .clusterName
  name := .name
  status := .status
  createdAt := .createdAt
  updatedAt := .updatedAt
  deletedAt := .deletedAt
  updated := [.uid, .labels, .pvcNS, .pvcName, .lvolDevPath, .lvolName, .isThin, .positionAdvice, .size,
    .targetNodeID, .hostNodeID, .hostNodeIP, .hostNodeHostname, .spdkSubsysNQN, .spdkSvcID, .spdkSN,
    .spdkTransType, .spdkBdevName, .spdkNsUUID, .spdkAddress, .csiStagingPath, .csiPublishPath, .podNS,
    .podName, .status, .updatedAt]
  key := [.clusterName, .name]
  distinct := by decide
  kept := by decide
  keyed := by decide

/-- The condition of a snapshot is its origin and not its name. -/
def antstorSnapshot : Table AntstorSnapshotColumn where
  id := .id
  clusterName := .clusterName
  name := .name
  status := .status
  createdAt := .createdAt
  updatedAt := .updatedAt
  deletedAt := .deletedAt
  updated := [.volType, .lvolDevPath, .lvolName, .size, .status, .updatedAt]
  key := [.clusterName, .originVolName, .originVolNs]
  distinct := by decide
  kept := by decide
  keyed := by decide

def antstorDataControl : Table AntstorDataControlColumn where
  id := .id
  clusterName := .clusterName
  name := .name
  status := .status
  createdAt := .createdAt
  updatedAt := .updatedAt
  deletedAt := .deletedAt
  updated := [.uid, .pvcNS, .pvcName, .targetNodeId, .hostNodeID, .hostNodeIP, .hostNodeHostname, .raidLevel,
    .engineType, .lvmVG, .lvmLV, .podNS, .podName, .status, .updatedAt]
  key := [.clusterName, .name]
  distinct := by decide
  kept := by decide
  keyed := by decide

def antstorVolumeGroup : Table AntstorVolumeGroupColumn where
  id := .id
  clusterName := .clusterName
  name := .name
  status := .status
  createdAt := .createdAt
  updatedAt := .updatedAt
  deletedAt := .deletedAt
  updated := [.uid, .size, .dataControlName, .volumes, .status, .updatedAt]
  key := [.clusterName, .name]
  distinct := by decide
  kept := by decide
  keyed := by decide

end Liteio.SyncMeta
