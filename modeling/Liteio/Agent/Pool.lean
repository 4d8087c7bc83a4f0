import Liteio.Api.Objects

/-! # The agent's reports on its pool

The pool syncer of pkg/agent/sync. The agent keeps one copy of its pool for as
long as it runs. `syncPool` takes labels, annotations and the status from the
API server into this copy and sends the spec; `updatePoolStatus` records in the
copy what it finds on the node and sends conditions and sizes when they differ
from those of the object it has fetched.
-/

namespace Liteio.PoolSyncer

open MachineInt

def annotationTgtSpdkVersion : String := "obnvmf/tgt-version"

def annotationHostNQN : String := "obnvmf/hostnqn"

def pvLostErrStr : String := "Couldn't find device"

inductive VgError where
  | pvLost (stderr : String)
  | other (text : String)
  deriving DecidableEq

def VgError.error : VgError → String
  | .pvLost stderr => "LVM_PV_LOST stderr=" ++ stderr
  | .other text => text

structure VG where
  name : String
  totalByte : ℕ
  freeByte : ℕ

structure VgsRun where
  failed : Option String := none
  stderr : String := ""
  report : Except String (List VG)

def listVGJSON (vgs : VgsRun) : Except VgError (List VG) :=
  match vgs.failed with
  | some text => .error (.other text)
  | none =>
    if pvLostErrStr.toList <:+: vgs.stderr.toList then .error (.pvLost vgs.stderr)
    else vgs.report.mapError .other

def totalAndFreeSize (vgName : String) (vgs : VgsRun) : Except VgError (ℕ × ℕ) :=
  (listVGJSON vgs).map fun vgList =>
    match vgList.find? fun item => item.name = vgName with
    | some item => (item.totalByte, item.freeByte)
    | none => (0, 0)

structure Health where
  spdk : Bool
  sizes : Except VgError (ℕ × ℕ)

def setStatusConditions (spdk : Bool) (st : StoragePoolStatus) : StoragePoolStatus :=
  let status := if spdk then .ok else .error
  { st with conditions :=
      if st.conditions.any fun item => item.type = .spdk then
        st.conditions.map fun item => if item.type = .spdk then { item with status := status } else item
      else st.conditions ++ [{ type := .spdk, status := status }] }

def setStatusVgFree (sizes : Except VgError (ℕ × ℕ)) (st : StoragePoolStatus) :
    StoragePoolStatus × Option VgError :=
  match sizes with
  | .error err => (st, some err)
  | .ok (totalByte, freeByte) =>
    ({ st with
      vgFreeSize := int64 freeByte
      capacity := st.capacity.insert resourceDiskPoolByte (int64 totalByte) }, none)

def setLvmCondition (status : ConditionStatus) (msg : String) (conditions : List PoolCondition) :
    List PoolCondition :=
  conditions.map fun item => if item.type = .lvm then { item with status := status, message := msg } else item

/-- The Lvm condition of the fetched object after an error of the volume group. -/
def setLvmHealth (errVG : Option VgError) (conditions : List PoolCondition) : List PoolCondition :=
  match errVG with
  | some (.pvLost stderr) => setLvmCondition .error (VgError.pvLost stderr).error conditions
  | _ => setLvmCondition .ok "" conditions

def realStatus (h : Health) (st : StoragePoolStatus) : StoragePoolStatus × Option VgError :=
  setStatusVgFree h.sizes (setStatusConditions h.spdk st)

/-- The status to send, unless the fetched object shows the same. -/
def changedStatus (errVG : Option VgError) (real api : StoragePoolStatus) : Option StoragePoolStatus :=
  if real.conditions = setLvmHealth errVG api.conditions ∧ real.vgFreeSize = api.vgFreeSize ∧
      storage real.capacity = storage api.capacity then none
  else some { api with
    conditions := real.conditions
    vgFreeSize := real.vgFreeSize
    capacity := api.capacity.insert resourceDiskPoolByte (storage real.capacity) }

def updatePoolStatus (h : Health) (pool apiPool : StoragePool) : StoragePool × StoragePool :=
  let (real, errVG) := realStatus h pool.status
  match changedStatus errVG real apiPool.status with
  | none => ({ pool with status := real }, apiPool)
  | some status => ({ pool with status := status }, { apiPool with status := status })

structure StaticInfo where
  lvm : Option KernelLVM := none
  lvs : Option SpdkLVStore := none

structure SpdkStatus where
  spdkVersion : String := ""
  healthy : Bool := true

structure Surroundings where
  hostNQN : String := ""
  spdkVer : SpdkStatus := {}
  poolInfo : Except VgError StaticInfo
  nodeInfo : Except VgError NodeInfo

/-- A spec that could not be completed is returned next to the error. -/
def getPoolSpec (around : Surroundings) : StoragePoolSpec × Option VgError :=
  match around.poolInfo with
  | .error err => ({}, some err)
  | .ok poolInfo =>
    match around.nodeInfo with
    | .error err => ({}, some err)
    | .ok nodeInfo =>
      ({ nodeInfo := nodeInfo
         addresses := [{ type := "InternalIP", address := nodeInfo.ip }]
         kernelLVM := poolInfo.lvm.getD {}
         spdkLVStore := poolInfo.lvs.getD {} }, none)

def setPoolAttributes (K : Kube) (spdkVer : SpdkStatus) (pool : StoragePool) : StoragePool :=
  let quant : Quantity := pool.getVgTotalBytes K
  { pool with
    labels := FiniteMap.put pool.labels poolLabelsNodeSnKey pool.name
    annotations := if spdkVer.healthy
      then FiniteMap.put pool.annotations annotationTgtSpdkVersion spdkVer.spdkVersion
      else some (pool.annotations.getD ∅)
    status := { pool.status with
      capacity := pool.status.capacity.insert resourceDiskPoolByte quant
      vgFreeSize := quant } }

def putUnlessEmpty (m : StringMap) (key value : String) : StringMap :=
  if value = "" then m else FiniteMap.put m key value

def syncAnnotations (around : Surroundings) (pool apiPool : StoragePool) : StringMap :=
  let copied : StringMap := some (apiPool.annotations.getD ∅ ∪ pool.annotations.getD ∅)
  putUnlessEmpty (putUnlessEmpty copied annotationHostNQN around.hostNQN)
    annotationTgtSpdkVersion around.spdkVer.spdkVersion

inductive SpecWrite where
  | create (pool : StoragePool)
  | update (pool : StoragePool)

/-- The agent's copy after `syncPool` has fetched the object, and its write.
The copy shares its conditions with the fetched object, so the Lvm condition
that is set on an error of the spec is set in both. -/
def syncPool (K : Kube) (around : Surroundings) (pool : StoragePool) :
    Option StoragePool → StoragePool × Option SpecWrite
  | none =>
    let (spec, err) := getPoolSpec around
    let created := { setPoolAttributes K around.spdkVer pool with spec := spec }
    (created, match err with
      | some _ => none
      | none => some (.create created))
  | some apiPool =>
    let annotations := syncAnnotations around pool apiPool
    let (spec, err) := getPoolSpec around
    let status := match err with
      | none => apiPool.status
      | some _ => { apiPool.status with conditions := setLvmHealth err apiPool.status.conditions }
    ({ pool with annotations := annotations, labels := apiPool.labels, status := status, spec := spec },
      if annotations = apiPool.annotations ∧ spec = apiPool.spec then none
      else some (.update { apiPool with annotations := annotations, spec := spec, status := status }))

theorem totalAndFreeSize_pvLost_iff {vgName stderr : String} {vgs : VgsRun} :
    totalAndFreeSize vgName vgs = .error (.pvLost stderr) ↔
      vgs.failed = none ∧ pvLostErrStr.toList <:+: vgs.stderr.toList ∧ vgs.stderr = stderr := by
  unfold totalAndFreeSize listVGJSON
  cases vgs.failed with
  | some text => simp [Except.map]
  | none =>
    by_cases hLost : pvLostErrStr.toList <:+: vgs.stderr.toList
    · simp [hLost, Except.map]
    · cases vgs.report <;> simp [hLost, Except.map, Except.mapError]

end Liteio.PoolSyncer
