import Liteio.Migration.Objects
import Liteio.Nvme.Subsystems

/-! # The three migration reconcilers

`VolumeMigrationReconciler` of the controller, `MigrationReconciler` of the
agent on the source node and `MigrationReconciler` of the host, each as a
function from the migration it read and the answers it gets to the calls it
makes outside and the one write to the migration it ends with. A pass that
dereferences a nil host, target or logical volume ends there.
-/

namespace Liteio.Migration

open Nvme

inductive Call where
  | createVolume (vol : AntstorVolume)
  | ensureMigrationDestBdev (controllerName : String) (target : SpdkTarget)
  | startMigrationTask (srcBdev dstBdev : String)
  | setMigrationConfig (srcBdev dstBdev : String)
  | cleanMigrationTask (srcBdev dstBdev : String)
  | detachMigrationDestBdev (controllerName : String)
  | connectTarget (target : SpdkTarget)
  | disconnectTarget (nqn trAddr svcID : String)
  deriving DecidableEq

structure MigrateTask where
  status : String := ""
  totalWritePages : ℤ := 0
  totalReadPages : ℤ := 0
  timeElapsedMS : ℤ := 0
  roundPassed : ℤ := 0
  isLastRound : String := ""

def migrateTaskStatusCompleted : String := "completed"

structure Answers where
  srcVol : GetResult AntstorVolume
  destVol : GetResult AntstorVolume
  uuid : String := ""
  succeeds : Call → Bool := fun _ => true
  migrationTasks : Option (List MigrateTask) := none
  listSubsystems : Option (List SubsystemItem) := none

inductive Write where
  | update (m : VolumeMigration)
  | updateStatus (status : VolumeMigrationStatus)
  | patch (old new : MigrationInfo)

structure Outcome where
  calls : List Call := []
  write : Option Write := none

def Outcome.update (m : VolumeMigration) : Outcome := { write := some (.update m) }

def Outcome.updateStatus (status : VolumeMigrationStatus) : Outcome := { write := some (.updateStatus status) }

def Outcome.after (ans : Answers) (call : Call) (rest : Outcome) : Outcome :=
  if ans.succeeds call then { rest with calls := call :: rest.calls } else { calls := [call] }

def mergeField {α : Type*} [DecidableEq α] (old new current : α) : α := if new = old then current else new

def mergeInfo (old new current : MigrationInfo) : MigrationInfo where
  migrationPipe := {
    destBdevName := mergeField old.migrationPipe.destBdevName new.migrationPipe.destBdevName
      current.migrationPipe.destBdevName
    status := mergeField old.migrationPipe.status new.migrationPipe.status current.migrationPipe.status }
  hostConnectStatus := mergeField old.hostConnectStatus new.hostConnectStatus current.hostConnectStatus
  autoSwitch := {
    enabled := mergeField old.autoSwitch.enabled new.autoSwitch.enabled current.autoSwitch.enabled
    status := mergeField old.autoSwitch.status new.autoSwitch.status current.autoSwitch.status }
  jobProgress := {
    srcBdev := mergeField old.jobProgress.srcBdev new.jobProgress.srcBdev current.jobProgress.srcBdev
    dstBdev := mergeField old.jobProgress.dstBdev new.jobProgress.dstBdev current.jobProgress.dstBdev
    status := mergeField old.jobProgress.status new.jobProgress.status current.jobProgress.status
    totalWritePages := mergeField old.jobProgress.totalWritePages new.jobProgress.totalWritePages
      current.jobProgress.totalWritePages
    totalReadPages := mergeField old.jobProgress.totalReadPages new.jobProgress.totalReadPages
      current.jobProgress.totalReadPages
    roundPassed := mergeField old.jobProgress.roundPassed new.jobProgress.roundPassed
      current.jobProgress.roundPassed
    elapsedTimeMs := mergeField old.jobProgress.elapsedTimeMs new.jobProgress.elapsedTimeMs
      current.jobProgress.elapsedTimeMs
    isLastRound := mergeField old.jobProgress.isLastRound new.jobProgress.isLastRound
      current.jobProgress.isLastRound }

def setInfo (m : VolumeMigration) (info : MigrationInfo) : VolumeMigration :=
  { m with spec := { m.spec with migrationInfo := info } }

/-- What a write makes of the migration. An update leaves the status and a
status update leaves the rest. -/
def Write.apply : Write → VolumeMigration → VolumeMigration
  | .update m, current => { m with status := current.status }
  | .updateStatus status, current => { current with status := status }
  | .patch old new, current => setInfo current (mergeInfo old new current.spec.migrationInfo)

/-- Patches are sent without a resource version. -/
def Write.guarded : Write → Bool
  | .patch _ _ => false
  | _ => true

def removeFinalizer (m : VolumeMigration) (finalizer : String) : List String :=
  m.finalizers.filter fun item => item ≠ finalizer

namespace Controller

def newDestVolume (m : VolumeMigration) (srcVol : AntstorVolume) (target : SpdkTarget) : AntstorVolume :=
  let labels := (srcVol.labels.getD ∅).erase targetNodeIdLabelKey
  { ns := m.spec.destVolume.ns
    name := m.spec.destVolume.name
    labels := some ((labels.insert migrationLabelKeySourceVolumeName srcVol.name).insert
      migrationLabelKeyMigrationName m.name)
    annotations := some ((srcVol.annotations.getD ∅).insert poolLabelSelectorKey
      (poolLabelsNodeSnKey ++ "!=" ++ srcVol.spec.targetNodeId))
    spec := {
      uuid := if "mig-".toList.isPrefixOf m.spec.destVolume.name.toList
        then String.ofList (m.spec.destVolume.name.toList.drop 4) else m.spec.destVolume.name
      type := srcVol.spec.type
      sizeByte := srcVol.spec.sizeByte
      positionAdvice := srcVol.spec.positionAdvice
      hostNode := srcVol.spec.hostNode
      spdkTarget := some { subsysNQN := target.subsysNQN, nsUUID := target.nsUUID } } }

def fillSource (m : VolumeMigration) (srcVol : AntstorVolume) (host : NodeInfo) (target : SpdkTarget) :
    VolumeMigration :=
  { m with spec := { m.spec with sourceVolume := { m.spec.sourceVolume with
      targetNodeId := srcVol.spec.targetNodeId, hostNodeId := host.id, spdk := target } } }

def addLabels (m : VolumeMigration) (srcVol : AntstorVolume) (host : NodeInfo) : VolumeMigration :=
  { m with labels := some (((m.labels.getD ∅).insert migrationLabelKeySourceNodeId
      srcVol.spec.targetNodeId).insert migrationLabelKeyHostNodeId host.id) }

def nameDest (m : VolumeMigration) (srcVol : AntstorVolume) (host : NodeInfo) (uuid : String) :
    VolumeMigration :=
  { m with spec := { m.spec with destVolume := { m.spec.destVolume with
      ns := srcVol.ns, name := "mig-" ++ uuid, hostNodeId := host.id } } }

def fillDest (m : VolumeMigration) (destVol : AntstorVolume) (target : SpdkTarget) : VolumeMigration :=
  { m with spec := { m.spec with destVolume := { m.spec.destVolume with
      targetNodeId := destVol.spec.targetNodeId, spdk := target } } }

def advance (m : VolumeMigration) : Outcome :=
  let info := m.spec.migrationInfo
  match m.status.phase with
  | .creatingVolume => .updateStatus { m.status with phase := .setupPipe }
  | .setupPipe =>
    if info.migrationPipe.status ≠ .connected ∨ info.hostConnectStatus ≠ .connected then {}
    else .updateStatus { m.status with phase := .syncing }
  | .syncing =>
    if info.autoSwitch.status ≠ .success then {}
    else .updateStatus { m.status with phase := .cleaning }
  | .cleaning =>
    if info.migrationPipe.status ≠ .disconnected ∨ info.hostConnectStatus ≠ .disconnected then {}
    else .updateStatus { m.status with phase := .finished, status := .finished }
  | _ => {}

def reconcileDest (ans : Answers) (m : VolumeMigration) (srcVol : AntstorVolume) : Outcome :=
  if m.spec.destVolume.name = "" then
    match srcVol.spec.hostNode with
    | some host => .update (nameDest m srcVol host ans.uuid)
    | none => {}
  else
    match ans.destVol with
    | .error _ => {}
    | .notFound _ =>
      match srcVol.spec.spdkTarget with
      | some target => { calls := [.createVolume (newDestVolume m srcVol target)] }
      | none => {}
    | .found destVol =>
      if destVol.status.status ≠ .ready then {}
      else if m.spec.destVolume.targetNodeId = "" ∨ m.spec.destVolume.spdk.address = "" then
        match destVol.spec.spdkTarget with
        | some target => .update (fillDest m destVol target)
        | none => {}
      else advance m

def reconcileSource (ans : Answers) (m : VolumeMigration) (srcVol : AntstorVolume) : Outcome :=
  if srcVol.spec.type ≠ .spdkLVol then
    .updateStatus { m.status with message := .invalidType srcVol.spec.type, status := .error }
  else if srcVol.spec.positionAdvice = .mustLocal then
    .updateStatus { m.status with message := .invalidPosition srcVol.spec.positionAdvice, status := .error }
  else if srcVol.status.status ≠ .ready then
    .updateStatus { m.status with message := .notReady srcVol.status }
  else if m.spec.sourceVolume.targetNodeId = "" ∨ m.spec.sourceVolume.spdk.subsysNQN = "" ∨
      m.spec.sourceVolume.hostNodeId = "" then
    match srcVol.spec.hostNode, srcVol.spec.spdkTarget with
    | some host, some target => .update (fillSource m srcVol host target)
    | _, _ => {}
  else if (m.label migrationLabelKeySourceNodeId).getD "" = "" then
    match srcVol.spec.hostNode with
    | some host => .update (addLabels m srcVol host)
    | none => {}
  else if m.status.phase = .pending then
    .updateStatus { m.status with phase := .creatingVolume, status := .working }
  else reconcileDest ans m srcVol

def reconcile (ans : Answers) (m : VolumeMigration) : Outcome :=
  if m.deletionTimestamp.isSome then {}
  else if m.status.status = .error then {}
  else if m.status.phase = .unset then
    .updateStatus { m.status with phase := .pending, status := .working }
  else
    match ans.srcVol with
    | .found srcVol => reconcileSource ans m srcVol
    | .notFound text | .error text =>
      .updateStatus { m.status with message := .invalidSource text, status := .error }

end Controller

/-- The checks of the agent and of the host on the volumes, which give the
source and the destination. The host asks for the destination twice. -/
def readVolumes (ans : Answers) (m : VolumeMigration) : Option (AntstorVolume × AntstorVolume) :=
  if m.deletionTimestamp.isSome then none
  else if m.spec.destVolume.name = "" ∨ m.spec.destVolume.ns = "" then none
  else
    match ans.srcVol, ans.destVol with
    | .found srcVol, .found destVol =>
      if destVol.status.status ≠ .ready then none
      else if destVol.spec.type ≠ .spdkLVol then none
      else some (srcVol, destVol)
    | _, _ => none

namespace Agent

def setupPipe (ans : Answers) (m : VolumeMigration) (destVol : AntstorVolume) : Outcome :=
  match destVol.spec.spdkTarget with
  | none => {}
  | some target =>
    .after ans (.ensureMigrationDestBdev destVol.name target) <| .update
      { setInfo m { m.spec.migrationInfo with
          migrationPipe := { destBdevName := destVol.name ++ "n1", status := .connected } } with
        finalizers := m.finalizers ++ [migrationFinalizerPipeConnected] }

def jobProgress (srcBdev dstBdev : String) (task : MigrateTask) : JobProgress where
  srcBdev := srcBdev
  dstBdev := dstBdev
  status := task.status
  isLastRound := task.isLastRound
  totalWritePages := task.totalWritePages
  totalReadPages := task.totalReadPages
  roundPassed := task.roundPassed
  elapsedTimeMs := task.timeElapsedMS

/-- One look at the running task, which also enables the switch after a round. -/
def followTask (ans : Answers) (m : VolumeMigration) (srcBdev : String) (task : MigrateTask) : Outcome :=
  let old := m.spec.migrationInfo
  let dstBdev := old.migrationPipe.destBdevName
  let new := { old with jobProgress := jobProgress srcBdev dstBdev task }
  if task.status ≠ migrateTaskStatusCompleted ∧
      task.timeElapsedMS - old.jobProgress.elapsedTimeMs < 10 * 1000 then {}
  else if old.autoSwitch.enabled then { write := some (.patch old new) }
  else if 0 < task.roundPassed then
    .after ans (.setMigrationConfig srcBdev dstBdev)
      { write := some (.patch old { new with autoSwitch := { enabled := true, status := .unknown } }) }
  else {}

def syncing (ans : Answers) (m : VolumeMigration) (srcVol : AntstorVolume) : Outcome :=
  match srcVol.spec.spdkLvol with
  | none => {}
  | some lvol =>
    match ans.migrationTasks with
    | none => {}
    | some [] =>
      { calls := [.startMigrationTask lvol.fullName m.spec.migrationInfo.migrationPipe.destBdevName] }
    | some (task :: _) => followTask ans m lvol.fullName task

def cleaning (ans : Answers) (m : VolumeMigration) (srcVol destVol : AntstorVolume) : Outcome :=
  let info := m.spec.migrationInfo
  if info.migrationPipe.status = .connected then
    match srcVol.spec.spdkLvol with
    | none => {}
    | some lvol =>
      .after ans (.cleanMigrationTask lvol.fullName info.migrationPipe.destBdevName) <|
        .after ans (.detachMigrationDestBdev destVol.name) <| .update
          { setInfo m { info with migrationPipe := { info.migrationPipe with status := .disconnected } } with
            finalizers := removeFinalizer m migrationFinalizerPipeConnected }
  else {}

def reconcile (ans : Answers) (m : VolumeMigration) : Outcome :=
  match readVolumes ans m with
  | none => {}
  | some (srcVol, destVol) =>
    match m.status.phase with
    | .setupPipe =>
      if m.spec.migrationInfo.migrationPipe.destBdevName = "" then setupPipe ans m destVol else {}
    | .syncing => syncing ans m srcVol
    | .cleaning => cleaning ans m srcVol destVol
    | _ => {}

end Agent

namespace Host

/-- The scan over the paths of the subsystems with this name. It stops at the
first match of a subsystem, and goes on with the next subsystem. -/
def scanPaths (nqn : String) (matched : Path → Bool) (list : List SubsystemItem) : Bool :=
  list.foldl (fun found item =>
    if item.nqn = nqn ∧ item.paths ≠ [] then item.paths.any matched else found) false

def isPathTo (target : SpdkTarget) (path : Path) : Bool :=
  parseNvmePathAddress path.address = (target.address, target.svcID)

def setupPipe (ans : Answers) (m : VolumeMigration) (destVol : AntstorVolume) : Outcome :=
  match ans.listSubsystems with
  | none => {}
  | some list =>
    let connected := .update
      { setInfo m { m.spec.migrationInfo with hostConnectStatus := .connected } with
        finalizers := m.finalizers ++ [migrationFinalizerHostConnected] }
    match destVol.spec.spdkTarget with
    | none => {}
    | some target =>
      if scanPaths target.subsysNQN (isPathTo target) list then connected
      else .after ans (.connectTarget target) connected

def syncing (ans : Answers) (m : VolumeMigration) : Outcome :=
  let info := m.spec.migrationInfo
  if info.autoSwitch.status ≠ .success ∧ info.autoSwitch.enabled then
    match ans.listSubsystems with
    | none => {}
    | some list =>
      let dest := m.spec.destVolume.spdk
      if scanPaths dest.subsysNQN (fun path => path.pathState = "working" && isPathTo dest path) list then
        .update (setInfo m { info with autoSwitch := { info.autoSwitch with status := .success } })
      else {}
  else {}

/-- The path to the source on a subsystem with several paths; the last one wins. -/
def sourcePath (m : VolumeMigration) (list : List SubsystemItem) : Option Path :=
  list.foldl (fun found item =>
    if item.nqn = m.spec.destVolume.spdk.subsysNQN ∧ 1 < item.paths.length then
      item.paths.foldl (fun found path =>
        if isPathTo m.spec.sourceVolume.spdk path then some path else found) found
    else found) none

def cleaning (ans : Answers) (m : VolumeMigration) : Outcome :=
  let info := m.spec.migrationInfo
  let source := m.spec.sourceVolume.spdk
  if info.hostConnectStatus = .connected then
    match ans.listSubsystems with
    | none => {}
    | some list =>
      let disconnected := .update
        { setInfo m { info with hostConnectStatus := .disconnected } with
          finalizers := removeFinalizer m migrationFinalizerHostConnected }
      match sourcePath m list with
      | none => disconnected
      | some path =>
        if path.pathState ≠ "degraded" then {}
        -- the nvme client refuses an empty name
        else if source.subsysNQN = "" then {}
        else .after ans (.disconnectTarget source.subsysNQN source.address source.svcID) disconnected
  else {}

def reconcile (ans : Answers) (m : VolumeMigration) : Outcome :=
  match readVolumes ans m with
  | none => {}
  | some (_, destVol) =>
    match m.status.phase with
    | .setupPipe =>
      if m.spec.migrationInfo.hostConnectStatus ≠ .connected then setupPipe ans m destVol else {}
    | .syncing => syncing ans m
    | .cleaning => cleaning ans m
    | _ => {}

end Host

end Liteio.Migration
