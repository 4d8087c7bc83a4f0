import Liteio.Api.Objects

/-! # Volume migrations

The object of v1/volume_migration.go that the migration controller, the agent of
the source node and the host share. Texts with a fixed set of values are
enumerations; the message keeps what it was made of.
-/

namespace Liteio

def migrationLabelKeyMigrationName : String := "migrate.obnvmf/migration-name"
def migrationLabelKeySourceVolumeName : String := "migrate.obnvmf/source-volume-name"
def migrationLabelKeySourceNodeId : String := "migrate.obnvmf/source-node-id"
def migrationLabelKeyHostNodeId : String := "migrate.obnvmf/host-node-id"
def migrationFinalizerPipeConnected : String := "obnvmf/migrate-pipe-connected"
def migrationFinalizerHostConnected : String := "obnvmf/migrate-host-connected"

inductive MigrationPhase where
  | unset
  | pending
  | creatingVolume
  | setupPipe
  | syncing
  | cleaning
  | finished
  deriving DecidableEq

inductive MigrationStatus where
  | unset
  | working
  | error
  | finished
  deriving DecidableEq

inductive ConnectStatus where
  | unset
  | unknown
  | connected
  | disconnected
  deriving DecidableEq

inductive ResultStatus where
  | unset
  | unknown
  | success
  | error
  deriving DecidableEq

inductive MigrationMessage where
  | empty
  | invalidSource (err : String)
  | invalidType (type : VolumeType)
  | invalidPosition (advice : VolumePosition)
  | notReady (status : AntstorVolumeStatus)
  deriving DecidableEq

@[ext]
structure VolumeInfo where
  ns : String := ""
  name : String := ""
  targetNodeId : String := ""
  hostNodeId : String := ""
  spdk : SpdkTarget := {}
  deriving DecidableEq

structure MigrationPipe where
  destBdevName : String := ""
  status : ConnectStatus := .unset
  deriving DecidableEq

structure AutoSwitch where
  enabled : Bool := false
  status : ResultStatus := .unset
  deriving DecidableEq

structure JobProgress where
  srcBdev : String := ""
  dstBdev : String := ""
  status : String := ""
  totalWritePages : ℤ := 0
  totalReadPages : ℤ := 0
  roundPassed : ℤ := 0
  elapsedTimeMs : ℤ := 0
  isLastRound : String := ""
  deriving DecidableEq

structure MigrationInfo where
  migrationPipe : MigrationPipe := {}
  hostConnectStatus : ConnectStatus := .unset
  autoSwitch : AutoSwitch := {}
  jobProgress : JobProgress := {}
  deriving DecidableEq

@[ext]
structure VolumeMigrationSpec where
  sourceVolume : VolumeInfo := {}
  destVolume : VolumeInfo := {}
  migrationInfo : MigrationInfo := {}
  deriving DecidableEq

structure VolumeMigrationStatus where
  phase : MigrationPhase := .unset
  status : MigrationStatus := .unset
  message : MigrationMessage := .empty
  deriving DecidableEq

structure VolumeMigration extends ObjectMeta where
  spec : VolumeMigrationSpec := {}
  status : VolumeMigrationStatus := {}
  deriving DecidableEq

end Liteio
