import Liteio.SyncMeta.Tables

/-! # Syncing objects to the database

`OBSyncer.Sync` of pkg/controller/syncmeta: an object that is being deleted marks
its row, and another one is inserted or updates its row. The functions for the
five kinds of objects are one function of the table; requests to the database
succeed, and `now` is the time of a call.
-/

namespace Liteio.SyncMeta

open Orm

namespace Table

variable {κ : Type} [DecidableEq κ] [Fintype κ] (T : Table κ) (now : ℤ) (bean : Row κ) (rows : List (Row κ))

def Named (row : Row κ) : Prop := row T.clusterName = bean T.clusterName ∧ row T.name = bean T.name

instance : DecidablePred (T.Named bean) := fun _ => inferInstanceAs (Decidable (_ ∧ _))

def get : Option (Row κ) := rows.find? fun row => T.Named bean row

def create : List (Row κ) :=
  insertOne T.id (set (set bean T.createdAt (.int now)) T.updatedAt (.int now)) rows

def updateRow : List (Row κ) :=
  let updated := set bean T.updatedAt (.int now)
  update T.updated updated (only T.key updated) rows

def markDelete : List (Row κ) :=
  let delAt := if bean T.deletedAt = .int 0 then .int now else bean T.deletedAt
  update [T.status, T.deletedAt] (set bean T.deletedAt delAt) (only T.key bean) rows

def withTimesOf (row : Row κ) : Row κ :=
  set (set bean T.createdAt (row T.createdAt)) T.updatedAt (row T.updatedAt)

def sync (deletion : Option Value) : List (Row κ) :=
  match deletion with
  | some status => T.markDelete now (set (set bean T.status status) T.deletedAt (.int now)) rows
  | none =>
    match T.get bean rows with
    | none => T.create now bean rows
    | some row =>
      if T.withTimesOf bean row = row then rows else T.updateRow now (T.withTimesOf bean row) rows

def marking (status : Value) : Row κ := set (set bean T.status status) T.deletedAt (.int now)

variable {T now bean rows}

omit [Fintype κ] in
theorem marking_of_ne {c : κ} {status : Value} (hStatus : c ≠ T.status) (hDeleted : c ≠ T.deletedAt) :
    T.marking now bean status c = bean c := by
  rw [marking, set_of_ne hDeleted, set_of_ne hStatus]

theorem sync_some (status : Value) : T.sync now bean rows (some status) =
    update [T.status, T.deletedAt] (T.marking now bean status)
      (only T.key (T.marking now bean status)) rows := by
  have hNow : T.marking now bean status T.deletedAt = .int now := set_self ..
  have hAgain : set (T.marking now bean status) T.deletedAt (.int now) = T.marking now bean status := by
    rw [← hNow]
    exact Function.update_eq_self ..
  change T.markDelete now (T.marking now bean status) rows = _
  rw [markDelete, hNow, ite_self, hAgain]

end Table

inductive Object where
  | storagePool (sp : StoragePool)
  | antstorVolume (vol : AntstorVolume)
  | antstorSnapshot (snap : AntstorSnapshot)
  | antstorDataControl (dc : AntstorDataControl)
  | antstorVolumeGroup (vg : AntstorVolumeGroup)

structure Database where
  storagePools : List (Row StoragePoolColumn) := []
  antstorVolumes : List (Row AntstorVolumeColumn) := []
  antstorSnapshots : List (Row AntstorSnapshotColumn) := []
  antstorDataControls : List (Row AntstorDataControlColumn) := []
  antstorVolumeGroups : List (Row AntstorVolumeGroupColumn) := []

structure OBSyncer where
  kube : Kube
  json : Marshal
  k8sCluster : String

def deletionOf (m : ObjectMeta) (status : Value) : Option Value :=
  if m.deletionTimestamp.isSome then some status else none

def deletedText : Value := .text (volumeStatusText .deleted)

namespace OBSyncer

variable (s : OBSyncer) (now : ℤ)

def syncStoragePool (sp : StoragePool) : List (Row StoragePoolColumn) → List (Row StoragePoolColumn) :=
  let spMap := toStoragePoolMapping s.kube s.json s.k8sCluster sp
  fun rows => storagePool.sync now spMap rows (deletionOf sp.toObjectMeta (spMap .status))

def syncAntstorVolume (vol : AntstorVolume) (rows : List (Row AntstorVolumeColumn)) :
    List (Row AntstorVolumeColumn) :=
  antstorVolume.sync now (toAntstorVolumeMapping s.json s.k8sCluster vol) rows
    (deletionOf vol.toObjectMeta deletedText)

def syncAntstorSnapshot (snap : AntstorSnapshot) (rows : List (Row AntstorSnapshotColumn)) :
    List (Row AntstorSnapshotColumn) :=
  antstorSnapshot.sync now (toAntstorSnapshotMapping s.k8sCluster snap) rows
    (deletionOf snap.toObjectMeta (.text (snapshotStatusText .deleted)))

def syncAntstorDataControl (dc : AntstorDataControl) (rows : List (Row AntstorDataControlColumn)) :
    List (Row AntstorDataControlColumn) :=
  antstorDataControl.sync now (toAntstorDataControlMapping s.k8sCluster dc) rows
    (deletionOf dc.toObjectMeta deletedText)

def syncAntstorVolumeGroup (vg : AntstorVolumeGroup) (rows : List (Row AntstorVolumeGroupColumn)) :
    List (Row AntstorVolumeGroupColumn) :=
  antstorVolumeGroup.sync now (toAntstorVolumeGroupMapping s.json s.k8sCluster vg) rows
    (deletionOf vg.toObjectMeta deletedText)

def sync (db : Database) : Object → Database
  | .storagePool sp => { db with storagePools := s.syncStoragePool now sp db.storagePools }
  | .antstorVolume vol => { db with antstorVolumes := s.syncAntstorVolume now vol db.antstorVolumes }
  | .antstorSnapshot snap => { db with antstorSnapshots := s.syncAntstorSnapshot now snap db.antstorSnapshots }
  | .antstorDataControl dc =>
    { db with antstorDataControls := s.syncAntstorDataControl now dc db.antstorDataControls }
  | .antstorVolumeGroup vg =>
    { db with antstorVolumeGroups := s.syncAntstorVolumeGroup now vg db.antstorVolumeGroups }

end OBSyncer

def OBSyncer.sample : OBSyncer where
  kube := .exact
  json := { reservedLVol := fun _ => "", labels := fun _ => "", volumes := fun _ => "" }
  k8sCluster := "c"

end Liteio.SyncMeta
