import Liteio.SyncMeta.Syncer

/-! # Rows of other objects

A snapshot is looked up by its name and written by its cluster and its origin, so
a sync of one snapshot writes the rows of the others of that origin as well.
-/

namespace Liteio.SyncMeta

open Orm

namespace Table

section

variable {κ : Type} [DecidableEq κ] (T : Table κ) (now : ℤ) (bean : Row κ) (rows : List (Row κ))

def others : List (Row κ) := rows.filter fun row => row T.name ≠ bean T.name

/-- The rows of other names that meet the condition of the bean have the values
that are written already. -/
def OthersHold (cols : List κ) (values : Row κ) : Prop :=
  ∀ row ∈ rows, row T.name ≠ bean T.name → (∀ c ∈ T.key, bean c ≠ (bean c).zero → row c = bean c) →
    ∀ c ∈ cols, row c = values c

instance (cols : List κ) (values : Row κ) : Decidable (T.OthersHold bean rows cols values) :=
  inferInstanceAs (Decidable (∀ row ∈ rows, _ → (∀ c ∈ T.key, _ → _) → ∀ c ∈ cols, _))

variable [Fintype κ]

/-- The same for what a sync writes: its marks, nothing where it inserts a row or
finds its own unchanged, or the columns of an update. -/
def OthersApart (deletion : Option Value) : Prop :=
  match deletion with
  | some status => T.OthersHold bean rows [T.status, T.deletedAt] (T.marking now bean status)
  | none =>
    match T.get bean rows with
    | none => True
    | some own => T.withTimesOf bean own = own ∨
      T.OthersHold bean rows T.updated (set (T.withTimesOf bean own) T.updatedAt (.int now))

variable {T now bean rows}

theorem others_update_iff {cols : List κ} {values : Row κ} (hName : T.name ∉ cols)
    (hKey : ∀ c ∈ T.key, values c = bean c) :
    T.others bean (update cols values (only T.key values) rows) = T.others bean rows ↔
      T.OthersHold bean rows cols values := by
  have hMatches (row : Row κ) : Matches (only T.key values) row ↔
      ∀ c ∈ T.key, bean c ≠ (bean c).zero → row c = bean c := by
    refine matches_only_iff.trans (forall₂_congr fun c hc => ?_)
    rw [hKey c hc]
  refine (filter_update_iff fun row => ?_).trans ?_
  · rw [overwrite_of_notMem hName]
  · simp only [OthersHold, hMatches, decide_eq_true_eq]

theorem others_sync_iff (deletion : Option Value) :
    T.others bean (T.sync now bean rows deletion) = T.others bean rows ↔
      T.OthersApart now bean rows deletion := by
  have hName : T.name ∉ [T.id, T.status, T.createdAt, T.updatedAt, T.deletedAt] := T.names_ne (by simp)
  simp only [List.mem_cons, not_or] at hName
  obtain ⟨hId, hStatus, hCreated, hUpdated, hDeleted, _⟩ := hName
  cases deletion with
  | some status =>
    rw [sync_some, OthersApart]
    refine others_update_iff (by simp [hStatus, hDeleted]) fun c hc => ?_
    have hKeyed := T.keyed c hc
    simp only [List.mem_cons, not_or] at hKeyed
    exact marking_of_ne hKeyed.1 hKeyed.2.2.2.1
  | none =>
    rw [sync, OthersApart]
    cases T.get bean rows with
    | none =>
      have hNew : set (set (set bean T.createdAt (.int now)) T.updatedAt (.int now)) T.id
          (.int (nextID T.id rows)) T.name = bean T.name := by
        rw [set_of_ne hId, set_of_ne hUpdated, set_of_ne hCreated]
      simp [others, create, insertOne, hNew]
    | some own =>
      dsimp only
      split
      · rename_i hSame
        exact ⟨fun _ => .inl hSame, fun _ => rfl⟩
      · rename_i hChanged
        refine (others_update_iff (T.kept T.name (by simp)) fun c hc => ?_).trans (or_iff_right hChanged).symm
        have hKeyed := T.keyed c hc
        simp only [List.mem_cons, not_or] at hKeyed
        rw [set_of_ne hKeyed.2.2.1, withTimesOf, set_of_ne hKeyed.2.2.1, set_of_ne hKeyed.2.1]

end

end Table

/-- A sync of a snapshot leaves the rows of the other snapshots exactly if those
of its cluster and origin have what it writes already. -/
theorem OBSyncer.sync_snapshot_others_iff (s : OBSyncer) (now : ℤ) (db : Database) (snap : AntstorSnapshot) :
    (s.sync now db (.antstorSnapshot snap)).antstorSnapshots.filter (fun row => row .name ≠ .text snap.name) =
        db.antstorSnapshots.filter (fun row => row .name ≠ .text snap.name) ↔
      antstorSnapshot.OthersApart now (toAntstorSnapshotMapping s.k8sCluster snap) db.antstorSnapshots
        (deletionOf snap.toObjectMeta (.text (snapshotStatusText .deleted))) := by
  change antstorSnapshot.others (toAntstorSnapshotMapping s.k8sCluster snap) _ =
    antstorSnapshot.others (toAntstorSnapshotMapping s.k8sCluster snap) _ ↔ _
  exact Table.others_sync_iff _

def originSnapshot (name : String) : AntstorSnapshot :=
  { name, spec := { originVolName := "v", originVolNamespace := "ns", size := 4 }, status := .ready }

def twoSnapshots : Database :=
  OBSyncer.sample.sync 2 (OBSyncer.sample.sync 1 {} (.antstorSnapshot (originSnapshot "a")))
    (.antstorSnapshot (originSnapshot "b"))

/-- The first is deleted, and the row of the second is marked with it. -/
theorem deletedSnapshot_marks_other :
    (OBSyncer.sample.sync 3 twoSnapshots
        (.antstorSnapshot { originSnapshot "a" with deletionTimestamp := some 3 })).antstorSnapshots.filter
          (fun row => row .name ≠ .text "a") ≠
      twoSnapshots.antstorSnapshots.filter fun row => row .name ≠ .text "a" := by
  decide

end Liteio.SyncMeta
