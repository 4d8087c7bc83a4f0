import Liteio.Library.Runs
import Liteio.SyncMeta.Syncer

/-! # Marks of deleted objects

After a sync the rows of an object say whether it is being deleted, as long as no
live object meets a row that was marked before: an update does not set
`deleted_at`, and rows are never removed.
-/

namespace Liteio.SyncMeta

open Orm

namespace Table

section

variable {κ : Type} [DecidableEq κ] (T : Table κ) (bean : Row κ) (rows : List (Row κ)) (m : ObjectMeta)

def Follows : Prop :=
  ∀ row ∈ rows, T.Named bean row → (row T.deletedAt = .int 0 ↔ m.deletionTimestamp = none)

def NotRevived : Prop :=
  m.deletionTimestamp = none → ∀ row ∈ rows, T.Named bean row → row T.deletedAt = .int 0

instance : Decidable (T.Follows bean rows m) := inferInstanceAs (Decidable (∀ row ∈ rows, _ → (_ ↔ _)))

instance : Decidable (T.NotRevived bean rows m) := inferInstanceAs (Decidable (_ → ∀ row ∈ rows, _ → _))

def Unmarked : Prop := ∀ row ∈ rows, T.Named bean row → row T.deletedAt = .int 0

variable [Fintype κ] {T bean rows} {now : ℤ}

theorem sync_some_marked (hKey : T.key = [T.clusterName, T.name]) {status : Value} {row : Row κ}
    (hRow : row ∈ T.sync now bean rows (some status)) (hNamed : T.Named bean row) :
    row T.deletedAt = .int now := by
  have hSame : ∀ c ∈ T.key, T.marking now bean status c = bean c := by
    intro c hc
    have hKeyed := T.keyed c hc
    simp only [List.mem_cons, not_or] at hKeyed
    exact marking_of_ne hKeyed.1 hKeyed.2.2.2.1
  rw [sync_some, update, List.mem_map] at hRow
  obtain ⟨old, _, rfl⟩ := hRow
  split at hNamed
  · rw [if_pos (by assumption), overwrite_of_mem (by simp)]
    exact set_self ..
  · rename_i hMiss
    refine absurd (matches_only_iff.mpr fun c hc _ => ?_) hMiss
    rw [hSame c hc]
    simp only [hKey, List.mem_cons, List.not_mem_nil, or_false] at hc
    rcases hc with rfl | rfl
    · exact hNamed.1
    · exact hNamed.2

theorem sync_none_unmarked_iff (hBean : bean T.deletedAt = .int 0) (other : Row κ) :
    T.Unmarked other (T.sync now bean rows none) ↔ T.Unmarked other rows := by
  unfold Unmarked
  rw [sync]
  cases T.get bean rows with
  | none =>
    obtain ⟨hId, hCreated, hUpdated⟩ := T.deletedAt_ne
    have hNew : set (set (set bean T.createdAt (.int now)) T.updatedAt (.int now)) T.id
        (.int (nextID T.id rows)) T.deletedAt = .int 0 := by
      rw [set_of_ne hId, set_of_ne hUpdated, set_of_ne hCreated, hBean]
    simp only [create, insertOne, List.forall_mem_append, List.forall_mem_singleton]
    exact and_iff_left fun _ => hNew
  | some old =>
    dsimp only
    split
    · rfl
    · refine forall_mem_update fun row => ?_
      have hKept : ∀ c ∈ [T.clusterName, T.name, T.deletedAt], ∀ values,
          overwrite T.updated values row c = row c := fun c hc _ => overwrite_of_notMem (T.kept c hc)
      rw [Named, Named, hKept T.clusterName (by simp), hKept T.name (by simp), hKept T.deletedAt (by simp)]

theorem sync_unmarked {other : Row κ} (hKey : T.name ∈ T.key) (hBean : bean T.deletedAt = .int 0)
    (hName : bean T.name ≠ (bean T.name).zero) (h : T.Unmarked other rows) (status : Value)
    (hOther : bean T.name = other T.name → m.deletionTimestamp = none) :
    T.Unmarked other (T.sync now bean rows (deletionOf m status)) := by
  by_cases hLive : m.deletionTimestamp = none
  · simp only [deletionOf, hLive, Option.isSome_none, Bool.false_eq_true, if_false]
    exact (sync_none_unmarked_iff hBean other).mpr h
  · have hNames := T.names_ne (c := T.name) (by simp)
    simp only [List.mem_cons, not_or] at hNames
    have hSame : T.marking now bean status T.name = bean T.name := marking_of_ne hNames.2.1 hNames.2.2.2.2.1
    rw [deletionOf, if_pos (Option.isSome_iff_ne_none.mpr hLive), sync_some, Unmarked, update, List.forall_mem_map]
    intro row hRow
    split
    · rename_i hMatches
      have hRowName := matches_only_iff.mp hMatches T.name hKey (by rwa [hSame])
      rintro ⟨-, hNamed⟩
      rw [overwrite_of_notMem (by simp [hNames]), hRowName, hSame] at hNamed
      exact absurd (hOther hNamed) hLive
    · exact h row hRow

theorem follows_sync_iff (hKey : T.key = [T.clusterName, T.name]) (hBean : bean T.deletedAt = .int 0)
    (hNow : 0 < now) (status : Value) :
    T.Follows bean (T.sync now bean rows (deletionOf m status)) m ↔ T.NotRevived bean rows m := by
  cases hDeleted : m.deletionTimestamp with
  | none =>
    simp only [deletionOf, Follows, NotRevived, hDeleted, Option.isSome_none, Bool.false_eq_true, if_false,
      iff_true, true_imp_iff]
    exact sync_none_unmarked_iff hBean bean
  | some time =>
    simp only [deletionOf, Follows, NotRevived, hDeleted, Option.isSome_some, if_true, reduceCtorEq,
      false_imp_iff, iff_true, iff_false]
    intro row hRow hNamed
    rw [sync_some_marked hKey hRow hNamed, Value.int.injEq]
    exact hNow.ne'

end

end Table

structure Call where
  now : ℤ
  pos : 0 < now
  obj : Object

namespace OBSyncer

variable (s : OBSyncer)

def step (db : Database) (call : Call) : Database := s.sync call.now db call.obj

/-- What a test of the rows of an object says in a database. Nothing is asked of
snapshots, whose rows are not written by their names. -/
def OnRows (test : ∀ {κ : Type} [DecidableEq κ], Table κ → Row κ → List (Row κ) → ObjectMeta → Prop)
    (db : Database) : Object → Prop
  | .storagePool sp =>
    test storagePool (toStoragePoolMapping s.kube s.json s.k8sCluster sp) db.storagePools sp.toObjectMeta
  | .antstorVolume vol =>
    test antstorVolume (toAntstorVolumeMapping s.json s.k8sCluster vol) db.antstorVolumes vol.toObjectMeta
  | .antstorSnapshot _ => True
  | .antstorDataControl dc =>
    test antstorDataControl (toAntstorDataControlMapping s.k8sCluster dc) db.antstorDataControls
      dc.toObjectMeta
  | .antstorVolumeGroup vg =>
    test antstorVolumeGroup (toAntstorVolumeGroupMapping s.json s.k8sCluster vg) db.antstorVolumeGroups
      vg.toObjectMeta

instance OnRows.decidable
    {test : ∀ {κ : Type} [DecidableEq κ], Table κ → Row κ → List (Row κ) → ObjectMeta → Prop}
    [∀ {κ : Type} [DecidableEq κ] (T : Table κ) bean rows m, Decidable (test T bean rows m)] (db : Database) :
    ∀ obj, Decidable (s.OnRows test db obj)
  | .storagePool _ => inferInstanceAs (Decidable (test storagePool _ _ _))
  | .antstorVolume _ => inferInstanceAs (Decidable (test antstorVolume _ _ _))
  | .antstorSnapshot _ => isTrue trivial
  | .antstorDataControl _ => inferInstanceAs (Decidable (test antstorDataControl _ _ _))
  | .antstorVolumeGroup _ => inferInstanceAs (Decidable (test antstorVolumeGroup _ _ _))

def Follows (db : Database) (call : Call) : Prop := s.OnRows Table.Follows (s.step db call) call.obj

instance (db : Database) (call : Call) : Decidable (s.Follows db call) :=
  OnRows.decidable s (s.step db call) call.obj

def NotRevived (db : Database) (call : Call) : Prop := s.OnRows Table.NotRevived db call.obj

theorem follows_iff (db : Database) (call : Call) : s.Follows db call ↔ s.NotRevived db call := by
  obtain ⟨now, hNow, obj⟩ := call
  cases obj with
  | storagePool sp => exact Table.follows_sync_iff _ rfl rfl hNow _
  | antstorVolume vol => exact Table.follows_sync_iff _ rfl rfl hNow _
  | antstorSnapshot snap => rfl
  | antstorDataControl dc => exact Table.follows_sync_iff _ rfl rfl hNow _
  | antstorVolumeGroup vg => exact Table.follows_sync_iff _ rfl rfl hNow _

theorem run_follows_iff (db : Database) (calls : List Call) :
    Runs.Guarded s.step s.Follows db calls ↔ Runs.Guarded s.step s.NotRevived db calls :=
  Runs.guarded_congr s.follows_iff

end OBSyncer

def Object.SameName : Object → Object → Prop
  | .storagePool a, .storagePool b => a.name = b.name
  | .antstorVolume a, .antstorVolume b => a.name = b.name
  | .antstorDataControl a, .antstorDataControl b => a.name = b.name
  | .antstorVolumeGroup a, .antstorVolumeGroup b => a.name = b.name
  | _, _ => False

def Object.meta : Object → ObjectMeta
  | .storagePool obj => obj.toObjectMeta
  | .antstorVolume obj => obj.toObjectMeta
  | .antstorSnapshot obj => obj.toObjectMeta
  | .antstorDataControl obj => obj.toObjectMeta
  | .antstorVolumeGroup obj => obj.toObjectMeta

namespace OBSyncer

variable {s : OBSyncer}

def Clean (s : OBSyncer) (db : Database) (obj : Object) : Prop :=
  s.OnRows (fun T bean rows _ => T.Unmarked bean rows) db obj

theorem clean_step {db : Database} {obj : Object} (h : s.Clean db obj) (call : Call) (hName : call.obj.meta.name ≠ "")
    (hOther : call.obj.SameName obj → call.obj.meta.deletionTimestamp = none) : s.Clean (s.step db call) obj := by
  obtain ⟨now, hNow, synced⟩ := call
  have hText {name other : String} (hSame : Value.text name = .text other) : name = other := Value.text.inj hSame
  have hZero {name : String} (hNe : name ≠ "") : Value.text name ≠ (Value.text name).zero :=
    fun hEq => hNe (Value.text.inj hEq)
  cases synced with
  | storagePool sp =>
    cases obj with
    | storagePool other =>
      exact Table.sync_unmarked (T := storagePool) _ (by decide) rfl (hZero hName) h _ fun hSame =>
        hOther (hText hSame)
    | _ => exact h
  | antstorVolume vol =>
    cases obj with
    | antstorVolume other =>
      exact Table.sync_unmarked (T := antstorVolume) _ (by decide) rfl (hZero hName) h _ fun hSame =>
        hOther (hText hSame)
    | _ => exact h
  | antstorSnapshot snap => cases obj <;> exact h
  | antstorDataControl dc =>
    cases obj with
    | antstorDataControl other =>
      exact Table.sync_unmarked (T := antstorDataControl) _ (by decide) rfl (hZero hName) h _ fun hSame =>
        hOther (hText hSame)
    | _ => exact h
  | antstorVolumeGroup vg =>
    cases obj with
    | antstorVolumeGroup other =>
      exact Table.sync_unmarked (T := antstorVolumeGroup) _ (by decide) rfl (hZero hName) h _ fun hSame =>
        hOther (hText hSame)
    | _ => exact h

theorem notRevived_of_clean {db : Database} {call : Call}
    (h : call.obj.meta.deletionTimestamp = none → s.Clean db call.obj) : s.NotRevived db call := by
  obtain ⟨now, hNow, obj⟩ := call
  cases obj with
  | antstorSnapshot snap => trivial
  | _ => exact h

/-- On the history: from an empty database, when no name is synced live once it has
been synced as being deleted, the rows follow the objects. -/
theorem run_follows_of_history (calls : List Call) (hNames : ∀ call ∈ calls, call.obj.meta.name ≠ "")
    (hHistory : calls.Pairwise fun earlier later => earlier.obj.SameName later.obj →
      later.obj.meta.deletionTimestamp = none → earlier.obj.meta.deletionTimestamp = none) :
    Runs.Guarded s.step s.Follows {} calls := by
  have hEmpty (obj : Object) : s.Clean {} obj := by
    cases obj with
    | antstorSnapshot snap => trivial
    | _ => exact fun _ hRow => by cases hRow
  rw [run_follows_iff]
  -- what is still to be synced live has no marked row
  suffices h : ∀ db, (∀ call ∈ calls, call.obj.meta.deletionTimestamp = none → s.Clean db call.obj) →
      Runs.Guarded s.step s.NotRevived db calls from h {} fun call _ _ => hEmpty call.obj
  induction calls with
  | nil => exact fun _ _ => trivial
  | cons call calls ih =>
    intro db hClean
    obtain ⟨hFirst, hRest⟩ := List.pairwise_cons.mp hHistory
    refine ⟨notRevived_of_clean (hClean call List.mem_cons_self), ?_⟩
    refine ih (fun later hMem => hNames later (List.mem_cons_of_mem _ hMem)) hRest (s.step db call) ?_
    intro later hMem hLive
    exact clean_step (hClean later (List.mem_cons_of_mem _ hMem) hLive) call (hNames call List.mem_cons_self)
      fun hSame => hFirst later hMem hSame hLive

end OBSyncer

def recreatedVolume : AntstorVolume :=
  { name := "v", spec := { uuid := "u" }, status := { status := .ready } }

def recreation : List Call :=
  [⟨1, by decide, .antstorVolume recreatedVolume⟩,
    ⟨2, by decide, .antstorVolume { recreatedVolume with deletionTimestamp := some 2 }⟩,
    ⟨3, by decide, .antstorVolume recreatedVolume⟩]

theorem recreation_not_follows : ¬ Runs.Guarded OBSyncer.sample.step OBSyncer.sample.Follows {} recreation := by
  decide

end Liteio.SyncMeta
