import Liteio.Csi.Client
import Liteio.Library.Runs
import Liteio.Migration.Protocol

/-! # What DeletePV releases

The volumes of a PV share its label: the one that was created for it and those a
migration made. `DeletePV` deletes the first one it is listed and then answers
success, so the storage of the others stays unless they were deleted before. The
passes of the migration controller come between its two requests and after its
return, and do not ask whether the source is being deleted.
-/

namespace Liteio.Csi.Cluster

open Requests

def labelled (c : Cluster) (id : String) : Multiset AntstorVolume :=
  (FiniteMap.values c.volumes).filter fun vol => vol.label uuidLabelKey = some id

def Released (c : Cluster) (id : String) : Prop := ∀ vol ∈ c.labelled id, vol.deletionTimestamp.isSome

def Keyed (c : Cluster) : Prop := ∀ key vol, c.volumes.lookup key = some vol → vol.name = key

def Lists (c : Cluster) (call : DeleteCall) : Prop :=
  ∀ items ∈ call.volumes, (items : Multiset AntstorVolume) = c.labelled call.id

instance (c : Cluster) (id : String) : Decidable (c.Released id) :=
  inferInstanceAs (Decidable (∀ vol ∈ c.labelled id, _))

instance (c : Cluster) : DecidablePred c.Lists := fun call =>
  inferInstanceAs (Decidable (∀ items ∈ call.volumes, _))

variable {c : Cluster} {call : DeleteCall}

/-! ## Passes of the migration controller -/

structure MigrationPass where
  answers : Migration.Answers
  migration : VolumeMigration
  create : Fate := .answered

def MigrationPass.dest (pass : MigrationPass) : Option AntstorVolume :=
  (Migration.Controller.reconcile pass.answers pass.migration).calls.findSome? fun
    | .createVolume vol => some vol
    | _ => none

inductive Action where
  | migrate (pass : MigrationPass)
  /-- The others add and take away finalizers. -/
  | setFinalizers (name : String) (finalizers : List String)

def act (c : Cluster) : Action → Cluster
  | .migrate pass =>
    match pass.dest with
    | some vol =>
      let new : Except Empty AntstorVolume := .ok vol
      { c with volumes := (ensure .answered pass.create c.volumes vol.name new).1 }
    | none => c
  | .setFinalizers name finalizers =>
    match c.volumes.lookup name with
    | some vol =>
      if vol.deletionTimestamp.isSome ∧ finalizers = [] then { c with volumes := c.volumes.erase name }
      else { c with volumes := c.volumes.insert name { vol with finalizers := finalizers } }
    | none => c

/-- The pass makes a destination with the label, under another name than `but`. -/
def Creates (c : Cluster) (id : String) (but : Option String) : Action → Prop
  | .migrate pass => ∃ vol ∈ pass.dest, vol.label uuidLabelKey = some id ∧ some vol.name ≠ but ∧
      c.volumes.lookup vol.name = none ∧ pass.create ≠ .failed
  | .setFinalizers .. => False

instance (c : Cluster) (id : String) (but : Option String) : DecidablePred (c.Creates id but)
  | .migrate _ => inferInstanceAs (Decidable (∃ _ ∈ _, _))
  | .setFinalizers .. => inferInstanceAs (Decidable False)

def Settled (id : String) (but : Option String) (key : String) (obj : Option AntstorVolume) : Prop :=
  ∀ vol ∈ obj, some key ≠ but → vol.label uuidLabelKey = some id → vol.deletionTimestamp.isSome

/-- Every volume with the label has a deletion timestamp, that under `but` aside. -/
def ReleasedBut (id : String) (but : Option String) (c : Cluster) : Prop :=
  ∀ key, Settled id but key (c.volumes.lookup key)

variable {id : String} {but : Option String}

theorem mem_labelled {vol : AntstorVolume} :
    vol ∈ c.labelled id ↔ (∃ key, c.volumes.lookup key = some vol) ∧ vol.label uuidLabelKey = some id := by
  rw [labelled, Multiset.mem_filter, FiniteMap.mem_values]

theorem released_iff : c.Released id ↔ c.ReleasedBut id none := by
  constructor
  · intro h key vol hLookup _ hLabel
    exact h vol (mem_labelled.mpr ⟨⟨key, hLookup⟩, hLabel⟩)
  · intro h vol hMem
    obtain ⟨⟨key, hLookup⟩, hLabel⟩ := mem_labelled.mp hMem
    exact h key vol hLookup (by simp) hLabel

/-- What a pass creates is a new object without a deletion timestamp, whatever the
source it has read. -/
theorem deletionTimestamp_of_dest {pass : MigrationPass} {vol : AntstorVolume} (h : pass.dest = some vol) :
    vol.deletionTimestamp = none := by
  obtain ⟨call, hCall, hVol⟩ := List.exists_of_findSome?_eq_some h
  obtain ⟨src, target, -, -, rfl⟩ := Migration.controller_calls hCall
  cases hVol
  rfl

theorem releasedBut_update {volumes : FiniteMap String AntstorVolume} {name : String} {guard : Prop}
    (hElse : ∀ key, key ≠ name → volumes.lookup key = c.volumes.lookup key)
    (hName : Settled id but name (volumes.lookup name) ↔ Settled id but name (c.volumes.lookup name) ∧ guard) :
    ReleasedBut id but { c with volumes := volumes } ↔ c.ReleasedBut id but ∧ guard := by
  constructor
  · intro h
    obtain ⟨hOld, hGuard⟩ := hName.mp (h name)
    refine ⟨fun key => ?_, hGuard⟩
    by_cases hKey : key = name
    · exact hKey ▸ hOld
    · exact hElse key hKey ▸ h key
  · rintro ⟨h, hGuard⟩ key
    by_cases hKey : key = name
    · exact hKey ▸ hName.mpr ⟨h name, hGuard⟩
    · exact (hElse key hKey).symm ▸ h key

theorem act_releasedBut_iff (c : Cluster) (a : Action) :
    (c.act a).ReleasedBut id but ↔ c.ReleasedBut id but ∧ ¬ c.Creates id but a := by
  cases a with
  | migrate pass =>
    dsimp only [act, Creates]
    cases hDest : pass.dest with
    | none => simp
    | some vol =>
      have hNew := deletionTimestamp_of_dest hDest
      refine releasedBut_update (fun key hKey => ensure_lookup_ne hKey) ?_
      cases hLookup : c.volumes.lookup vol.name with
      | some old => simp [ensure_of_lookup hLookup, hLookup]
      | none => cases pass.create <;> simp [ensure, hLookup, Settled, hNew, not_imp_not]
  | setFinalizers name finalizers =>
    dsimp only [act, Creates]
    cases hLookup : c.volumes.lookup name with
    | none => simp
    | some vol =>
      dsimp only
      split
      next hGone =>
        refine releasedBut_update (fun key hKey => Finmap.lookup_erase_ne hKey) ?_
        rw [Finmap.lookup_erase, hLookup]
        simp [Settled, hGone.1]
      · refine releasedBut_update (fun key hKey => Finmap.lookup_insert_of_ne _ hKey) ?_
        rw [Finmap.lookup_insert, hLookup]
        have hSame : Settled id but name (some { vol with finalizers := finalizers }) ↔
            Settled id but name (some vol) := by
          simp only [Settled, Option.mem_some_iff, forall_eq']
          exact Iff.rfl
        simpa using hSame

theorem delete_releasedBut_iff {fate : Fate} {now : ℕ} {key : String}
    (hDone : (Requests.delete fate (AntstorVolume.deleted now) c.volumes key).2 = true) :
    ReleasedBut id none { c with volumes := (Requests.delete fate (AntstorVolume.deleted now) c.volumes key).1 } ↔
      c.ReleasedBut id (some key) := by
  have hElse (other : String) (hOther : other ≠ key) :
      (Requests.delete fate (AntstorVolume.deleted now) c.volumes key).1.lookup other = c.volumes.lookup other :=
    delete_lookup_ne hOther
  have hKey : Settled id none key ((Requests.delete fate (AntstorVolume.deleted now) c.volumes key).1.lookup key) := by
    rintro vol hVol - -
    obtain ⟨old, hMarked⟩ := marked_of_delete hDone hVol
    obtain ⟨m, hMeta, rfl⟩ := Option.map_eq_some_iff.mp hMarked
    unfold ObjectMeta.deleted at hMeta
    split at hMeta
    · cases hMeta
    · cases hMeta
      rfl
  constructor
  · intro h other vol hVol hOther hLabel
    have hNe : other ≠ key := fun hEq => hOther (congrArg some hEq)
    exact h other vol (hElse other hNe ▸ hVol) (by simp) hLabel
  · intro h other
    by_cases hOther : other = key
    · exact hOther ▸ hKey
    · intro vol hVol _ hLabel
      exact h other vol (hElse other hOther ▸ hVol) (fun hEq => hOther (Option.some.inj hEq)) hLabel

theorem releasedBut_of_lists (hKeyed : c.Keyed) {vol : AntstorVolume} {rest : List AntstorVolume}
    (hItems : ((vol :: rest : List AntstorVolume) : Multiset AntstorVolume) = c.labelled id) :
    c.ReleasedBut id (some vol.name) ↔ ∀ other ∈ rest, other.deletionTimestamp.isSome := by
  obtain ⟨⟨key, hLookup⟩, hLabel⟩ := mem_labelled.mp (hItems ▸ List.mem_cons_self : vol ∈ c.labelled id)
  have hErase : c.labelled id = vol ::ₘ labelled { c with volumes := c.volumes.erase vol.name } id := by
    unfold labelled
    rw [FiniteMap.values_of_lookup (hKeyed key vol hLookup ▸ hLookup)]
    exact Multiset.filter_cons_of_pos _ hLabel
  rw [hErase, ← Multiset.cons_coe] at hItems
  have hRest := (Multiset.cons_inj_right vol).mp hItems
  have hMem (other : AntstorVolume) : other ∈ rest ↔ (∃ key, key ≠ vol.name ∧ c.volumes.lookup key = some other) ∧
      other.label uuidLabelKey = some id := by
    rw [← Multiset.mem_coe, hRest, mem_labelled]
    simp [FiniteMap.lookup_erase_eq]
  constructor
  · intro h other hOther
    obtain ⟨⟨key, hNe, hLookup⟩, hLabel⟩ := (hMem other).mp hOther
    exact h key other hLookup (fun hEq => hNe (Option.some.inj hEq)) hLabel
  · intro h key other hLookup hNe hLabel
    exact h other ((hMem other).mpr ⟨⟨key, fun hEq => hNe (congrArg some hEq), hLookup⟩, hLabel⟩)

theorem getPvByID_volume (hVolume : dataControlUuidPrefix.toList.isPrefixOf call.id.toList = false)
    {items : List AntstorVolume} (hListed : call.volumes = some items) :
    getPvByID call = .ok (items.head?.map .volume) := by
  rw [getPvByID, hVolume, hListed]
  rfl

theorem deletePV_nil (hVolume : dataControlUuidPrefix.toList.isPrefixOf call.id.toList = false)
    (hNil : (c.deletePV call).2 = none) :
    (call.volumes = some [] ∧ (c.deletePV call).1 = c) ∨
    ∃ vol rest, call.volumes = some (vol :: rest) ∧
      (Requests.delete call.delete (AntstorVolume.deleted call.now) c.volumes vol.name).2 = true ∧
      (c.deletePV call).1 = { c with
        volumes := (Requests.delete call.delete (AntstorVolume.deleted call.now) c.volumes vol.name).1 } := by
  unfold deletePV at hNil ⊢
  split at hNil
  · cases hNil
  · rename_i hId
    rw [if_neg hId]
    cases hListed : call.volumes with
    | none =>
      rw [getPvByID, hVolume, hListed] at hNil
      cases hNil
    | some items =>
      rw [getPvByID_volume hVolume hListed] at hNil ⊢
      cases items with
      | nil => exact .inl ⟨rfl, rfl⟩
      | cons vol rest =>
        refine .inr ⟨vol, rest, rfl, ?_, rfl⟩
        by_contra hFailed
        simp [hFailed] at hNil

/-- A `DeletePV` that succeeds leaves no volume of the PV without a deletion
timestamp, then and later, exactly if all but the first of those it was listed have
one already, and no pass of the migration controller makes another one from the
list on, except for one that takes the name of the first before it is deleted. -/
theorem deletePV_released_iff (c : Cluster) (call : DeleteCall) (between after : List Action) (hKeyed : c.Keyed)
    (hLists : c.Lists call) (hVolume : dataControlUuidPrefix.toList.isPrefixOf call.id.toList = false)
    (hNil : ((Runs.run act c between).deletePV call).2 = none) :
    let c' := ((Runs.run act c between).deletePV call).1
    (Runs.run act c' after).Released call.id ↔
      (∀ items ∈ call.volumes, ∀ vol ∈ items.tail, vol.deletionTimestamp.isSome) ∧
      Runs.Guarded act (fun c a => ¬ c.Creates call.id ((call.volumes.bind List.head?).map (·.name)) a) c between ∧
      Runs.Guarded act (fun c a => ¬ c.Creates call.id none a) c' after := by
  have hRun (but : Option String) (c : Cluster) (actions : List Action) :
      (Runs.run act c actions).ReleasedBut call.id but ↔
        c.ReleasedBut call.id but ∧ Runs.Guarded act (fun c a => ¬ c.Creates call.id but a) c actions :=
    Runs.run_iff_guarded trivial (fun _ _ (_ : True) => trivial) fun c a _ => act_releasedBut_iff c a
  dsimp only
  rw [released_iff, hRun, ← and_assoc]
  refine and_congr_left' ?_
  rcases deletePV_nil hVolume hNil with ⟨hListed, hSame⟩ | ⟨vol, rest, hListed, hDone, hOut⟩
  · have hNone : c.ReleasedBut call.id none := by
      rw [← released_iff, Released, ← hLists [] hListed]
      simp
    rw [hSame, hRun, hListed]
    simp [hNone]
  · rw [hOut, delete_releasedBut_iff hDone, hRun, releasedBut_of_lists hKeyed (hLists _ hListed), hListed]
    simp

def migratedVolume (deletionTimestamp : Option ℕ) : AntstorVolume where
  ns := defaultNamespace
  name := "pv"
  labels := some (Finmap.singleton uuidLabelKey "u")
  deletionTimestamp := deletionTimestamp
  finalizers := [inStateFinalizer]
  spec := {
    uuid := "u", type := .spdkLVol, targetNodeId := "a", hostNode := some { id := "h" },
    spdkTarget := some { subsysNQN := "nqn" } }
  status := { status := .ready }

def migration : VolumeMigration where
  name := "m"
  labels := some (Finmap.singleton migrationLabelKeySourceNodeId "a")
  spec := {
    sourceVolume := { name := "pv", targetNodeId := "a", hostNodeId := "h", spdk := { subsysNQN := "nqn" } }
    destVolume := { name := "mig-d", hostNodeId := "h" } }
  status := { phase := .creatingVolume, status := .working }

def destination : AntstorVolume :=
  Migration.Controller.newDestVolume migration (migratedVolume none) { subsysNQN := "nqn" }

def unmigrated (deletionTimestamp : Option ℕ) : Cluster where
  volumes := Finmap.insert "pv" (migratedVolume deletionTimestamp) ∅

def migrated (deletionTimestamp : Option ℕ) : Cluster where
  volumes := (unmigrated deletionTimestamp).volumes.insert destination.name destination

def deleteCall (volumes : List AntstorVolume) : DeleteCall where
  id := "u"
  now := 7
  volumes := some volumes

def passOver (deletionTimestamp : Option ℕ) (dest : GetResult AntstorVolume) : Action :=
  .migrate ⟨{ srcVol := .found (migratedVolume deletionTimestamp), destVol := dest }, migration, .answered⟩

theorem migrated_keyed (deletionTimestamp : Option ℕ) : (migrated deletionTimestamp).Keyed := by
  intro key vol hLookup
  rw [migrated, unmigrated, FiniteMap.lookup_insert_eq, FiniteMap.lookup_insert_eq, Finmap.lookup_empty] at hLookup
  split at hLookup
  · rename_i hKey
    cases hLookup
    exact hKey.symm
  · split at hLookup
    · rename_i hKey
      cases hLookup
      exact hKey.symm
    · cases hLookup

theorem deletedSource_released :
    let passes := [passOver (some 3) (.found destination)]
    let call := deleteCall [destination, migratedVolume (some 3)]
    let out := (Runs.run act (migrated (some 3)) passes).deletePV call
    out.2 = none ∧ (Runs.run act out.1 (passes ++ [.setFinalizers "pv" []])).Released "u" := by
  intro passes call out
  have hNil : out.2 = none := by decide +kernel
  have hLists : (migrated (some 3)).Lists call := by decide +kernel
  refine ⟨hNil, (deletePV_released_iff _ _ passes _ (migrated_keyed _) hLists (by decide) hNil).mpr ?_⟩
  decide +kernel

/-- The source stays when the destination is listed first, and a destination that is
made once the source is deleted stays too. -/
theorem migratedVolume_left :
    let call := deleteCall [destination, migratedVolume none]
    let early := deleteCall [migratedVolume none]
    (Runs.run act (unmigrated none) [passOver none (.notFound "mig-d")]).volumes = (migrated none).volumes ∧
      (migrated none).Lists call ∧ ((migrated none).deletePV call).2 = none ∧
      ¬ ((migrated none).deletePV call).1.Released "u" ∧
      (unmigrated none).Lists early ∧ ((unmigrated none).deletePV early).2 = none ∧
      ¬ (Runs.run act ((unmigrated none).deletePV early).1 [passOver (some 7) (.notFound "mig-d")]).Released "u" := by
  decide +kernel

end Liteio.Csi.Cluster
