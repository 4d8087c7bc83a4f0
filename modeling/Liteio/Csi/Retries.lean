import Liteio.Csi.Client
import Liteio.Library.Runs

/-! # Volume-group PVs over retries

A PV of this type is a volume group and a data control that points to it, made in
this order by calls that each bring a UUID of their own. The data control is made
once and never changed, so all calls answer its UUID. It points to the group if
one call made both; a call that finds the group of an earlier one without its
data control makes one that points to the UUID it has generated itself.
-/

namespace Liteio.Csi.Cluster

open Requests

variable (parseQuantity : String → Option Quantity) (name : String)

def pvStep (c : Cluster) (call : CreateCall) : Cluster := (c.createPV parseQuantity call).1

def CallsFor (call : CreateCall) : Prop := call.opt.pvName = name ∧ call.opt.typeOfPV = pvTypeVolumeGroup

instance : DecidablePred (CallsFor name) := fun _ => inferInstanceAs (Decidable (_ ∧ _))

def Linked (c : Cluster) : Prop :=
  ∀ group ∈ c.volumeGroups.lookup name, ∀ control ∈ c.dataControls.lookup name,
    control.spec.volumeGroups.head?.map EntityIdentity.uuid = some group.spec.uuid

/-- The call does not find the group without its data control. -/
def Paired (c : Cluster) (call : CreateCall) : Prop :=
  CallsFor name call → (c.volumeGroups.lookup name).isSome → (c.dataControls.lookup name).isSome

/-- The ID that a successful call answers is the UUID of the data control in the
last state, and its label. -/
def Answers (last c : Cluster) (call : CreateCall) : Prop :=
  CallsFor name call → ∀ id ∈ (c.createPV parseQuantity call).2.toOption,
    ∃ control ∈ last.dataControls.lookup name, control.spec.uuid = id ∧ control.label uuidLabelKey = some id

instance : DecidablePred (Linked name) := fun c =>
  inferInstanceAs (Decidable (∀ group ∈ c.volumeGroups.lookup name, ∀ control ∈ c.dataControls.lookup name, _))

instance (c : Cluster) : DecidablePred (c.Paired name) := fun _ => inferInstanceAs (Decidable (_ → _ → _))

variable {parseQuantity name} {c : Cluster} {call : CreateCall}

theorem newVolumeGroup_uuid {uuid : String} {opt : PVCreateOption} {group : AntstorVolumeGroup}
    (h : newVolumeGroup parseQuantity uuid opt = .ok group) : group.spec.uuid = uuid := by
  unfold newVolumeGroup at h
  obtain ⟨min, -, hRest⟩ := bind_eq_ok h
  obtain ⟨max, -, hGroup⟩ := bind_eq_ok hRest
  cases hGroup
  rfl

theorem pvStep_cases (c : Cluster) (call : CreateCall) :
    ((c.pvStep parseQuantity call).volumeGroups = c.volumeGroups ∧
      (c.pvStep parseQuantity call).dataControls = c.dataControls) ∨
    (call.opt.typeOfPV = pvTypeVolumeGroup ∧
      (c.pvStep parseQuantity call).volumeGroups = (c.createVolumeGroup parseQuantity call).1.volumeGroups ∧
      ((c.pvStep parseQuantity call).dataControls = c.dataControls ∨
        ∃ group, (c.createVolumeGroup parseQuantity call).2 = .ok group ∧
          (c.pvStep parseQuantity call).dataControls = (c.createDataControl call).1.dataControls)) := by
  unfold pvStep createPV
  split
  · exact .inl ⟨rfl, rfl⟩
  · split
    · exact .inl ⟨rfl, rfl⟩
    · split
      · rename_i hType
        dsimp only
        split
        · exact .inr ⟨hType, rfl, .inl rfl⟩
        · rename_i group hGroup
          exact .inr ⟨hType, rfl, .inr ⟨group, hGroup, rfl⟩⟩
      · exact .inl ⟨rfl, rfl⟩

theorem createVolumeGroup_lookup_ne (h : call.opt.pvName ≠ name) :
    (c.createVolumeGroup parseQuantity call).1.volumeGroups.lookup name = c.volumeGroups.lookup name :=
  ensure_lookup_ne h.symm

theorem createDataControl_lookup_ne (h : call.opt.pvName ≠ name) :
    (c.createDataControl call).1.dataControls.lookup name = c.dataControls.lookup name :=
  ensure_lookup_ne h.symm

theorem pvStep_dataControl {control : AntstorDataControl} (h : c.dataControls.lookup name = some control) :
    (c.pvStep parseQuantity call).dataControls.lookup name = some control := by
  rcases @pvStep_cases parseQuantity c call with ⟨-, hSame⟩ | ⟨-, -, hSame | ⟨-, -, hEnsured⟩⟩
  · rw [hSame, h]
  · rw [hSame, h]
  · rw [hEnsured]
    by_cases hName : call.opt.pvName = name
    · subst hName
      rw [createDataControl, ensure_of_lookup h, h]
    · rw [createDataControl_lookup_ne hName, h]

theorem pvStep_volumeGroup {group : AntstorVolumeGroup} (h : c.volumeGroups.lookup name = some group) :
    (c.pvStep parseQuantity call).volumeGroups.lookup name = some group := by
  rcases @pvStep_cases parseQuantity c call with ⟨hSame, -⟩ | ⟨-, hEnsured, -⟩
  · rw [hSame, h]
  · rw [hEnsured]
    by_cases hName : call.opt.pvName = name
    · subst hName
      rw [createVolumeGroup, ensure_of_lookup h, h]
    · rw [createVolumeGroup_lookup_ne hName, h]

theorem pvStep_dataControl_inv {control : AntstorDataControl}
    (h : (c.pvStep parseQuantity call).dataControls.lookup name = some control) :
    c.dataControls.lookup name = some control ∨
    (c.dataControls.lookup name = none ∧ CallsFor name call ∧ control = newDataControl call.uuid call.opt ∧
      ∃ group, (c.createVolumeGroup parseQuantity call).2 = .ok group ∧
        (c.pvStep parseQuantity call).volumeGroups.lookup name = some group) := by
  rcases @pvStep_cases parseQuantity c call with ⟨-, hSame⟩ | ⟨hType, hGroups, hSame | ⟨group, hGroup, hEnsured⟩⟩
  · exact .inl (hSame ▸ h)
  · exact .inl (hSame ▸ h)
  · rw [hEnsured] at h
    by_cases hName : call.opt.pvName = name
    · subst hName
      rcases ensure_cases call.fates.getDataControl call.fates.createDataControl c.dataControls call.opt.pvName
        (.ok (newDataControl call.uuid call.opt) : Except CreateError AntstorDataControl) with
        ⟨hKept, -⟩ | ⟨hNone, made, hMade, hInsert, -⟩
      · rw [createDataControl, hKept] at h
        exact .inl h
      · rw [createDataControl, hInsert, Finmap.lookup_insert] at h
        cases h
        cases hMade
        refine .inr ⟨hNone, ⟨rfl, hType⟩, rfl, group, hGroup, ?_⟩
        rw [hGroups]
        exact ensure_lookup hGroup
    · rw [createDataControl_lookup_ne hName] at h
      exact .inl h

theorem createVolumeGroup_uuid {group : AntstorVolumeGroup}
    (hNone : c.volumeGroups.lookup call.opt.pvName = none)
    (h : (c.createVolumeGroup parseQuantity call).2 = .ok group) : group.spec.uuid = call.uuid := by
  rcases ensure_cases call.fates.getVolumeGroup call.fates.createVolumeGroup c.volumeGroups call.opt.pvName
    (newVolumeGroup parseQuantity call.uuid call.opt) with ⟨-, hFound⟩ | ⟨-, made, hMade, -, hOk⟩
  · rw [hFound group h] at hNone
    cases hNone
  · obtain rfl := hOk group h
    exact newVolumeGroup_uuid hMade

def Wired (name : String) (c : Cluster) : Prop :=
  ∀ control, c.dataControls.lookup name = some control → ∃ group, c.volumeGroups.lookup name = some group ∧
    control.spec.volumeGroups.head?.map EntityIdentity.uuid = some group.spec.uuid

def Labelled (name : String) (c : Cluster) : Prop :=
  ∀ control, c.dataControls.lookup name = some control →
    control.label uuidLabelKey = some control.spec.uuid

theorem Wired.linked (h : c.Wired name) : c.Linked name := by
  intro group hGroup control hControl
  obtain ⟨found, hFound, hUuid⟩ := h control hControl
  rw [Option.mem_def, hFound] at hGroup
  cases hGroup
  exact hUuid

theorem Wired.step (h : c.Wired name) (hPaired : c.Paired name call) :
    (c.pvStep parseQuantity call).Wired name := by
  intro control hControl
  rcases pvStep_dataControl_inv hControl with hOld | ⟨hNone, hCall, rfl, group, hGroup, hLookup⟩
  · obtain ⟨group, hGroup, hUuid⟩ := h control hOld
    exact ⟨group, pvStep_volumeGroup hGroup, hUuid⟩
  · have hNoGroup : c.volumeGroups.lookup call.opt.pvName = none := by
      have hPair := hPaired hCall
      rw [hNone] at hPair
      rw [hCall.1]
      simpa using hPair
    refine ⟨group, hLookup, ?_⟩
    rw [createVolumeGroup_uuid hNoGroup hGroup]
    rfl

theorem Labelled.step (h : c.Labelled name) : (c.pvStep parseQuantity call).Labelled name := by
  intro control hControl
  rcases pvStep_dataControl_inv hControl with hOld | ⟨-, -, rfl, -⟩
  · exact h control hOld
  · exact Finmap.lookup_insert _

theorem run_dataControl {control : AntstorDataControl} (h : c.dataControls.lookup name = some control)
    (calls : List CreateCall) :
    (Runs.run (pvStep parseQuantity) c calls).dataControls.lookup name = some control := by
  induction calls generalizing c with
  | nil => exact h
  | cons call calls ih => exact ih (pvStep_dataControl h)

theorem createPV_answers {id : String} (hCall : CallsFor name call)
    (h : (c.createPV parseQuantity call).2 = .ok id) :
    ∃ control, (c.pvStep parseQuantity call).dataControls.lookup name = some control ∧
      control.spec.uuid = id := by
  obtain ⟨rfl, hType⟩ := hCall
  have hOther : call.opt.typeOfPV ≠ pvTypeVolume := by
    rw [hType]
    decide
  unfold pvStep createPV at *
  split at h
  · cases h
  · dsimp only at h ⊢
    rw [if_neg hOther, if_pos hType] at h ⊢
    split at h
    · cases h
    · obtain ⟨control, hControl, rfl⟩ := map_eq_ok h
      exact ⟨control, ensure_lookup hControl, rfl⟩

theorem answers_run (h : c.Labelled name) (calls : List CreateCall) :
    Runs.Guarded (pvStep parseQuantity)
      (Answers parseQuantity name (Runs.run (pvStep parseQuantity) c calls)) c calls := by
  induction calls generalizing c with
  | nil => trivial
  | cons call calls ih =>
    refine ⟨?_, ih h.step⟩
    intro hCall id hId
    obtain ⟨control, hControl, rfl⟩ := createPV_answers hCall (eq_ok_of_toOption hId)
    exact ⟨control, run_dataControl hControl calls, rfl, h.step control hControl⟩

/-- Over every sequence of calls none of which finds the group of the PV without
its data control, the two are linked in every state and all successful calls
answer the UUID of the one data control. -/
theorem createPV_retries (parseQuantity : String → Option Quantity) (name : String) (c : Cluster)
    (calls : List CreateCall) (hNew : c.dataControls.lookup name = none)
    (hPaired : Runs.Guarded (pvStep parseQuantity) (Paired name) c calls) :
    Runs.Always (pvStep parseQuantity) (Linked name) c calls ∧
    Runs.Guarded (pvStep parseQuantity)
      (Answers parseQuantity name (Runs.run (pvStep parseQuantity) c calls)) c calls := by
  have hWired : c.Wired name := by
    intro control hControl
    rw [hNew] at hControl
    cases hControl
  have hLabelled : c.Labelled name := by
    intro control hControl
    rw [hNew] at hControl
    cases hControl
  refine ⟨?_, answers_run hLabelled calls⟩
  refine (hPaired.always hWired ?_).mono ?_
  · intro c call h hGuard
    exact h.step hGuard
  · intro c h
    exact h.linked

def groupCall (uuid : String) (fates : Fates) : CreateCall where
  opt := { pvName := "pv", size := 2 * fourMiB, pvType := pvTypeVolumeGroup, maxVolumes := 2,
           maxVolumeSize := "8Mi", minVolumeSize := "4Mi" }
  uuid := uuid
  fates := fates

def parsesTo (size : Quantity) (_ : String) : Option Quantity := some size

theorem lostAnswer_linked :
    Runs.Guarded (pvStep (parsesTo 0)) (Paired "pv") {}
      [groupCall "u1" { createDataControl := .lost }, groupCall "u2" {}] ∧
    Runs.Always (pvStep (parsesTo 0)) (Linked "pv") {}
      [groupCall "u1" { createDataControl := .lost }, groupCall "u2" {}] ∧
    Runs.Guarded (pvStep (parsesTo 0))
      (Answers (parsesTo 0) "pv" (Runs.run (pvStep (parsesTo 0)) {}
        [groupCall "u1" { createDataControl := .lost }, groupCall "u2" {}])) {}
      [groupCall "u1" { createDataControl := .lost }, groupCall "u2" {}] :=
  ⟨by decide +kernel, createPV_retries _ _ _ _ rfl (by decide +kernel)⟩

theorem failedControl_unlinked :
    ¬ Linked "pv" (Runs.run (pvStep (parsesTo 0)) {}
      [groupCall "u1" { createDataControl := .failed }, groupCall "u2" {}]) := by
  decide +kernel

end Liteio.Csi.Cluster
