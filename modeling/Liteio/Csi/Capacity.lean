import Liteio.Csi.Client
import Liteio.Library.Runs

/-! # What CreateVolume says about the volume

The answer names the size that was asked for. The volume has that size if the
call made it, up to the conversion to an unsigned integer, and the size of its
own first request otherwise; nothing rounds what is stored.
-/

namespace Liteio.Csi

open MachineInt Requests

def CreateVolumeRequest.typeOfPV (req : CreateVolumeRequest) : String :=
  if req.parameter raidLevelKey ≠ "" then pvTypeVolumeGroup
  else textOr (req.parameter pvTypeKey) pvTypeVolume

structure Asks (req : CreateVolumeRequest) (opt : PVCreateOption) : Prop where
  pvName : opt.pvName = req.name
  size : req.requiredBytes = some opt.size
  typeOfPV : opt.typeOfPV = req.typeOfPV

theorem withContentSource_asks {api : Answers} {req : CreateVolumeRequest} {opt opt' : PVCreateOption}
    (h : Asks req opt) (hSource : withContentSource api req opt = .ok opt') : Asks req opt' := by
  unfold withContentSource at hSource
  split at hSource
  · cases hSource
    exact h
  · split at hSource
    · cases hSource
    · split at hSource
      · cases hSource
      · cases hSource
        exact ⟨h.pvName, h.size, h.typeOfPV⟩

theorem withClaim_asks {api : Answers} {req : CreateVolumeRequest} {opt opt' : PVCreateOption}
    {nodeName : String} (h : Asks req opt) (hClaim : withClaim api req opt = .ok (opt', nodeName)) :
    Asks req opt' := by
  unfold withClaim at hClaim
  dsimp only at hClaim
  split at hClaim
  · split at hClaim
    · cases hClaim
    · cases hClaim
      exact ⟨h.pvName, h.size, h.typeOfPV⟩
  · cases hClaim
    exact h

theorem withHostNode_asks {api : Answers} {req : CreateVolumeRequest} {opt opt' : PVCreateOption}
    {nodeName : String} (h : Asks req opt) (hHost : withHostNode api nodeName opt = .ok opt') :
    Asks req opt' := by
  unfold withHostNode at hHost
  split at hHost
  · cases hHost
    exact h
  · split at hHost
    · cases hHost
    · cases hHost
      exact ⟨h.pvName, h.size, h.typeOfPV⟩

theorem createVolume_asks {api : Answers} {req : CreateVolumeRequest} {opt : PVCreateOption}
    (h : createVolume api req = .ok opt) : Asks req opt := by
  obtain ⟨size, source, claimed, nodeName, hSize, hSource, hClaimed, hHost⟩ := createVolume_stages h
  have hInitial : Asks req (initialOption req size) := ⟨rfl, hSize, rfl⟩
  exact withHostNode_asks (withClaim_asks (withContentSource_asks hInitial hSource) hClaimed) hHost

namespace Cluster

variable {parseQuantity : String → Option Quantity} {c : Cluster}

theorem createVolumePV_ok {call : CreateCall} {id : String} (h : (c.createVolumePV call).2 = .ok id) :
    ∃ vol, (c.createVolumePV call).1.volumes.lookup call.opt.pvName = some vol ∧ vol.spec.uuid = id ∧
      (c.volumes.lookup call.opt.pvName = some vol ∨
        c.volumes.lookup call.opt.pvName = none ∧ vol.spec.sizeByte = uint64 call.opt.size) := by
  obtain ⟨vol, hEnsure, rfl⟩ := map_eq_ok h
  refine ⟨vol, ensure_lookup hEnsure, rfl, ?_⟩
  rcases ensure_cases call.fates.getVolume call.fates.createVolume c.volumes call.opt.pvName
    (newVolume call.uuid call.opt) with ⟨-, hFound⟩ | ⟨hNone, made, hMade, -, hOk⟩
  · exact .inl (hFound vol hEnsure)
  · obtain rfl := hOk vol hEnsure
    exact .inr ⟨hNone, (newVolume_madeFrom hMade).sizeByte⟩

theorem createPV_ok {call : CreateCall} {id : String} (h : (c.createPV parseQuantity call).2 = .ok id)
    (hType : call.opt.typeOfPV = pvTypeVolume) : c.createPV parseQuantity call = c.createVolumePV call := by
  unfold createPV at h ⊢
  split at h
  · cases h
  · exact if_pos hType

theorem createVolume_ok {call : VolumeCall} {resp : CreateVolumeResponse}
    (h : (c.createVolume parseQuantity call).2 = .ok resp) (hType : call.req.typeOfPV = pvTypeVolume) :
    call.req.requiredBytes = some resp.capacityBytes ∧
      ∃ vol, (c.createVolume parseQuantity call).1.volumes.lookup call.req.name = some vol ∧
        vol.spec.uuid = resp.volumeId ∧
        (c.volumes.lookup call.req.name = some vol ∨
          c.volumes.lookup call.req.name = none ∧ vol.spec.sizeByte = uint64 resp.capacityBytes) := by
  unfold createVolume at h ⊢
  split at h
  · cases h
  · rename_i opt hOpt
    have hAsks := createVolume_asks hOpt
    obtain ⟨id, hAnswer, rfl⟩ := map_eq_ok h
    have hVolume := createPV_ok hAnswer (hAsks.typeOfPV.trans hType)
    rw [hVolume] at hAnswer ⊢
    obtain ⟨vol, hLookup, hUuid, hSize⟩ := createVolumePV_ok hAnswer
    rw [← hAsks.pvName]
    exact ⟨hAsks.size, vol, hLookup, hUuid, hSize⟩

section

variable (parseQuantity)

def volumeStep (c : Cluster) (call : VolumeCall) : Cluster := (c.createVolume parseQuantity call).1

def Truthful (c : Cluster) (call : VolumeCall) : Prop :=
  call.req.typeOfPV = pvTypeVolume → ∀ resp ∈ (c.createVolume parseQuantity call).2.toOption,
    ∃ vol ∈ (c.volumeStep parseQuantity call).volumes.lookup call.req.name, vol.spec.uuid = resp.volumeId ∧
      fourMiB ∣ vol.spec.sizeByte ∧ resp.capacityBytes = vol.spec.sizeByte

instance (c : Cluster) : DecidablePred (c.Truthful parseQuantity) := fun call =>
  inferInstanceAs (Decidable (_ → ∀ resp ∈ (c.createVolume parseQuantity call).2.toOption,
    ∃ vol ∈ (c.volumeStep parseQuantity call).volumes.lookup call.req.name, _ ∧ _ ∧ _))

end

def SizeAgrees (c : Cluster) (call : VolumeCall) : Prop :=
  ∀ size ∈ call.req.requiredBytes, 0 ≤ size ∧ (fourMiB : ℤ) ∣ size ∧
    ∀ vol ∈ c.volumes.lookup call.req.name, (vol.spec.sizeByte : ℤ) = size

instance (c : Cluster) : DecidablePred c.SizeAgrees := fun call =>
  inferInstanceAs (Decidable (∀ size ∈ call.req.requiredBytes, _ ∧ _ ∧
    ∀ vol ∈ c.volumes.lookup call.req.name, _))

theorem truthful_iff {call : VolumeCall} (hInt : ∀ size ∈ call.req.requiredBytes, InInt64 size)
    (hType : call.req.typeOfPV = pvTypeVolume) {resp : CreateVolumeResponse}
    (h : (c.createVolume parseQuantity call).2 = .ok resp) :
    c.Truthful parseQuantity call ↔ c.SizeAgrees call := by
  obtain ⟨hSize, vol, hLookup, hUuid, hStored⟩ := createVolume_ok h hType
  have hTruthful : c.Truthful parseQuantity call ↔
      fourMiB ∣ vol.spec.sizeByte ∧ resp.capacityBytes = vol.spec.sizeByte := by
    simp [Truthful, hType, h, Except.toOption, volumeStep, hLookup, hUuid]
  have hAgrees : c.SizeAgrees call ↔ 0 ≤ resp.capacityBytes ∧ (fourMiB : ℤ) ∣ resp.capacityBytes ∧
      ∀ vol ∈ c.volumes.lookup call.req.name, (vol.spec.sizeByte : ℤ) = resp.capacityBytes := by
    simp [SizeAgrees, hSize]
  rw [hTruthful, hAgrees]
  rcases hStored with hOld | ⟨hNone, hNew⟩
  · rw [hOld]
    simp only [Option.mem_some_iff, forall_eq']
    constructor
    · rintro ⟨hBlocks, hCapacity⟩
      rw [hCapacity]
      exact ⟨Int.natCast_nonneg _, Int.natCast_dvd_natCast.mpr hBlocks, rfl⟩
    · rintro ⟨-, hBlocks, hCapacity⟩
      rw [← hCapacity] at hBlocks
      exact ⟨Int.natCast_dvd_natCast.mp hBlocks, hCapacity.symm⟩
  · rw [hNone, hNew]
    simp only [Option.not_mem_none, false_implies, implies_true, and_true]
    constructor
    · rintro ⟨hBlocks, hCapacity⟩
      rw [hCapacity]
      exact ⟨Int.natCast_nonneg _, Int.natCast_dvd_natCast.mpr hBlocks⟩
    · rintro ⟨hNonneg, hBlocks⟩
      have hSame : (uint64 resp.capacityBytes : ℤ) = resp.capacityBytes :=
        uint64_of_nonneg hNonneg (hInt _ hSize)
      refine ⟨Int.natCast_dvd_natCast.mp ?_, hSame.symm⟩
      rwa [hSame]

/-- Along every sequence of calls that ask for sizes of whole blocks, and for
the size of the volume if they repeat a name, all answers are truthful. -/
theorem createVolume_truthful (parseQuantity : String → Option Quantity) (c : Cluster) (calls : List VolumeCall)
    (hInt : ∀ call ∈ calls, ∀ size ∈ call.req.requiredBytes, InInt64 size)
    (hAgrees : Runs.Guarded (volumeStep parseQuantity) SizeAgrees c calls) :
    Runs.Guarded (volumeStep parseQuantity) (Truthful parseQuantity) c calls := by
  induction calls generalizing c with
  | nil => trivial
  | cons call calls ih =>
    refine ⟨?_, ih _ (fun other hOther => hInt other (List.mem_cons_of_mem _ hOther)) hAgrees.2⟩
    intro hType resp hResp
    have hOk : (c.createVolume parseQuantity call).2 = .ok resp := eq_ok_of_toOption hResp
    exact (truthful_iff (hInt call List.mem_cons_self) hType hOk).mpr hAgrees.1 hType resp hResp

def emptyVolumeCall (name : String) (requiredBytes : ℤ) (uuid : String) : VolumeCall where
  api := { getSnapshotByID := fun _ => none, getClaim := fun _ _ => none, getByNodeID := fun _ => none }
  req := { name := name, requiredBytes := some requiredBytes }
  uuid := uuid

theorem repeatedCall_truthful :
    Runs.Guarded (volumeStep fun _ => none) SizeAgrees {}
      [emptyVolumeCall "pv" (2 * fourMiB) "u1", emptyVolumeCall "pv" (2 * fourMiB) "u2"] ∧
    Runs.Guarded (volumeStep fun _ => none) (Truthful fun _ => none) {}
      [emptyVolumeCall "pv" (2 * fourMiB) "u1", emptyVolumeCall "pv" (2 * fourMiB) "u2"] :=
  ⟨by decide +kernel, createVolume_truthful _ _ _ (by decide) (by decide +kernel)⟩

theorem unalignedCall_untruthful :
    ¬ Runs.Guarded (volumeStep fun _ => none) (Truthful fun _ => none) {}
      [emptyVolumeCall "pv" (fourMiB + 1) "u1"] := by
  decide +kernel

end Cluster

end Liteio.Csi
