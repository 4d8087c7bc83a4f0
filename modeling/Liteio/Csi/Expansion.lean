import Liteio.Csi.Client
import Liteio.Reconciler.Charged

/-! # Repeating ControllerExpandVolume

`ControllerExpandVolume` of pkg/csi/rpcserver with `ResizePV` of the client. The
call compares the requested size with the one the volume has, and the volume has
the requested size as soon as a call has succeeded. So a repetition is turned down
as not being an expansion, at every stage of the agent's work.
-/

namespace Liteio.Csi

open MachineInt Requests Strconv VolumeSyncer

inductive Code where
  | invalidArgument
  | notFound
  | internal
  | outOfRange
  deriving DecidableEq

structure StatusError where
  code : Code
  msg : String
  deriving DecidableEq

structure CapacityRange where
  requiredBytes : ℤ
  isInt64 : InInt64 requiredBytes

structure ControllerExpandVolumeRequest where
  volumeId : String
  capacityRange : Option CapacityRange := none

structure ControllerExpandVolumeResponse where
  capacityBytes : ℤ
  nodeExpansionRequired : Bool
  deriving DecidableEq

structure ApiError where
  isNotFound : Bool := false
  text : String := ""

structure ExpandAnswers where
  list : Option ApiError := none
  pool : Except ApiError StoragePool
  listAgain : Option ApiError := none
  update : Fate := .answered

def PV.getSize : PV → ℤ
  | .volume vol => int64 vol.spec.sizeByte
  | .dataContrl control => control.spec.totalSize

def PV.getTargetNodeId : PV → String
  | .volume vol => vol.spec.targetNodeId
  | .dataContrl control => control.spec.targetNodeId

def listPV (list : Option ApiError) (obj : Option PV) : Except ApiError PV :=
  match list, obj with
  | some err, _ => .error err
  | none, none => .error { text := "ResourceNotFound" }
  | none, some pv => .ok pv

def resizePV (ans : ExpandAnswers) (requestSize : ℤ) (obj : Option PV) : Option PV × Option String :=
  match listPV ans.listAgain obj with
  | .error err => (obj, some err.text)
  | .ok (.dataContrl _) => (obj, some "not support resizing VoluemGroup yet")
  | .ok (.volume vol) =>
    let resized := some (.volume (VolumeSyncer.resizePV requestSize vol))
    match ans.update with
    | .answered => (resized, none)
    | .lost => (resized, some "the update was not answered")
    | .failed => (obj, some "the update was refused")

def notExpansion (requiredBytes volSize : ℤ) : StatusError where
  code := .invalidArgument
  msg := "target size is " ++ itoa requiredBytes ++ ", current size is " ++ itoa volSize ++
    ", only expasion is allowed"

def noFreeSpace (tgtNodeId : String) (freeBytes requiredBytes volSize : ℤ) : StatusError where
  code := .outOfRange
  msg := "storagepool " ++ tgtNodeId ++ " has no enough free space to expand the volume, free space " ++
    itoa freeBytes ++ ", request size " ++ itoa requiredBytes ++ ", original size " ++ itoa volSize

def expandPV (K : Kube) (ans : ExpandAnswers) (requiredBytes : ℤ) (obj : Option PV) (pv : PV) :
    Option PV × Except StatusError ControllerExpandVolumeResponse :=
  let volSize := pv.getSize
  if requiredBytes ≤ volSize then (obj, .error (notExpansion requiredBytes volSize))
  else
    match ans.pool with
    | .error err => (obj, .error { code := .internal, msg := err.text })
    | .ok sp =>
      let freeBytes := sp.getVgFreeBytes K
      if freeBytes < int64 (requiredBytes - volSize) then
        (obj, .error (noFreeSpace pv.getTargetNodeId freeBytes requiredBytes volSize))
      else
        match resizePV ans requiredBytes obj with
        | (obj, some text) => (obj, .error { code := .internal, msg := text })
        | (obj, none) => (obj, .ok { capacityBytes := requiredBytes, nodeExpansionRequired := true })

def controllerExpandVolume (K : Kube) (ans : ExpandAnswers) (req : ControllerExpandVolumeRequest)
    (obj : Option PV) : Option PV × Except StatusError ControllerExpandVolumeResponse :=
  if req.volumeId = "" then
    (obj, .error { code := .invalidArgument, msg := "ControllerExpandVolume.VolumeId is empty" })
  else
    match req.capacityRange with
    | none => (obj, .error { code := .invalidArgument, msg := "ControllerExpandVolume.CapacityRange is nil" })
    | some capRange =>
      match listPV ans.list obj with
      | .error err => (obj, .error { code := if err.isNotFound then .notFound else .internal, msg := err.text })
      | .ok pv => expandPV K ans capRange.requiredBytes obj pv

structure ExpandAnswers.Answered (ans : ExpandAnswers) : Prop where
  list : ans.list = none
  pool : ∃ sp, ans.pool = .ok sp
  listAgain : ans.listAgain = none
  update : ans.update = .answered

structure Grants (K : Kube) (ans : ExpandAnswers) (req : ControllerExpandVolumeRequest) (vol : AntstorVolume) :
    Prop where
  volumeId : req.volumeId ≠ ""
  answered : ans.Answered
  larger : ∃ capRange, req.capacityRange = some capRange ∧ int64 vol.spec.sizeByte < capRange.requiredBytes ∧
    ∀ sp, ans.pool = .ok sp → int64 (capRange.requiredBytes - int64 vol.spec.sizeByte) ≤ sp.getVgFreeBytes K

def afterPasses (svc : PoolService) (passes : List (Call → VolumeSyncer.Answers)) (vol : AntstorVolume)
    (disk : Disk) : Option AntstorVolume × Disk :=
  passes.foldl (fun (obj, disk) ans =>
    (VolumeReconciler.agent svc).exec ans ((VolumeReconciler.agent svc).program obj) false obj disk) (some vol, disk)

/-- Whatever passes of the agent come in between, the call that succeeded succeeds again with the
same answer and leaves the size and the record of the original size alone. -/
def Repeatable (K : Kube) (svc : PoolService) (ans : ExpandAnswers) (req : ControllerExpandVolumeRequest)
    (vol : AntstorVolume) (disk : Disk) : Prop :=
  ∀ resized resp, controllerExpandVolume K ans req (some (.volume vol)) = (some (.volume resized), .ok resp) →
    ∀ passes later, (afterPasses svc passes resized disk).1 = some later → ∀ again : ExpandAnswers, again.Answered →
      ∃ after resp', controllerExpandVolume K again req (some (.volume later)) = (some (.volume after), .ok resp') ∧
        resp'.capacityBytes = resp.capacityBytes ∧ after.spec.sizeByte = later.spec.sizeByte ∧
        after.label expansionOriginalSize = later.label expansionOriginalSize

theorem listPV_some_eq_ok_iff {list : Option ApiError} {pv found : PV} :
    listPV list (some pv) = .ok found ↔ list = none ∧ found = pv := by
  cases list <;> simp [listPV, eq_comm]

theorem resizePV_volume_eq_iff {ans : ExpandAnswers} {requestSize : ℤ} {vol resized : AntstorVolume} :
    resizePV ans requestSize (some (.volume vol)) = (some (.volume resized), none) ↔
      ans.listAgain = none ∧ ans.update = .answered ∧ resized = VolumeSyncer.resizePV requestSize vol := by
  unfold resizePV
  cases ans.listAgain with
  | some err => simp [listPV]
  | none => cases ans.update <;> simp [listPV, eq_comm]

theorem expandPV_volume_ok_iff {K : Kube} {ans : ExpandAnswers} {requiredBytes : ℤ} {vol resized : AntstorVolume}
    {resp : ControllerExpandVolumeResponse} :
    expandPV K ans requiredBytes (some (.volume vol)) (.volume vol) = (some (.volume resized), .ok resp) ↔
      int64 vol.spec.sizeByte < requiredBytes ∧
        (∃ sp, ans.pool = .ok sp ∧ int64 (requiredBytes - int64 vol.spec.sizeByte) ≤ sp.getVgFreeBytes K) ∧
        resizePV ans requiredBytes (some (.volume vol)) = (some (.volume resized), none) ∧
        resp = { capacityBytes := requiredBytes, nodeExpansionRequired := true } := by
  unfold expandPV
  dsimp only [PV.getSize]
  generalize int64 (requiredBytes - int64 vol.spec.sizeByte) = missing
  by_cases hLarger : int64 vol.spec.sizeByte < requiredBytes
  · rw [if_neg (not_le.mpr hLarger)]
    cases ans.pool with
    | error err => simp
    | ok sp =>
      dsimp only
      by_cases hFree : sp.getVgFreeBytes K < missing
      · simp [hFree]
      · rcases hResized : resizePV ans requiredBytes (some (.volume vol)) with ⟨obj, _ | text⟩
        · simp [hFree, hLarger, not_lt.mp hFree, eq_comm]
        · simp [hFree]
  · simp [hLarger, not_lt.mp hLarger]

theorem controllerExpandVolume_ok_iff {K : Kube} {ans : ExpandAnswers} {req : ControllerExpandVolumeRequest}
    {vol resized : AntstorVolume} {resp : ControllerExpandVolumeResponse} :
    controllerExpandVolume K ans req (some (.volume vol)) = (some (.volume resized), .ok resp) ↔
      Grants K ans req vol ∧ ∃ capRange, req.capacityRange = some capRange ∧
        resized = VolumeSyncer.resizePV capRange.requiredBytes vol ∧
        resp = { capacityBytes := capRange.requiredBytes, nodeExpansionRequired := true } := by
  constructor
  · intro h
    rw [controllerExpandVolume] at h
    split at h
    · cases (Prod.mk.inj h).2
    · rename_i hId
      split at h
      · cases (Prod.mk.inj h).2
      · rename_i capRange hRange
        split at h
        · cases (Prod.mk.inj h).2
        · rename_i pv hListed
          obtain ⟨hList, rfl⟩ := listPV_some_eq_ok_iff.mp hListed
          obtain ⟨hLarger, ⟨sp, hPool, hFree⟩, hResized, hResp⟩ := expandPV_volume_ok_iff.mp h
          obtain ⟨hAgain, hUpdate, hVol⟩ := resizePV_volume_eq_iff.mp hResized
          refine ⟨⟨hId, ⟨hList, ⟨sp, hPool⟩, hAgain, hUpdate⟩, capRange, hRange, hLarger, ?_⟩,
            capRange, hRange, hVol, hResp⟩
          intro other hOther
          cases hPool.symm.trans hOther
          exact hFree
  · rintro ⟨hGrants, capRange, hRange, hVol, hResp⟩
    obtain ⟨other, hOther, hLarger, hFree⟩ := hGrants.larger
    cases hRange.symm.trans hOther
    obtain ⟨sp, hPool⟩ := hGrants.answered.pool
    have hListed : listPV ans.list (some (.volume vol)) = .ok (.volume vol) :=
      listPV_some_eq_ok_iff.mpr ⟨hGrants.answered.list, rfl⟩
    rw [controllerExpandVolume, if_neg hGrants.volumeId, hRange, hListed]
    refine expandPV_volume_ok_iff.mpr ⟨hLarger, ⟨sp, hPool, hFree sp hPool⟩, ?_, hResp⟩
    exact resizePV_volume_eq_iff.mpr ⟨hGrants.answered.listAgain, hGrants.answered.update, hVol⟩

theorem controllerExpandVolume_of_size {K : Kube} {ans : ExpandAnswers} {req : ControllerExpandVolumeRequest}
    {vol : AntstorVolume} {capRange : CapacityRange} (hId : req.volumeId ≠ "")
    (hRange : req.capacityRange = some capRange) (hList : ans.list = none)
    (hSize : vol.spec.sizeByte = uint64 capRange.requiredBytes) :
    controllerExpandVolume K ans req (some (.volume vol)) =
      (some (.volume vol), .error (notExpansion capRange.requiredBytes capRange.requiredBytes)) := by
  have hGetSize : (PV.volume vol).getSize = capRange.requiredBytes := by
    rw [PV.getSize, hSize, int64_uint64, int64_of_inInt64 capRange.isInt64]
  rw [controllerExpandVolume, if_neg hId, hRange, hList]
  dsimp only [listPV]
  rw [expandPV, hGetSize, if_pos le_rfl]

theorem repeatable_iff (K : Kube) (svc : PoolService) (ans : ExpandAnswers) (req : ControllerExpandVolumeRequest)
    (vol : AntstorVolume) (disk : Disk) : Repeatable K svc ans req vol disk ↔ ¬ Grants K ans req vol := by
  constructor
  · intro h hGrants
    obtain ⟨capRange, hRange, -⟩ := hGrants.larger
    obtain ⟨after, resp, hAgain, -⟩ := h _ _ (controllerExpandVolume_ok_iff.mpr ⟨hGrants, capRange, hRange, rfl, rfl⟩)
      [] _ rfl ans hGrants.answered
    rw [controllerExpandVolume_of_size hGrants.volumeId hRange hGrants.answered.list rfl] at hAgain
    cases (Prod.mk.inj hAgain).2
  · intro hNot resized resp hOk
    exact absurd (controllerExpandVolume_ok_iff.mp hOk).1 hNot

def toTwelveMiB : ControllerExpandVolumeRequest where
  volumeId := "u"
  capacityRange := some { requiredBytes := 3 * fourMiB, isInt64 := by decide }

def freePool : ExpandAnswers where
  pool := .ok { status := { vgFreeSize := 2 ^ 30 } }

/-- From eight to twelve MiB, and the same request again before the agent has started. -/
theorem not_repeatable_toTwelveMiB :
    ¬ Repeatable .exact {} freePool toTwelveMiB eightMiBVolume { lv := some (2 * fourMiB) } := by
  intro h
  have hAnswered : freePool.Answered := ⟨rfl, ⟨_, rfl⟩, rfl, rfl⟩
  have hGrants : Grants .exact freePool toTwelveMiB eightMiBVolume := by
    refine ⟨by decide, hAnswered, _, rfl, by decide, ?_⟩
    rintro _ ⟨⟩
    decide +kernel
  obtain ⟨after, resp, hAgain, -⟩ := h _ _ (controllerExpandVolume_ok_iff.mpr ⟨hGrants, _, rfl, rfl, rfl⟩)
    [] _ rfl freePool hAnswered
  rw [controllerExpandVolume_of_size hGrants.volumeId rfl rfl rfl] at hAgain
  cases (Prod.mk.inj hAgain).2

theorem exec_sizeByte (svc : PoolService) (ans : Call → VolumeSyncer.Answers) {vol : AntstorVolume} (disk : Disk)
    (hLive : vol.deletionTimestamp = none) :
    ∃ later, ((VolumeReconciler.agent svc).exec ans ((VolumeReconciler.agent svc).program (some vol)) false
        (some vol) disk).1 = some later ∧
      later.deletionTimestamp = none ∧ later.spec.sizeByte = vol.spec.sizeByte := by
  rcases (VolumeReconciler.agent svc).exec_object (syncOneVolume_carries svc hLive) ans (some vol) disk with
    hSame | ⟨w, ⟨new, rfl, hSize⟩ | ⟨new, rfl⟩, hWrite⟩
  · exact ⟨vol, hSame, hLive, rfl⟩
  · exact ⟨_, hWrite.trans (finalize_live hLive), hLive, hSize⟩
  · exact ⟨_, hWrite.trans (finalize_live hLive), hLive, rfl⟩

theorem afterPasses_sizeByte (svc : PoolService) (passes : List (Call → VolumeSyncer.Answers)) {vol : AntstorVolume}
    (disk : Disk) (hLive : vol.deletionTimestamp = none) :
    ∃ later, (afterPasses svc passes vol disk).1 = some later ∧ later.spec.sizeByte = vol.spec.sizeByte := by
  induction passes generalizing vol disk with
  | nil => exact ⟨vol, rfl, rfl⟩
  | cons ans passes ih =>
    obtain ⟨mid, hMid, hMidLive, hMidSize⟩ := exec_sizeByte svc ans disk hLive
    obtain ⟨later, hLater, hSize⟩ := @ih mid _ hMidLive
    refine ⟨later, ?_, hSize.trans hMidSize⟩
    rw [← hLater, afterPasses, List.foldl_cons]
    dsimp only
    rw [afterPasses, ← hMid]

/-- However far the agent has come, a repetition is turned down. -/
theorem repetition_rejected {K : Kube} {svc : PoolService} {ans : ExpandAnswers}
    {req : ControllerExpandVolumeRequest} {vol resized : AntstorVolume} {resp : ControllerExpandVolumeResponse}
    (hLive : vol.deletionTimestamp = none)
    (hOk : controllerExpandVolume K ans req (some (.volume vol)) = (some (.volume resized), .ok resp))
    (passes : List (Call → VolumeSyncer.Answers)) (disk : Disk) :
    ∃ later, (afterPasses svc passes resized disk).1 = some later ∧ ∀ again : ExpandAnswers, again.list = none →
      controllerExpandVolume K again req (some (.volume later)) =
        (some (.volume later), .error (notExpansion resp.capacityBytes resp.capacityBytes)) := by
  obtain ⟨hGrants, capRange, hRange, rfl, rfl⟩ := controllerExpandVolume_ok_iff.mp hOk
  have hResized : (VolumeSyncer.resizePV capRange.requiredBytes vol).deletionTimestamp = none := hLive
  obtain ⟨later, hLater, hSize⟩ := afterPasses_sizeByte svc passes disk hResized
  refine ⟨later, hLater, fun again hList => ?_⟩
  exact controllerExpandVolume_of_size hGrants.volumeId hRange hList hSize

end Liteio.Csi
