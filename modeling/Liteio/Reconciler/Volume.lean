import Liteio.Agent.Volume
import Liteio.State.Store

/-! # The volume reconciler

`AntstorVolumeReconcileHandler`: validation and binding of a volume, scheduling
of one that has no node yet, and deletion. A pass works on the volume it read
and on the controller state, and sends at most one write. What the API server
and the scheduler say is given to it.
-/

namespace Liteio.VolumeReconciler

open VolumeSyncer

structure Outcome where
  state : State
  write : Option Write := none

inductive Scheduled where
  | node (nodeInfo : NodeInfo)
  | noStoragePool (text : String)
  | error (text : String)

structure Answers where
  pool : GetResult StoragePool := .error ""
  minutesSinceDeletion : ℕ := 0
  scheduled : Scheduled := .error ""

/-- The checks before the binding, and the write a failed one ends the pass with.
The label of a volume without any labels is set on a nil map, which panics. -/
def validate (vol : AntstorVolume) : Except (Option Write) Unit :=
  if vol.spec.uuid = "" then .error none
  else if vol.label uuidLabelKey = none then
    .error (if vol.labels = none then none else some (.patch [(uuidLabelKey, vol.spec.uuid)] none none))
  else if vol.status.status = .unset then
    .error (some (.updateStatus { vol with status := { vol.status with status := .creating } }))
  else
    match vol.annotationAt lvLayoutAnnoKey with
    | some val =>
      if val ∈ ["", "linear", "striped"] then .ok ()
      else .error (some (.updateStatus { vol with
        status := { vol.status with message := "invalide value of Anno obnvmf/lv-layout=" ++ val } }))
    | none => .ok ()

def missingLabels (vol : AntstorVolume) : List (String × String) :=
  if vol.label targetNodeIdLabelKey = none then [(targetNodeIdLabelKey, vol.spec.targetNodeId)] else []

def missingFinalizers (vol : AntstorVolume) : Option (List String) :=
  if inStateFinalizer ∈ vol.finalizers then none else some (vol.finalizers ++ [inStateFinalizer])

def persistBinding (vol : AntstorVolume) : Option Write :=
  if missingLabels vol = [] ∧ missingFinalizers vol = none then none
  else some (.patch (missingLabels vol) (missingFinalizers vol) none)

def bindTarget (s : State) (vol : AntstorVolume) : Outcome :=
  match s.bindAntstorVolume vol.spec.targetNodeId vol with
  | (s', some _) => { state := s' }
  | (s', none) => { state := s', write := persistBinding vol }

def schedule (scheduled : Scheduled) (s : State) (vol : AntstorVolume) : Outcome :=
  match scheduled with
  | .error _ => { state := s }
  | .noStoragePool text =>
    if noStoragePoolAvailable.toList <:+: vol.status.message.toList then { state := s }
    else { state := s, write := some (.updateStatus { vol with
      status := { vol.status with message := text, status := .creating } }) }
  | .node nodeInfo =>
    match s.bindAntstorVolume nodeInfo.id vol with
    | (s', some _) => { state := s' }
    | (s', none) =>
      { state := s', write := some (.patch [(targetNodeIdLabelKey, nodeInfo.id)] none (some nodeInfo.id)) }

/-- A volume that the state knows already is not scheduled again. -/
def scheduleVolume (scheduled : Scheduled) (s : State) (vol : AntstorVolume) : Outcome :=
  match s.getVolumeByID vol.spec.uuid with
  | .ok boundVol =>
    if boundVol.spec.targetNodeId ≠ "" then
      { state := s, write := some (.update { vol with
        spec := { vol.spec with targetNodeId := boundVol.spec.targetNodeId } }) }
    else schedule scheduled s vol
  | .error _ => schedule scheduled s vol

/-- A volume without a UUID is to be reconciled again later, which does not end
this pass. -/
def handleReconcile (ans : Answers) (s : State) (vol : AntstorVolume) : Outcome :=
  if vol.spec.stopReconcile then { state := s }
  else if vol.spec.uuid = "" ∧ vol.spec.targetNodeId = "" then scheduleVolume ans.scheduled s vol
  else
    match validate vol with
    | .error w => { state := s, write := w }
    | .ok () =>
      if vol.spec.targetNodeId ≠ "" then bindTarget s vol else scheduleVolume ans.scheduled s vol

def release (s : State) (vol : AntstorVolume) : Outcome where
  state := (s.unbindAntstorVolume vol.spec.uuid).1
  write := some (.update { vol with finalizers := [] })

/-- What the generated client returns for the pool: next to an error it is an empty object, never nil. -/
def Answers.targetPool (ans : Answers) : Except String (Option StoragePool) :=
  match ans.pool with
  | .error text => .error text
  | .notFound _ => .ok (some {})
  | .found pool => .ok (some pool)

/-- On a node that has failed some of the agent's finalizers are removed for it. -/
def handleDeletion (ans : Answers) (s : State) (vol : AntstorVolume) : Outcome :=
  if vol.finalizers = [inStateFinalizer] then release s vol
  else
    match ans.targetPool with
    | .error _ => { state := s }
    | .ok none => release s vol
    | .ok (some pool) =>
      if 20 ≤ ans.minutesSinceDeletion ∧ pool.status.status ≠ .ready ∧ 1 < vol.finalizers.length then
        { state := s, write := some (.update { vol with finalizers := vol.finalizers.filter fun item =>
          item ≠ kernelLVolFinalizer ∧ item ≠ spdkTargetFinalizer }) }
      else { state := s }

def reconcile (ans : Answers) (s : State) (vol : AntstorVolume) : Outcome :=
  if vol.deletionTimestamp.isSome then handleDeletion ans s vol else handleReconcile ans s vol

inductive Binds (s : State) (vol : AntstorVolume) : Outcome → Prop where
  | leave {w} (h : w = none ∨ (∃ new, w = some (.updateStatus new)) ∨
      w = some (.patch [(uuidLabelKey, vol.spec.uuid)] none none)) : Binds s vol { state := s, write := w }
  | bind (hValid : validate vol = .ok ()) : Binds s vol (bindTarget s vol)

theorem validate_error {vol : AntstorVolume} {w : Option Write} (h : validate vol = .error w) :
    w = none ∨ (∃ new, w = some (.updateStatus new)) ∨
      w = some (.patch [(uuidLabelKey, vol.spec.uuid)] none none) := by
  unfold validate at h
  split at h
  · cases h
    exact .inl rfl
  · split at h
    · cases h
      split
      · exact .inl rfl
      · exact .inr (.inr rfl)
    · split at h
      · cases h
        exact .inr (.inl ⟨_, rfl⟩)
      · split at h
        · split at h
          · cases h
          · cases h
            exact .inr (.inl ⟨_, rfl⟩)
        · cases h

theorem handleReconcile_binds (ans : Answers) (s : State) {vol : AntstorVolume}
    (hTarget : vol.spec.targetNodeId ≠ "") : Binds s vol (handleReconcile ans s vol) := by
  unfold handleReconcile
  split
  · exact .leave (.inl rfl)
  · rw [if_neg fun hBoth => hTarget hBoth.2]
    split
    · rename_i w hError
      exact .leave (validate_error hError)
    · rename_i hValid
      exact .bind hValid

theorem bindTarget_state (s : State) (vol : AntstorVolume) :
    (bindTarget s vol).state = (s.bindAntstorVolume vol.spec.targetNodeId vol).1 := by
  unfold bindTarget
  split <;> rename_i h <;> rw [h]

theorem bindTarget_write {s : State} {vol : AntstorVolume} {w : Write} (h : (bindTarget s vol).write = some w) :
    w = .patch (missingLabels vol) (missingFinalizers vol) none := by
  unfold bindTarget at h
  split at h
  · cases h
  · dsimp only at h
    rw [persistBinding] at h
    split at h
    · cases h
    · exact (Option.some.inj h).symm

theorem mem_missingLabels {vol : AntstorVolume} {entry : String × String} (h : entry ∈ missingLabels vol) :
    entry.1 = targetNodeIdLabelKey := by
  unfold missingLabels at h
  split at h
  · rw [List.mem_singleton.mp h]
  · cases h

theorem Binds.write {s : State} {vol : AntstorVolume} {out : Outcome} {w : Write} (h : Binds s vol out)
    (hw : out.write = some w) : (∃ new, w = .updateStatus new) ∨
      ∃ labels finalizers, w = .patch labels finalizers none ∧
        ∀ entry ∈ labels, entry.1 = uuidLabelKey ∨ entry.1 = targetNodeIdLabelKey := by
  cases h with
  | leave hLeave =>
    dsimp only at hw
    rw [hw] at hLeave
    rcases hLeave with hNone | ⟨new, hNew⟩ | hPatch
    · cases hNone
    · cases hNew
      exact .inl ⟨new, rfl⟩
    · cases hPatch
      refine .inr ⟨_, _, rfl, fun entry hEntry => .inl ?_⟩
      rw [List.mem_singleton.mp hEntry]
  | bind hValid =>
    rw [bindTarget_write hw]
    exact .inr ⟨_, _, rfl, fun entry hEntry => .inr (mem_missingLabels hEntry)⟩

theorem reconcile_of_valid {ans : Answers} {s : State} {vol : AntstorVolume}
    (hLive : vol.deletionTimestamp = none) (hStop : vol.spec.stopReconcile = false)
    (hTarget : vol.spec.targetNodeId ≠ "") (hValid : validate vol = .ok ()) :
    reconcile ans s vol = bindTarget s vol := by
  rw [reconcile, if_neg (by simp [hLive]), handleReconcile, if_neg (by simp [hStop]),
    if_neg fun hBoth => hTarget hBoth.2, hValid]
  exact if_pos hTarget

end Liteio.VolumeReconciler
