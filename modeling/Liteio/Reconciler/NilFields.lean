import Liteio.Reconciler.Volume
import Liteio.Scheduler.HostNode
import Liteio.Scheduler.Interleaving

/-! # A pass over a volume with absent fields

`HandleReconcile` of the volume reconciler together with the scheduler it asks,
for volumes that were stored without the webhook and may have no labels and no
host node. Setting a label of a nil map and reading the ID of an absent host node
panic, and `none` stands for that. The pass goes from the validation to the
scheduling unless the former breaks it, with the volume as the binding leaves it.
-/

namespace Liteio.VolumePass

open FilterChain VolumeSyncer VolumeReconciler

/-- The controller around a pass: the scheduler with its configuration, the order
in which the nodes of the state are gone through, the text of a rejection, and
the writes the API server accepts. -/
structure Setting where
  kube : Kube
  sorter : Sorter Priority.better
  cfg : SchedulerConfig
  order : List String := []
  errorText : MergedError → String := fun _ => noStoragePoolAvailable
  served : Write → Bool := fun _ => true

structure Progress where
  state : State
  vol : AntstorVolume
  writes : List Write := []
  needBreak : Bool := false

def bound (vol : AntstorVolume) : AntstorVolume :=
  { vol with
    labels := (missingLabels vol).foldl (fun labels entry => FiniteMap.put labels entry.1 entry.2) vol.labels
    finalizers := (missingFinalizers vol).getD vol.finalizers }

namespace Setting

variable (env : Setting)

def bindTarget (s : State) (vol : AntstorVolume) : Option Progress :=
  match s.bindAntstorVolume vol.spec.targetNodeId vol with
  | (s', some _) => some { state := s', vol := vol, needBreak := true }
  | (s', none) =>
    let write := persistBinding vol
    if vol.label targetNodeIdLabelKey = none ∧ vol.labels = none then none
    else some { state := s', vol := bound vol, writes := write.toList, needBreak := write.any (!env.served ·) }

def validateAndMutate (s : State) (vol : AntstorVolume) : Option Progress :=
  if vol.spec.uuid = "" then some { state := s, vol := vol }
  else if vol.label uuidLabelKey = none ∧ vol.labels = none then none
  else
    match validate vol with
    | .error write => some { state := s, vol := vol, writes := write.toList, needBreak := true }
    | .ok () =>
      if vol.spec.targetNodeId = "" then some { state := s, vol := vol } else env.bindTarget s vol

def nodes (s : State) : List (String × Node) := System.entries s env.order

def answer : Except MergedError NodeInfo → VolumeReconciler.Scheduled
  | .ok nodeInfo => .node nodeInfo
  | .error err => .noStoragePool (env.errorText err)

def doSchedule (p : Progress) : Option Progress :=
  let nodes := env.nodes p.state
  (Liteio.scheduleVolume env.kube env.sorter env.cfg (nodes.map Prod.snd) p.vol).map fun out =>
    let s := System.writeBack p.state ((nodes.map Prod.fst).zip out.nodes)
    let done := schedule (env.answer out.result) s out.vol
    { state := done.state, vol := out.vol, writes := p.writes ++ done.write.toList, needBreak := true }

def scheduleVolume (p : Progress) : Option Progress :=
  if p.vol.spec.targetNodeId ≠ "" then some p
  else
    match p.state.getVolumeByID p.vol.spec.uuid with
    | .ok boundVol =>
      if boundVol.spec.targetNodeId ≠ "" then
        let vol := { p.vol with spec := { p.vol.spec with targetNodeId := boundVol.spec.targetNodeId } }
        some { p with vol := vol, writes := p.writes ++ [.update vol], needBreak := true }
      else env.doSchedule p
    | .error _ => env.doSchedule p

def handleReconcile (s : State) (vol : AntstorVolume) : Option Progress :=
  if vol.spec.stopReconcile then some { state := s, vol := vol }
  else (env.validateAndMutate s vol).bind fun p => if p.needBreak then some p else env.scheduleVolume p

def Unplaced (s : State) (vol : AntstorVolume) : Prop :=
  vol.spec.targetNodeId = "" ∧ ∀ boundVol, s.getVolumeByID vol.spec.uuid = .ok boundVol →
    boundVol.spec.targetNodeId = ""

/-- The scheduler is asked: a volume that has a node, or gets that of its copy in
the state, does not come to it. -/
def Asks (s : State) (vol : AntstorVolume) : Prop :=
  (vol.spec.uuid = "" ∨ validate vol = .ok ()) ∧ Unplaced s vol

def NeedsNoHost (s : State) (vol : AntstorVolume) : Prop :=
  vol.spec.hostNode = none → vol.annotationAt selectedTgtNodeKey = none →
    HostUnused env.kube env.cfg ((env.nodes s).map Prod.snd) vol

variable {env} {s : State} {vol : AntstorVolume}

theorem doSchedule_isSome_iff (p : Progress) : (env.doSchedule p).isSome ↔ env.NeedsNoHost p.state p.vol := by
  rw [doSchedule, Option.isSome_map, NeedsNoHost]
  cases hHost : p.vol.spec.hostNode with
  | some host =>
    exact iff_of_true (scheduleVolume_total _ _ _ _ (by rw [hHost]; rfl)) nofun
  | none =>
    rw [imp_iff_right rfl]
    cases hSelected : p.vol.annotationAt selectedTgtNodeKey with
    | some nodeName =>
      obtain ⟨info, _, hOut⟩ := @scheduleVolume_selected env.kube env.sorter env.cfg
        ((env.nodes p.state).map Prod.snd) p.vol nodeName hSelected
      exact iff_of_true (Option.isSome_of_eq_some hOut) nofun
    | none => rw [imp_iff_right rfl, scheduleVolume_isSome_iff hHost hSelected]

theorem scheduleVolume_isSome_iff (p : Progress) :
    (env.scheduleVolume p).isSome ↔ (Unplaced p.state p.vol → env.NeedsNoHost p.state p.vol) := by
  rw [scheduleVolume, Unplaced]
  split
  · rename_i hTarget
    exact iff_of_true rfl fun h => absurd h.1 hTarget
  · rename_i hTarget
    rw [not_not] at hTarget
    rw [and_iff_right hTarget]
    cases hGet : p.state.getVolumeByID p.vol.spec.uuid with
    | error err => simp [doSchedule_isSome_iff]
    | ok boundVol =>
      dsimp only
      split
      · rename_i hBound
        exact iff_of_true rfl fun h => absurd (h boundVol rfl) hBound
      · rename_i hBound
        rw [doSchedule_isSome_iff]
        simp_all

theorem bindTarget_isSome (hLabels : vol.labels ≠ none) (hTarget : vol.spec.targetNodeId ≠ "") :
    ((env.bindTarget s vol).bind fun p => if p.needBreak then some p else env.scheduleVolume p).isSome := by
  rw [bindTarget]
  split
  · rfl
  · dsimp only
    rw [if_neg fun h => hLabels h.2, Option.bind_some]
    dsimp only
    split
    · rfl
    · exact (scheduleVolume_isSome_iff _).mpr fun h => absurd h.1 hTarget

section Agreement

variable {p q : Progress}

theorem writeBack_settled (hSettled : s.AllNodes Node.Settled) {out : Liteio.Scheduled}
    (h : Liteio.scheduleVolume env.kube env.sorter env.cfg ((env.nodes s).map Prod.snd) vol = some out) :
    System.writeBack s (((env.nodes s).map Prod.fst).zip out.nodes) = s := by
  have hNodes : out.nodes = (env.nodes s).map Prod.snd := by
    refine scheduleVolume_nodes_settled ?_ h
    intro n hn
    obtain ⟨entry, hEntry, rfl⟩ := List.mem_map.mp hn
    exact hSettled entry.1 entry.2 (System.mem_entries hEntry)
  rw [hNodes, List.zip_map', List.map_id']
  exact System.writeBack_of_lookup fun entry hEntry => System.mem_entries hEntry

theorem doSchedule_agrees (hSettled : q.state.AllNodes Node.Settled) (hWrites : q.writes = [])
    (h : env.doSchedule q = some p) :
    ∃ scheduled, schedule scheduled q.state q.vol = { state := p.state, write := p.writes.head? } := by
  obtain ⟨out, hOut, rfl⟩ := Option.map_eq_some_iff.mp h
  refine ⟨env.answer out.result, ?_⟩
  have hSame : schedule (env.answer out.result) q.state out.vol = schedule (env.answer out.result) q.state q.vol := by
    rcases scheduleVolume_vol hOut with hVol | ⟨info, hInfo, hVol⟩
    · rw [hVol]
    · rw [hVol, hInfo]
      rfl
  dsimp only
  rw [writeBack_settled hSettled hOut, hWrites, List.nil_append, hSame]
  cases schedule (env.answer out.result) q.state q.vol with
  | mk state write => cases write <;> rfl

theorem scheduleVolume_agrees (hSettled : q.state.AllNodes Node.Settled) (hWrites : q.writes = [])
    (hTarget : q.vol.spec.targetNodeId = "") (h : env.scheduleVolume q = some p) :
    ∃ scheduled, VolumeReconciler.scheduleVolume scheduled q.state q.vol =
      { state := p.state, write := p.writes.head? } := by
  rw [scheduleVolume, if_neg (not_not.mpr hTarget)] at h
  split at h
  · rename_i boundVol hGet
    split at h
    · rename_i hBound
      cases h
      refine ⟨.error "", ?_⟩
      rw [VolumeReconciler.scheduleVolume, hGet, hWrites]
      exact if_pos hBound
    · rename_i hBound
      obtain ⟨scheduled, hScheduled⟩ := doSchedule_agrees hSettled hWrites h
      refine ⟨scheduled, ?_⟩
      rw [VolumeReconciler.scheduleVolume, hGet]
      exact (if_neg hBound).trans hScheduled
  · rename_i hGet
    obtain ⟨scheduled, hScheduled⟩ := doSchedule_agrees hSettled hWrites h
    refine ⟨scheduled, ?_⟩
    rw [VolumeReconciler.scheduleVolume, hGet]
    exact hScheduled

theorem bindTarget_agrees (hTarget : vol.spec.targetNodeId ≠ "")
    (h : ((env.bindTarget s vol).bind fun p => if p.needBreak then some p else env.scheduleVolume p) = some p) :
    VolumeReconciler.bindTarget s vol = { state := p.state, write := p.writes.head? } := by
  rw [bindTarget] at h
  split at h
  · rename_i s' err hBind
    cases h
    rw [VolumeReconciler.bindTarget, hBind]
    rfl
  · rename_i s' hBind
    dsimp only at h
    rw [VolumeReconciler.bindTarget, hBind]
    split at h
    · cases h
    · have hPlaced : (bound vol).spec.targetNodeId ≠ "" := hTarget
      have hDone : p.state = s' ∧ p.writes = (persistBinding vol).toList := by
        rw [Option.bind_some, scheduleVolume, if_pos hPlaced, ite_self] at h
        cases h
        exact ⟨rfl, rfl⟩
      rw [hDone.1, hDone.2]
      cases persistBinding vol <;> rfl

/-- On settled nodes, a pass that comes to its end is that of `handleReconcile`, with
what the scheduler answers. -/
theorem handleReconcile_agrees (hSettled : s.AllNodes Node.Settled)
    (h : env.handleReconcile s vol = some p) :
    ∃ ans, VolumeReconciler.handleReconcile ans s vol = { state := p.state, write := p.writes.head? } := by
  rw [handleReconcile] at h
  split at h
  · rename_i hStop
    cases h
    exact ⟨{}, if_pos hStop⟩
  · rename_i hStop
    simp only [VolumeReconciler.handleReconcile, if_neg hStop]
    rw [validateAndMutate] at h
    split at h
    · rename_i hUuid
      by_cases hTarget : vol.spec.targetNodeId = ""
      · obtain ⟨scheduled, hScheduled⟩ := scheduleVolume_agrees hSettled rfl hTarget h
        exact ⟨{ scheduled := scheduled }, (if_pos ⟨hUuid, hTarget⟩).trans hScheduled⟩
      · have hSame : env.scheduleVolume { state := s, vol := vol } = some { state := s, vol := vol } := if_pos hTarget
        cases hSame.symm.trans h
        refine ⟨{}, ?_⟩
        rw [if_neg fun hBoth => hTarget hBoth.2, validate, if_pos hUuid]
        rfl
    · rename_i hUuid
      simp only [if_neg fun hBoth : vol.spec.uuid = "" ∧ vol.spec.targetNodeId = "" => hUuid hBoth.1]
      split at h
      · cases h
      · cases hValid : validate vol with
        | error write =>
          rw [hValid] at h
          cases h
          refine ⟨{}, ?_⟩
          cases write <;> rfl
        | ok _ =>
          rw [hValid] at h
          dsimp only at h ⊢
          split at h
          · rename_i hTarget
            obtain ⟨scheduled, hScheduled⟩ := scheduleVolume_agrees hSettled rfl hTarget h
            exact ⟨{ scheduled := scheduled }, (if_neg (not_not.mpr hTarget)).trans hScheduled⟩
          · rename_i hTarget
            exact ⟨{}, (if_pos hTarget).trans (bindTarget_agrees hTarget h)⟩

end Agreement

/-- The pass panics exactly when it sets a label of a volume without labels, or
asks the scheduler with a volume whose host node is needed and absent. -/
theorem handleReconcile_completes_iff (env : Setting) (s : State) (vol : AntstorVolume) :
    (env.handleReconcile s vol).isSome ↔ (vol.spec.stopReconcile = false →
      (vol.spec.uuid ≠ "" → vol.labels ≠ none) ∧ (Asks s vol → env.NeedsNoHost s vol)) := by
  rw [handleReconcile]
  split
  · rename_i hStop
    exact iff_of_true rfl fun h => absurd (hStop.symm.trans h) (by simp)
  · rename_i hStop
    rw [imp_iff_right (by simpa using hStop), validateAndMutate, Asks]
    split
    · rename_i hUuid
      rw [and_iff_right fun h => absurd hUuid h, and_iff_right (.inl hUuid)]
      exact scheduleVolume_isSome_iff _
    · rename_i hUuid
      rw [imp_iff_right hUuid, or_iff_right hUuid]
      split
      · rename_i hNil
        exact iff_of_false nofun fun h => h.1 hNil.2
      · rename_i hLabel
        have hLabels : vol.labels ≠ none := fun hNone => hLabel ⟨by simp [ObjectMeta.label, hNone], hNone⟩
        rw [and_iff_right hLabels]
        cases hValid : validate vol with
        | error write => exact iff_of_true rfl fun h => absurd h.1 (by simp)
        | ok _ =>
          rw [and_iff_right rfl]
          dsimp only
          split
          · exact scheduleVolume_isSome_iff _
          · rename_i hTarget
            exact iff_of_true (bindTarget_isSome hLabels hTarget) fun h => absurd h.1 hTarget

end Setting

def plainSetting : Setting where
  kube := Kube.exact
  sorter := Priority.insertion
  cfg := basicAndAffinity
  order := ["n"]

def hostless : AntstorVolume where
  labels := some (Finmap.singleton uuidLabelKey "u")
  spec := { uuid := "u", sizeByte := 1 }
  status := { status := .creating }

theorem handleReconcile_panics :
    ({ spec := { uuid := "u" } } : AntstorVolume).spec.stopReconcile = false ∧
    (plainSetting.handleReconcile State.newState { spec := { uuid := "u" } }).isSome = false ∧
    hostless.spec.stopReconcile = false ∧
    (plainSetting.handleReconcile (State.newState.setStoragePool Kube.exact readyPool) hostless).isSome = false := by
  decide +kernel

end Liteio.VolumePass
