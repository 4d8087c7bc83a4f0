import Liteio.Snapshot.Exclusion

/-! # Merging only snapshots that exist

A history adds to the snapshots of a namespace a user who asks for merges at any
time, the volumes that agents created so far, and the snapshots for which an
agent created the volume and recorded its finalizer. The controller starts a
merge on the label alone. As long as users wait for the finalizer with the label
it merges only recorded snapshots, and agents restore only created volumes.
-/

namespace Liteio.Snapshot

open ObjectStore Optimistic

structure History where
  cluster : Cluster := {}
  created : List String := []
  recorded : List String := []

inductive Action where
  | event (e : Event)
  | startMerge (name now : String)

def Agent.createdVolume (ans : Answers) : Call → Option String
  | call@(.createSnapshot snapshotName _ _) => if ans.succeeds call then some snapshotName else none
  | _ => none

def createdBy (s : Cluster) : Event → List String
  | .finishAgent pass ans =>
    match s.procs (.agent pass) with
    | .fetched copy => (Agent.syncOneSnapshot ans copy.value).calls.filterMap (Agent.createdVolume ans)
    | _ => []
  | _ => []

def recordedBy (s : Cluster) (e : Event) : List String :=
  match e with
  | .finishAgent pass _ =>
    match s.procs (.agent pass) with
    | .fetched copy =>
      if createdBy s e ≠ [] ∧ ∃ o ∈ (step s e).store.objects,
          o.value.name = copy.value.name ∧ snapshotFinalizer ∈ o.value.finalizers then
        [copy.value.name]
      else []
    | _ => []
  | _ => []

def Cluster.startMerge (s : Cluster) (name now : String) : Cluster :=
  let request := fun snap => some (setLabel snap mergeStartTimestampLabelKey now)
  { s with store := s.store.modify snapName name none request }

def History.step (h : History) : Action → History
  | .event e =>
    let next := Snapshot.step h.cluster e
    { cluster := next
      created := h.created ++ createdBy h.cluster e
      recorded := (h.recorded ++ recordedBy h.cluster e).filter fun name =>
        (next.store.find snapName name).isSome }
  | .startMerge name now => { h with cluster := h.cluster.startMerge name now }

structure MergesCreated (h : History) : Prop where
  merging : ∀ o ∈ h.cluster.store.objects, o.value.status = .merging → o.value.name ∈ h.recorded
  restored : ∀ volName, .restoreSnapshot volName ∈ h.cluster.calls → volName ∈ h.created

def mergeRequested (snap : AntstorSnapshot) : Prop := (snap.label mergeStartTimestampLabelKey).getD "" ≠ ""

instance (snap : AntstorSnapshot) : Decidable (mergeRequested snap) := inferInstanceAs (Decidable (_ ≠ _))

/-- Users ask for the merge of a snapshot with the agent's finalizer, and create
snapshots with neither. -/
def WaitsForFinalizer (h : History) : Action → Prop
  | .event (.create snap) => snapshotFinalizer ∉ snap.finalizers ∧ ¬ mergeRequested snap
  | .startMerge name now => ∀ o ∈ h.cluster.store.objects, o.value.name = name →
      now = "" ∨ snapshotFinalizer ∈ o.value.finalizers
  | _ => True

instance (h : History) (a : Action) : Decidable (WaitsForFinalizer h a) := by
  rcases a with (_ | _) | _ <;> unfold WaitsForFinalizer <;> infer_instance

def Backed (h : History) (snap : AntstorSnapshot) : Prop :=
  snap.name ∈ h.recorded ∧ (snap.spec.volType = .kernelLVol → snap.spec.kernelLvol.name ∈ h.created)

structure Traced (h : History) (snap : AntstorSnapshot) : Prop where
  finalizer : snapshotFinalizer ∈ snap.finalizers → Backed h snap
  requested : mergeRequested snap → Backed h snap
  merging : snap.status = .merging → Backed h snap

/-- A change that adds neither the finalizer nor a request, and starts a merge
only on request. -/
structure Follows (snap new : AntstorSnapshot) : Prop where
  name : new.name = snap.name
  volType : new.spec.volType = snap.spec.volType
  kernelLvol : new.spec.kernelLvol = snap.spec.kernelLvol
  finalizer : snapshotFinalizer ∈ new.finalizers → snapshotFinalizer ∈ snap.finalizers
  requested : mergeRequested new → mergeRequested snap
  merging : new.status = .merging → snap.status = .merging ∨ mergeRequested snap

theorem Traced.follows {h : History} {snap new : AntstorSnapshot} (hSnap : Traced h snap)
    (hNew : Follows snap new) : Traced h new := by
  have hBacked : Backed h snap → Backed h new := by
    rintro ⟨hRecorded, hCreated⟩
    refine ⟨hNew.name ▸ hRecorded, ?_⟩
    rw [hNew.volType, hNew.kernelLvol]
    exact hCreated
  constructor
  · exact fun hFinalizer => hBacked (hSnap.finalizer (hNew.finalizer hFinalizer))
  · exact fun hRequested => hBacked (hSnap.requested (hNew.requested hRequested))
  · intro hMerging
    rcases hNew.merging hMerging with hBefore | hRequested
    · exact hBacked (hSnap.merging hBefore)
    · exact hBacked (hSnap.requested hRequested)

section

variable {snap current new : AntstorSnapshot} {w : Write}

theorem mergeRequested_setLabel {key : String} (hKey : mergeStartTimestampLabelKey ≠ key) (value : String) :
    mergeRequested (setLabel snap key value) ↔ mergeRequested snap := by
  rw [mergeRequested, label_setLabel snap hKey, mergeRequested]

theorem follows_update (h : (Write.update snap).apply current = some new)
    (hType : snap.spec.volType = current.spec.volType) (hLvol : snap.spec.kernelLvol = current.spec.kernelLvol)
    (hFinalizer : snapshotFinalizer ∈ snap.finalizers → snapshotFinalizer ∈ current.finalizers)
    (hRequested : mergeRequested snap → mergeRequested current) : Follows current new := by
  obtain rfl := eq_of_finalize h
  exact ⟨rfl, hType, hLvol, hFinalizer, hRequested, .inl⟩

theorem follows_updateStatus (h : (Write.updateStatus snap).apply current = some new)
    (hMerging : snap.status = .merging → mergeRequested current) : Follows current new := by
  obtain rfl := eq_of_finalize h
  exact ⟨rfl, rfl, rfl, id, id, fun hStatus => .inr (hMerging hStatus)⟩

theorem Controller.Prepares.follows (hPrepares : Prepares current w) (h : w.apply current = some new) :
    Follows current new := by
  cases hPrepares with
  | release => exact follows_update h rfl rfl (absurd · List.not_mem_nil) id
  | labelOrigin =>
    refine follows_update h rfl rfl id fun hRequested => ?_
    rwa [mergeRequested_setLabel (by decide), mergeRequested_setLabel (by decide)] at hRequested
  | roundSize => exact follows_update h rfl rfl id id

theorem Controller.Advances.follows (hAdvances : Advances current w) (h : w.apply current = some new) :
    Follows current new := by
  cases hAdvances with
  | schedule targetNodeId => exact follows_update h rfl rfl id (mergeRequested_setLabel (by decide) targetNodeId).mp
  | start => exact follows_updateStatus h nofun
  | merge _ hLabel => exact follows_updateStatus h fun _ => hLabel

namespace Agent

variable {ans : Answers}

theorem mem_createdVolume_after {volName originName : String} {sizeByte : ℕ} {w' : Write}
    (h : (Outcome.after ans (.createSnapshot volName originName sizeByte) w').write = some w) :
    volName ∈ (Outcome.after ans (.createSnapshot volName originName sizeByte) w').calls.filterMap
      (createdVolume ans) := by
  have hSucceeds : ans.succeeds (.createSnapshot volName originName sizeByte) := by
    unfold Outcome.after at h
    dsimp only at h
    split at h
    · assumption
    · cases h
  refine List.mem_filterMap.mpr ⟨_, List.mem_singleton_self _, ?_⟩
  rw [createdVolume, if_pos hSucceeds]

theorem syncOneSnapshot_follows (hWrite : (syncOneSnapshot ans snap).write = some w)
    (h : w.apply snap = some new) :
    Follows snap new ∨ ∃ volName ∈ (syncOneSnapshot ans snap).calls.filterMap (createdVolume ans),
      new.name = snap.name ∧ snapshotFinalizer ∈ new.finalizers ∧
        (new.spec.volType = .kernelLVol → new.spec.kernelLvol.name = volName) := by
  have hSyncs : Syncs ans snap (syncOneSnapshot ans snap) := syncOneSnapshot_syncs
  generalize syncOneSnapshot ans snap = out at hSyncs hWrite
  cases hSyncs with
  | idle => cases hWrite
  | delete volName =>
    obtain rfl := after_write hWrite
    exact .inl (follows_update h rfl rfl (fun hMem => (List.mem_filter.mp hMem).1) id)
  | ready =>
    cases hWrite
    exact .inl (follows_updateStatus h nofun)
  | create originName spec _ _ _ hVolume =>
    have hCreated := mem_createdVolume_after hWrite
    obtain rfl := after_write hWrite
    obtain rfl := eq_of_finalize h
    exact .inr ⟨_, hCreated, rfl, List.mem_append_right _ (List.mem_singleton_self _), hVolume⟩
  | finish =>
    cases hWrite
    exact .inl (follows_updateStatus h nofun)
  | restore written _ _ hRestored =>
    obtain rfl := hRestored w hWrite
    exact .inl (follows_update h rfl rfl id (mergeRequested_setLabel (by decide) ans.now).mp)

theorem restoreSnapshot_mem {volName : String} (h : .restoreSnapshot volName ∈ (syncOneSnapshot ans snap).calls) :
    snap.status = .merging ∧ snap.spec.volType = .kernelLVol ∧ volName = snap.spec.kernelLvol.name := by
  have hSyncs : Syncs ans snap (syncOneSnapshot ans snap) := syncOneSnapshot_syncs
  generalize syncOneSnapshot ans snap = out at hSyncs h
  cases hSyncs with
  | restore written hStatus hType =>
    cases List.mem_singleton.mp h
    exact ⟨hStatus, hType, rfl⟩
  | delete | create => cases List.mem_singleton.mp h
  | idle | ready | finish => cases h

end Agent

end

def Remembers (h : History) : Local → Prop
  | .idle => True
  | .fetched copy | .listed copy _ => Seen snapName h.cluster.store copy ∧
      (copy.value.status = .merging → copy.value.spec.volType = .kernelLVol →
        copy.value.spec.kernelLvol.name ∈ h.created)

structure Tracked (h : History) : Prop where
  valid : h.cluster.store.Valid snapName
  traced : ∀ o ∈ h.cluster.store.objects, Traced h o.value
  remembers : ∀ i, Remembers h (h.cluster.procs i)
  restored : ∀ volName, .restoreSnapshot volName ∈ h.cluster.calls → volName ∈ h.created

structure Extends (h h' : History) : Prop where
  created : ∀ volName ∈ h.created, volName ∈ h'.created
  recorded : ∀ o ∈ h'.cluster.store.objects, o.value.name ∈ h.recorded → o.value.name ∈ h'.recorded

section

variable {h h' : History} {o copy : Versioned AntstorSnapshot} {snap new : AntstorSnapshot}

theorem Traced.extends (hTraced : Traced h o.value) (hExtends : Extends h h')
    (ho : o ∈ h'.cluster.store.objects) : Traced h' o.value := by
  have hBacked : Backed h o.value → Backed h' o.value := fun hBacked =>
    ⟨hExtends.recorded o ho hBacked.1, fun hType => hExtends.created _ (hBacked.2 hType)⟩
  exact ⟨fun hFinalizer => hBacked (hTraced.finalizer hFinalizer),
    fun hRequested => hBacked (hTraced.requested hRequested),
    fun hMerging => hBacked (hTraced.merging hMerging)⟩

theorem mem_filter_present {s : Cluster} {names : List String} (ho : o ∈ s.store.objects)
    (hName : o.value.name ∈ names) :
    o.value.name ∈ names.filter fun name => (s.store.find snapName name).isSome := by
  refine List.mem_filter.mpr ⟨hName, ?_⟩
  rw [Store.find, List.find?_isSome]
  exact ⟨o, ho, decide_eq_true rfl⟩

theorem extends_step (h : History) (a : Action) : Extends h (h.step a) := by
  cases a with
  | event e =>
    refine ⟨fun volName => List.mem_append_left _, fun o ho hName => ?_⟩
    exact mem_filter_present ho (List.mem_append_left _ hName)
  | startMerge name now => exact ⟨fun _ => id, fun _ _ => id⟩

theorem Remembers.extends {state : Local} (hState : Remembers h state) (hExtends : Extends h h')
    (hSeen : ∀ copy, Seen snapName h.cluster.store copy → Seen snapName h'.cluster.store copy) :
    Remembers h' state := by
  cases state with
  | idle => trivial
  | fetched copy | listed copy snapList =>
    exact ⟨hSeen copy hState.1, fun hMerging hType => hExtends.created _ (hState.2 hMerging hType)⟩

structure Proceeds (h h' : History) : Prop where
  procs : ∀ i, h'.cluster.procs i = h.cluster.procs i ∨ Remembers h' (h'.cluster.procs i)
  calls : ∀ volName, .restoreSnapshot volName ∈ h'.cluster.calls →
    .restoreSnapshot volName ∈ h.cluster.calls ∨ volName ∈ h.created

theorem Tracked.next (hTracked : Tracked h) (hExtends : Extends h h') (hProceeds : Proceeds h h')
    (hValid : h'.cluster.store.Valid snapName)
    (hSeen : ∀ copy, Seen snapName h.cluster.store copy → Seen snapName h'.cluster.store copy)
    (hTraced : ∀ o ∈ h'.cluster.store.objects, o ∈ h.cluster.store.objects ∨ Traced h' o.value) : Tracked h' where
  valid := hValid
  traced o ho := (hTraced o ho).elim (fun hOld => (hTracked.traced o hOld).extends hExtends ho) id
  remembers i := by
    rcases hProceeds.procs i with hSame | hNew
    · exact hSame ▸ (hTracked.remembers i).extends hExtends hSeen
    · exact hNew
  restored volName hCall := by
    rcases hProceeds.calls volName hCall with hOld | hCreated
    · exact hExtends.created _ (hTracked.restored volName hOld)
    · exact hExtends.created _ hCreated

theorem Tracked.unchanged (hTracked : Tracked h) (hExtends : Extends h h') (hProceeds : Proceeds h h')
    (hStore : h'.cluster.store = h.cluster.store) : Tracked h' :=
  hTracked.next hExtends hProceeds (hStore ▸ hTracked.valid) (fun _ hSeen => hStore ▸ hSeen)
    fun _ ho => .inl (hStore ▸ ho)

theorem Tracked.modify (hTracked : Tracked h) (hExtends : Extends h h') (hProceeds : Proceeds h h')
    {name : String} {guard : Option ℕ} {f : AntstorSnapshot → Option AntstorSnapshot}
    (hStore : h'.cluster.store = h.cluster.store.modify snapName name guard f)
    (hName : ∀ a b, f a = some b → b.name = a.name)
    (hTraced : ∀ o ∈ h.cluster.store.objects, o.value.name = name → (∀ version ∈ guard, o.version = version) →
      ∀ o' ∈ h'.cluster.store.objects, f o.value = some o'.value → Traced h' o'.value) : Tracked h' := by
  refine hTracked.next hExtends hProceeds (hStore ▸ hTracked.valid.modify name guard hName) ?_ ?_
  · intro copy hSeen
    exact hStore ▸ hSeen.modify name guard f
  · intro o' ho'
    rcases Store.mem_modify (hStore ▸ ho') with hOld | ⟨o, ho, hKey, hGuard, hNew, -⟩
    · exact .inl hOld
    · exact .inr (hTraced o ho hKey hGuard o' ho' hNew)

theorem Tracked.follow (hTracked : Tracked h) (hExtends : Extends h h') (ho : o ∈ h.cluster.store.objects)
    {o' : Versioned AntstorSnapshot} (ho' : o' ∈ h'.cluster.store.objects)
    (hFollows : Follows o.value o'.value) : Traced h' o'.value :=
  ((hTracked.traced o ho).follows hFollows).extends hExtends ho'

theorem Tracked.write (hTracked : Tracked h) (hExtends : Extends h h') (hProceeds : Proceeds h h')
    (hSeen : Seen snapName h.cluster.store copy) {w : Option Write}
    (hStore : h'.cluster.store = (h.cluster.write copy w).store)
    (hTraced : ∀ w' o', w = some w' → copy ∈ h.cluster.store.objects → o' ∈ h'.cluster.store.objects →
      w'.apply copy.value = some o'.value → Traced h' o'.value) : Tracked h' := by
  cases w with
  | none => exact hTracked.unchanged hExtends hProceeds hStore
  | some w =>
    refine hTracked.modify hExtends hProceeds hStore (fun a b => Write.apply_name) ?_
    intro o ho hName hGuard o' ho' hNew
    obtain rfl := hSeen.current o ho hName (hGuard _ rfl)
    exact hTraced w o' rfl ho ho' hNew

theorem proceeds_become {s : Cluster} {i : Process} {state : Local}
    (hCluster : h'.cluster.procs = (s.become i state).procs) (hProcs : s.procs = h.cluster.procs)
    (hState : Remembers h' state)
    (hCalls : ∀ volName, .restoreSnapshot volName ∈ h'.cluster.calls →
      .restoreSnapshot volName ∈ h.cluster.calls ∨ volName ∈ h.created) : Proceeds h h' := by
  refine ⟨fun j => ?_, hCalls⟩
  generalize hProc : h'.cluster.procs j = state'
  rw [hCluster] at hProc
  rcases Cluster.become_procs hProc with rfl | hBefore
  · exact .inr hState
  · exact .inl (hProcs ▸ hBefore.symm)

end

theorem tracked_init : Tracked {} where
  valid := ⟨by simp, by simp⟩
  traced := by simp
  remembers _ := trivial
  restored := by simp

theorem Tracked.mergesCreated {h : History} (hTracked : Tracked h) : MergesCreated h :=
  ⟨fun o ho hMerging => ((hTracked.traced o ho).merging hMerging).1, hTracked.restored⟩

section

variable {h : History}

theorem Tracked.stay (hTracked : Tracked h) {e : Event} (hStep : Snapshot.step h.cluster e = h.cluster) :
    Tracked (h.step (.event e)) := by
  have hCluster : (h.step (.event e)).cluster = h.cluster := hStep
  refine hTracked.unchanged (extends_step h _) ⟨fun i => .inl ?_, fun volName hCall => .inl ?_⟩ ?_
  · rw [hCluster]
  · exact hCluster ▸ hCall
  · rw [hCluster]

theorem Tracked.become (hTracked : Tracked h) {e : Event} (i : Process) (state : Local)
    (hStep : Snapshot.step h.cluster e = h.cluster.become i state) (hState : Remembers h state) :
    Tracked (h.step (.event e)) := by
  have hCluster : (h.step (.event e)).cluster = h.cluster.become i state := hStep
  have hStore : (h.step (.event e)).cluster.store = h.cluster.store := by
    rw [hCluster]
    rfl
  refine hTracked.unchanged (extends_step h _) (proceeds_become (congrArg Cluster.procs hCluster) rfl ?_ ?_) hStore
  · exact hState.extends (extends_step h _) fun _ hSeen => hStore ▸ hSeen
  · intro volName hCall
    rw [hCluster] at hCall
    exact .inl hCall

theorem Tracked.startMerge (hTracked : Tracked h) {name now : String}
    (hWaits : WaitsForFinalizer h (.startMerge name now)) : Tracked (h.step (.startMerge name now)) := by
  refine hTracked.modify (extends_step h _) ⟨fun i => .inl rfl, fun _ => .inl⟩ rfl ?_ ?_
  · rintro snap _ ⟨⟩
    rfl
  · intro o ho hName _ o' _ hNew
    rw [← Option.some.inj hNew]
    have hTraced := hTracked.traced o ho
    refine ⟨hTraced.finalizer, fun hRequested => ?_, hTraced.merging⟩
    rw [mergeRequested, label_setLabel_self] at hRequested
    exact hTraced.finalizer ((hWaits o ho hName).resolve_left hRequested)

theorem Tracked.create (hTracked : Tracked h) {snap : AntstorSnapshot}
    (hWaits : WaitsForFinalizer h (.event (.create snap))) : Tracked (h.step (.event (.create snap))) := by
  refine hTracked.next (extends_step h _) ⟨fun i => .inl rfl, fun _ => .inl⟩ (hTracked.valid.create _)
    (fun _ hSeen => hSeen.create _) fun o ho => ?_
  rcases Store.mem_create ho with hOld | ⟨rfl, -⟩
  · exact .inl hOld
  · exact .inr ⟨(absurd · hWaits.1), (absurd · hWaits.2), nofun⟩

theorem Tracked.delete (hTracked : Tracked h) (name : String) (now : ℕ) :
    Tracked (h.step (.event (.delete name now))) := by
  refine hTracked.modify (extends_step h _) ⟨fun i => .inl rfl, fun _ => .inl⟩ rfl ?_ ?_
  · intro a b hNew
    rw [eq_of_finalize hNew]
  · intro o ho _ _ o' ho' hNew
    refine hTracked.follow (extends_step h _) ho ho' ?_
    rw [eq_of_finalize hNew]
    exact ⟨rfl, rfl, rfl, id, id, .inl⟩

theorem Tracked.remembers_object (hTracked : Tracked h) {o : Versioned AntstorSnapshot}
    (ho : o ∈ h.cluster.store.objects) : Remembers h (.fetched o) :=
  ⟨hTracked.valid.seen ho, fun hMerging => ((hTracked.traced o ho).merging hMerging).2⟩

theorem Cluster.write_procs (s : Cluster) (copy : Versioned AntstorSnapshot) (w : Option Write) :
    (s.write copy w).procs = s.procs := by
  cases w <;> rfl

theorem Tracked.finish (hTracked : Tracked h) {e : Event} {i : Process} {copy : Versioned AntstorSnapshot}
    (hSeen : Seen snapName h.cluster.store copy) {w : Option Write} {calls : List Agent.Call}
    (hStep : Snapshot.step h.cluster e =
      { (h.cluster.write copy w).become i .idle with calls := h.cluster.calls ++ calls })
    (hCalls : ∀ volName, .restoreSnapshot volName ∈ calls → volName ∈ h.created)
    (hTraced : ∀ w' o', w = some w' → copy ∈ h.cluster.store.objects →
      o' ∈ (Snapshot.step h.cluster e).store.objects → w'.apply copy.value = some o'.value →
      Follows copy.value o'.value ∨ Traced (h.step (.event e)) o'.value) : Tracked (h.step (.event e)) := by
  have hProceeds : Proceeds h (h.step (.event e)) := by
    have hProcs : (h.step (.event e)).cluster.procs = ((h.cluster.write copy w).become i .idle).procs :=
      (congrArg Cluster.procs hStep).trans rfl
    refine proceeds_become hProcs (Cluster.write_procs _ _ _) trivial ?_
    · intro volName hCall
      rw [show (h.step (.event e)).cluster = _ from hStep] at hCall
      exact (List.mem_append.mp hCall).imp_right (hCalls volName)
  refine hTracked.write (extends_step h _) hProceeds hSeen (w := w) ((congrArg Cluster.store hStep).trans rfl) ?_
  intro w' o' hWrite hCopy ho' hNew
  rcases hTraced w' o' hWrite hCopy ho' hNew with hFollows | hNewTraced
  · exact hTracked.follow (extends_step h _) hCopy ho' hFollows
  · exact hNewTraced

theorem Cluster.write_become_eq (s : Cluster) (copy : Versioned AntstorSnapshot) (w : Option Write) (i : Process) :
    (s.write copy w).become i .idle = { (s.write copy w).become i .idle with calls := s.calls ++ [] } := by
  cases w <;> simp [Cluster.write, Cluster.become]

theorem Tracked.finishController (hTracked : Tracked h) (pass : ℕ) (ans : Controller.Answers) :
    Tracked (h.step (.event (.finishController pass ans))) := by
  have hRemembers := hTracked.remembers (.controller pass)
  cases hProc : h.cluster.procs (.controller pass) with
  | fetched copy =>
    rw [hProc] at hRemembers
    cases hAdmit : Controller.reconcileUnlisted ans copy.value with
    | list =>
      refine hTracked.stay ?_
      simp only [Snapshot.step, hProc, hAdmit]
    | done out =>
      refine hTracked.finish hRemembers.1 (w := out.write) (i := .controller pass) ?_
        (fun _ hCall => absurd hCall List.not_mem_nil) ?_
      · rw [← Cluster.write_become_eq]
        simp only [Snapshot.step, hProc, hAdmit]
      · intro w o' hWrite _ _ hNew
        exact .inl ((Controller.reconcileUnlisted_prepares hAdmit hWrite).follows hNew)
  | listed copy snapList =>
    rw [hProc] at hRemembers
    refine hTracked.finish hRemembers.1 (w := (Controller.reconcileListed ans copy.value snapList).write)
      (i := .controller pass) ?_ (fun _ hCall => absurd hCall List.not_mem_nil) ?_
    · rw [← Cluster.write_become_eq]
      simp only [Snapshot.step, hProc]
    · intro w o' hWrite _ _ hNew
      exact .inl ((Controller.reconcileListed_advances hWrite).2.follows hNew)
  | idle =>
    refine hTracked.stay ?_
    simp only [Snapshot.step, hProc]

theorem mem_recordedBy {s : Cluster} {pass : ℕ} {ans : Agent.Answers} {copy o : Versioned AntstorSnapshot}
    {volName : String} (hProc : s.procs (.agent pass) = .fetched copy)
    (hCreated : volName ∈ createdBy s (.finishAgent pass ans))
    (ho : o ∈ (Snapshot.step s (.finishAgent pass ans)).store.objects) (hName : o.value.name = copy.value.name)
    (hFinalizer : snapshotFinalizer ∈ o.value.finalizers) :
    copy.value.name ∈ recordedBy s (.finishAgent pass ans) := by
  simp only [recordedBy, hProc]
  rw [if_pos ⟨List.ne_nil_of_mem hCreated, o, ho, hName, hFinalizer⟩]
  exact List.mem_singleton_self _

theorem Tracked.finishAgent (hTracked : Tracked h) (pass : ℕ) (ans : Agent.Answers) :
    Tracked (h.step (.event (.finishAgent pass ans))) := by
  cases hProc : h.cluster.procs (.agent pass) with
  | idle | listed =>
    refine hTracked.stay ?_
    simp only [Snapshot.step, hProc]
  | fetched copy =>
    obtain ⟨hSeen, hVolume⟩ : Remembers h (.fetched copy) := hProc ▸ hTracked.remembers (.agent pass)
    have hStep : Snapshot.step h.cluster (.finishAgent pass ans) =
        { (h.cluster.write copy (Agent.syncOneSnapshot ans copy.value).write).become (.agent pass) .idle with
          calls := h.cluster.calls ++ (Agent.syncOneSnapshot ans copy.value).calls } := by
      simp only [Snapshot.step, hProc]
    refine hTracked.finish hSeen hStep ?_ ?_
    · intro volName hCall
      obtain ⟨hStatus, hType, rfl⟩ := Agent.restoreSnapshot_mem hCall
      exact hVolume hStatus hType
    · intro w o' hWrite _ ho' hNew
      refine (Agent.syncOneSnapshot_follows hWrite hNew).imp_right ?_
      -- The one write that adds the finalizer: the call before it has created the volume.
      rintro ⟨volName, hMem, hName, hFinalizer, hLvol⟩
      have hCreated : volName ∈ createdBy h.cluster (.finishAgent pass ans) := by
        simpa only [createdBy, hProc] using hMem
      have hRecorded := mem_recordedBy hProc hCreated ho' hName hFinalizer
      have hBacked : Backed (h.step (.event (.finishAgent pass ans))) o'.value :=
        ⟨mem_filter_present ho' (List.mem_append_right _ (hName ▸ hRecorded)),
          fun hType => hLvol hType ▸ List.mem_append_right _ hCreated⟩
      exact ⟨fun _ => hBacked, fun _ => hBacked, fun _ => hBacked⟩

theorem Tracked.read (hTracked : Tracked h) (i : Process) (name : String) :
    Tracked (h.step (.event (.read i name))) := by
  cases hFind : h.cluster.store.find snapName name with
  | some copy =>
    refine hTracked.become i (.fetched copy) ?_ (hTracked.remembers_object (Store.mem_of_find hFind).1)
    rw [Snapshot.step, hFind]
  | none =>
    refine hTracked.become i .idle ?_ trivial
    rw [Snapshot.step, hFind]

theorem Tracked.list (hTracked : Tracked h) (pass : ℕ) (ans : Controller.Answers) :
    Tracked (h.step (.event (.list pass ans))) := by
  cases hProc : h.cluster.procs (.controller pass) with
  | fetched copy =>
    have hRemembers : Remembers h (.fetched copy) := hProc ▸ hTracked.remembers (.controller pass)
    cases hAdmit : Controller.reconcileUnlisted ans copy.value with
    | list =>
      refine hTracked.become (.controller pass)
        (.listed copy (h.cluster.listByOrigin copy.value.spec.originVolName)) ?_ hRemembers
      simp only [Snapshot.step, hProc, hAdmit]
    | done out =>
      refine hTracked.stay ?_
      simp only [Snapshot.step, hProc, hAdmit]
  | idle | listed =>
    refine hTracked.stay ?_
    simp only [Snapshot.step, hProc]

theorem Tracked.step (hTracked : Tracked h) {a : Action} (hWaits : WaitsForFinalizer h a) :
    Tracked (h.step a) := by
  cases a with
  | startMerge name now => exact hTracked.startMerge hWaits
  | event e =>
    cases e with
    | create snap => exact hTracked.create hWaits
    | delete name now => exact hTracked.delete name now
    | read i name => exact hTracked.read i name
    | list pass ans => exact hTracked.list pass ans
    | finishController pass ans => exact hTracked.finishController pass ans
    | finishAgent pass ans => exact hTracked.finishAgent pass ans

end

/-- In every run in which users wait for the finalizer, only recorded snapshots
are being merged, and agents restore only volumes that were created. -/
theorem run_mergesCreated {actions : List Action}
    (hWaits : Runs.Guarded History.step WaitsForFinalizer {} actions) :
    Runs.Always History.step MergesCreated {} actions :=
  (hWaits.always tracked_init fun _ _ hTracked hWait => hTracked.step hWait).mono fun _ => Tracked.mergesCreated

def creatingSnapshot : List Action :=
  (.create (smallSnapshot "a" none) :: (List.replicate 3 (pass "a")).flatten).map .event

def agentPass : List Action := [.event (.read (.agent 0) "a"), .event (.finishAgent 0 {})]

def mergeRequest : List Action := .startMerge "a" "1" :: (pass "a").map .event

theorem recordedSnapshot_merged :
    Runs.Always History.step MergesCreated {} (creatingSnapshot ++ agentPass ++ mergeRequest ++ agentPass) :=
  run_mergesCreated (by decide +kernel)

def earlyRequest : History := Runs.run History.step {} (creatingSnapshot ++ mergeRequest ++ agentPass)

/-- The label is there before the agent, and the volume is never created. -/
theorem earlyRequest_merged : ¬ MergesCreated earlyRequest := by
  have hMerging : ∃ o ∈ earlyRequest.cluster.store.objects,
      o.value.status = .merging ∧ o.value.name ∉ earlyRequest.recorded := by
    decide +kernel
  obtain ⟨o, ho, hStatus, hName⟩ := hMerging
  exact fun hMerges => hName (hMerges.merging o ho hStatus)

end Liteio.Snapshot
