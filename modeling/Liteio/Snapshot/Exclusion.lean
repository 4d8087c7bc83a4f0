import Liteio.Snapshot.Protocol

/-! # One live snapshot for an origin volume

A pass that listed the snapshots of the origin and found no other holds a permit
until the snapshot changes. Every snapshot that is live or whose current version
some pass has a permit for has its origin label, so that the lists of the others
show it. This excludes a second one, unless a snapshot was created with labels
but without that one: it never gets it.
-/

namespace Liteio.Snapshot

open ObjectStore Optimistic

structure Regular (snap : AntstorSnapshot) : Prop where
  labellable : Labellable snap
  labelled : snap.status ≠ .unset → OriginLabelled snap
  noError : snap.status ≠ .error
  noDeleted : snap.status ≠ .deleted

/-- A change that gives a snapshot no life it did not have, unless allowed. -/
structure Moves (allowed : Prop) (snap snap' : AntstorSnapshot) : Prop where
  origin : SameOrigin snap' snap
  regular : Regular snap'
  live : Live snap' → Live snap ∨ allowed

theorem eq_of_finalize {snap snap' : AntstorSnapshot} (h : finalize snap = some snap') : snap' = snap := by
  unfold finalize at h
  split at h
  · cases h
  · exact (Option.some.inj h).symm

section

variable {snap new current : AntstorSnapshot} {w : Write} {allowed : Prop}

theorem Write.apply_name (h : w.apply current = some new) : new.name = current.name := by
  cases w with
  | update snap => rw [eq_of_finalize h]
  | updateStatus snap => rw [eq_of_finalize h]

theorem moves_update (h : (Write.update snap).apply current = some new) (hCurrent : Regular current)
    (hOrigin : SameOrigin snap current) (hLabellable : Labellable current → Labellable snap)
    (hLabelled : OriginLabelled current → OriginLabelled snap) : Moves allowed current new := by
  obtain rfl := eq_of_finalize h
  refine ⟨hOrigin, ⟨hLabellable hCurrent.labellable, ?_, hCurrent.noError, hCurrent.noDeleted⟩, .inl⟩
  intro hStatus
  exact hLabelled (hCurrent.labelled hStatus)

theorem moves_updateStatus (h : (Write.updateStatus snap).apply current = some new)
    (hCurrent : Regular current) (hLabelled : OriginLabelled current) (hError : snap.status ≠ .error)
    (hDeleted : snap.status ≠ .deleted) (hLive : Live snap → Live current ∨ allowed) :
    Moves allowed current new := by
  obtain rfl := eq_of_finalize h
  exact ⟨⟨rfl, rfl⟩, ⟨hCurrent.labellable, fun _ => hLabelled, hError, hDeleted⟩, hLive⟩

theorem label_setLabel (snap : AntstorSnapshot) {key other : String} (h : other ≠ key) (value : String) :
    (setLabel snap key value).label other = snap.label other :=
  (Finmap.lookup_insert_of_ne _ h).trans (FiniteMap.lookup_getD snap.labels other)

theorem label_setLabel_self (snap : AntstorSnapshot) (key value : String) :
    (setLabel snap key value).label key = some value :=
  Finmap.lookup_insert _

theorem OriginLabelled.setLabel (h : OriginLabelled snap) (key : String)
    (hKey : originVolumeNameLabelKey ≠ key) (value : String) : OriginLabelled (setLabel snap key value) :=
  (label_setLabel snap hKey value).trans h

end

namespace Controller

variable {ans : Answers} {obj new : AntstorSnapshot} {snapList : List AntstorSnapshot} {w : Write}

theorem Prepares.moves (hPrepares : Prepares obj w) (hObj : Regular obj) (h : w.apply obj = some new) :
    Moves False obj new := by
  cases hPrepares with
  | release => exact moves_update h hObj ⟨rfl, rfl⟩ id id
  | labelOrigin =>
    have hLabelled : OriginLabelled (setLabel (setLabel obj originVolumeNameLabelKey obj.spec.originVolName)
        originVolumeNamespaceLabelKey obj.spec.originVolNamespace) :=
      (label_setLabel _ (by decide) _).trans (label_setLabel_self obj _ _)
    exact moves_update h hObj ⟨rfl, rfl⟩ (fun _ => .inr hLabelled) (fun _ => hLabelled)
  | roundSize => exact moves_update h hObj ⟨rfl, rfl⟩ id id

theorem reconcileUnmerged_list (hObj : Regular obj) (h : reconcileUnmerged obj = .list) :
    obj.status ≠ .merged ∧ OriginLabelled obj := by
  unfold reconcileUnmerged at h
  split at h
  · cases h
  split at h
  · cases h
  · rename_i hStatus hLabels
    exact ⟨hStatus, hObj.labellable.resolve_left hLabels⟩

theorem reconcileUnlisted_list (hObj : Regular obj) (h : reconcileUnlisted ans obj = .list) :
    obj.status ≠ .merged ∧ OriginLabelled obj := by
  unfold reconcileUnlisted at h
  split at h
  · split at h
    · cases h
    · split at h
      · cases h
      · cases h
      · exact reconcileUnmerged_list hObj h
  · exact reconcileUnmerged_list hObj h

theorem Advances.moves (hAdvances : Advances obj w) (hObj : Regular obj) (hStatus : obj.status ≠ .merged)
    (hLabelled : OriginLabelled obj) (h : w.apply obj = some new) : Moves (obj.status = .unset) obj new := by
  cases hAdvances with
  | schedule targetNodeId =>
    have hKept := hLabelled.setLabel targetNodeIdLabelKey (by decide) targetNodeId
    exact moves_update h hObj ⟨rfl, rfl⟩ (fun _ => .inr hKept) (fun _ => hKept)
  | start hUnset => exact moves_updateStatus h hObj hLabelled (by simp) (by simp) (fun _ => .inr hUnset)
  | merge hSet =>
    refine moves_updateStatus h hObj hLabelled (by simp) (by simp) (fun _ => .inl ?_)
    have := hObj.noError
    have := hObj.noDeleted
    unfold Live
    cases hCases : obj.status <;> simp_all

end Controller

namespace Agent

variable {ans : Answers} {snap new : AntstorSnapshot} {w : Write}

theorem syncOneSnapshot_moves (hSnap : Regular snap) (hWrite : (syncOneSnapshot ans snap).write = some w)
    (h : w.apply snap = some new) : Moves False snap new := by
  have hSyncs : Syncs ans snap (syncOneSnapshot ans snap) := syncOneSnapshot_syncs
  generalize syncOneSnapshot ans snap = out at hSyncs hWrite
  cases hSyncs with
  | idle => cases hWrite
  | delete volName =>
    obtain rfl := after_write hWrite
    exact moves_update h hSnap ⟨rfl, rfl⟩ id id
  | ready hStatus =>
    cases hWrite
    have hLabelled := hSnap.labelled (by simp [hStatus])
    exact moves_updateStatus h hSnap hLabelled (by simp) (by simp) (fun _ => .inl (.inl hStatus))
  | create originName spec hStatus hName hNamespace =>
    obtain rfl := after_write hWrite
    have hLabelled := hSnap.labelled (by simp [hStatus])
    have hKept : OriginLabelled { snap with finalizers := snap.finalizers ++ [snapshotFinalizer], spec := spec } :=
      hLabelled.trans (congrArg some hName.symm)
    exact moves_update h hSnap ⟨hName, hNamespace⟩ (fun _ => .inr hKept) (fun _ => hKept)
  | finish hStatus =>
    cases hWrite
    have hLabelled := hSnap.labelled (by simp [hStatus])
    exact moves_updateStatus h hSnap hLabelled (by simp) (by simp) (by simp [Live])
  | restore written hStatus hType hRestored =>
    obtain rfl := hRestored w hWrite
    have hLabelled := hSnap.labelled (by simp [hStatus])
    have hKept := hLabelled.setLabel mergeFinishTimestampLabelKey (by decide) ans.now
    exact moves_update h hSnap ⟨rfl, rfl⟩ (fun _ => .inr hKept) (fun _ => hKept)

end Agent

def Permitted (s : Cluster) (o : Versioned AntstorSnapshot) : Prop :=
  ∃ i snapList, s.procs i = .listed o snapList ∧ o.value.status = .unset ∧
    Controller.onlySnapshot o.value snapList

def Active (s : Cluster) (o : Versioned AntstorSnapshot) : Prop := Live o.value ∨ Permitted s o

def OneActive (s : Cluster) : Prop :=
  ∀ o ∈ s.store.objects, ∀ o' ∈ s.store.objects, Active s o → Active s o' →
    SameOrigin o.value o'.value → o.value.name = o'.value.name

def Knows (store : Store AntstorSnapshot) : Local → Prop
  | .idle => True
  | .fetched copy => Seen snapName store copy ∧ Regular copy.value
  | .listed copy _ => Seen snapName store copy ∧ Regular copy.value ∧ copy.value.status ≠ .merged ∧
      OriginLabelled copy.value

structure Good (s : Cluster) : Prop where
  valid : s.store.Valid snapName
  regular : ∀ o ∈ s.store.objects, Regular o.value
  knows : ∀ i, Knows s.store (s.procs i)
  oneActive : OneActive s

section

variable {s s' : Cluster} {o o' copy : Versioned AntstorSnapshot} {i : Process}

theorem OneActive.of_before (h : OneActive s) (hBefore : ∀ o' ∈ s'.store.objects, Active s' o' →
      ∃ o ∈ s.store.objects, Active s o ∧ o'.value.name = o.value.name ∧ SameOrigin o'.value o.value) :
    OneActive s' := by
  intro o₁ ho₁ o₂ ho₂ hActive₁ hActive₂ hSame
  obtain ⟨p₁, hp₁, hBefore₁, hName₁, hOrigin₁⟩ := hBefore o₁ ho₁ hActive₁
  obtain ⟨p₂, hp₂, hBefore₂, hName₂, hOrigin₂⟩ := hBefore o₂ ho₂ hActive₂
  rw [hName₁, hName₂]
  refine h p₁ hp₁ p₂ hp₂ hBefore₁ hBefore₂ ⟨?_, ?_⟩
  · exact hOrigin₁.1.symm.trans (hSame.1.trans hOrigin₂.1)
  · exact hOrigin₁.2.symm.trans (hSame.2.trans hOrigin₂.2)

theorem Knows.mono {store store' : Store AntstorSnapshot} {state : Local} (h : Knows store state)
    (hSeen : ∀ copy, Seen snapName store copy → Seen snapName store' copy) : Knows store' state := by
  cases state with
  | idle => trivial
  | fetched copy => exact ⟨hSeen copy h.1, h.2⟩
  | listed copy snapList => exact ⟨hSeen copy h.1, h.2⟩

theorem Good.not_permitted (h : Good s) (hVersion : s.store.clock ≤ o.version) : ¬ Permitted s o := by
  rintro ⟨i, snapList, hListed, -⟩
  have hKnows := h.knows i
  rw [hListed] at hKnows
  exact absurd hKnows.1.dated (Nat.not_lt.mpr hVersion)

theorem Good.modify (h : Good s) (name : String) (guard : Option ℕ)
    {f : AntstorSnapshot → Option AntstorSnapshot} (hName : ∀ a b, f a = some b → b.name = a.name)
    (hMoves : ∀ o ∈ s.store.objects, o.value.name = name → (∀ version ∈ guard, o.version = version) →
      ∀ new, f o.value = some new → Moves (Permitted s o) o.value new) :
    Good { s with store := s.store.modify snapName name guard f } where
  valid := h.valid.modify name guard hName
  regular := by
    intro o' ho'
    rcases Store.mem_modify ho' with ho' | ⟨o, ho, hKey, hGuard, hNew, -⟩
    · exact h.regular o' ho'
    · exact (hMoves o ho hKey hGuard _ hNew).regular
  knows i := (h.knows i).mono fun _ hSeen => hSeen.modify name guard f
  oneActive := by
    refine h.oneActive.of_before ?_
    intro o' ho' hActive
    rcases Store.mem_modify ho' with ho' | ⟨o, ho, hKey, hGuard, hNew, hVersion⟩
    · exact ⟨o', ho', hActive, rfl, rfl, rfl⟩
    · have hMove := hMoves o ho hKey hGuard _ hNew
      have hLive : Live o'.value := hActive.resolve_right (h.not_permitted hVersion.ge)
      exact ⟨o, ho, hMove.live hLive, hName _ _ hNew, hMove.origin⟩

theorem Good.create (h : Good s) {snap : AntstorSnapshot} (hSnap : Labellable snap)
    (hStatus : snap.status = .unset) : Good { s with store := s.store.create snapName snap } where
  valid := h.valid.create snap
  regular := by
    intro o ho
    rcases Store.mem_create ho with ho | ⟨rfl, -⟩
    · exact h.regular o ho
    · exact ⟨hSnap, fun hSet => absurd hStatus hSet, by simp [hStatus], by simp [hStatus]⟩
  knows i := (h.knows i).mono fun _ hSeen => hSeen.create snap
  oneActive := by
    refine h.oneActive.of_before ?_
    intro o ho hActive
    rcases Store.mem_create ho with ho | ⟨rfl, -⟩
    · exact ⟨o, ho, hActive, rfl, rfl, rfl⟩
    · rcases hActive with hLive | hPermitted
      · simp [Live, hStatus] at hLive
      · exact absurd hPermitted (h.not_permitted le_rfl)

theorem Cluster.become_procs {state state' : Local} {j : Process} (h : (s.become i state).procs j = state') :
    state' = state ∨ s.procs j = state' := by
  change Function.update s.procs i state j = state' at h
  by_cases hj : j = i
  · subst hj
    rw [Function.update_self] at h
    exact .inl h.symm
  · rw [Function.update_of_ne hj] at h
    exact .inr h

theorem Good.knows_become (h : Good s) {state : Local} (hState : Knows s.store state) (j : Process) :
    Knows s.store ((s.become i state).procs j) := by
  generalize hProc : (s.become i state).procs j = state'
  rcases Cluster.become_procs hProc with rfl | hBefore
  · exact hState
  · exact hBefore ▸ h.knows j

theorem Good.become (h : Good s) {state : Local} (hState : Knows s.store state)
    (hNot : ∀ copy snapList, state ≠ .listed copy snapList) : Good (s.become i state) where
  valid := h.valid
  regular := h.regular
  knows := h.knows_become hState
  oneActive := by
    refine h.oneActive.of_before ?_
    rintro o ho (hLive | ⟨j, snapList, hListed, hPermit⟩)
    · exact ⟨o, ho, .inl hLive, rfl, rfl, rfl⟩
    · rcases Cluster.become_procs hListed with hState | hBefore
      · exact absurd hState.symm (hNot _ _)
      · exact ⟨o, ho, .inr ⟨j, snapList, hBefore, hPermit⟩, rfl, rfl, rfl⟩

theorem mem_listByOrigin (ho : o ∈ s.store.objects) (hLabelled : OriginLabelled o.value)
    (hOrigin : SameOrigin o.value o'.value) : o.value ∈ s.listByOrigin o'.value.spec.originVolName := by
  rw [Cluster.listByOrigin, List.mem_filter]
  refine ⟨List.mem_map_of_mem ho, ?_⟩
  rw [decide_eq_true_eq, ← hOrigin.1]
  exact hLabelled

theorem Good.active_listed (h : Good s) (ho : o ∈ s.store.objects) (hActive : Active s o)
    (hOrigin : SameOrigin o.value o'.value) :
    o.value ∈ s.listByOrigin o'.value.spec.originVolName ∧ o.value.status ≠ .merged := by
  rcases hActive with hLive | ⟨i, snapList, hListed, hUnset, -⟩
  · have hSet : o.value.status ≠ .unset ∧ o.value.status ≠ .merged := by
      rcases hLive with hStatus | hStatus | hStatus <;> simp [hStatus]
    exact ⟨mem_listByOrigin ho ((h.regular o ho).labelled hSet.1) hOrigin, hSet.2⟩
  · have hKnows := h.knows i
    rw [hListed] at hKnows
    exact ⟨mem_listByOrigin ho hKnows.2.2.2 hOrigin, hKnows.2.2.1⟩

theorem onlySnapshot_eq_name {snap item : AntstorSnapshot} {snapList : List AntstorSnapshot}
    (h : Controller.onlySnapshot snap snapList) (hItem : item ∈ snapList) (hStatus : item.status ≠ .merged) :
    item.name = snap.name := by
  have hEach := List.all_eq_true.mp h item hItem
  simp only [Bool.or_eq_true, Bool.and_eq_true, decide_eq_true_eq] at hEach
  exact (hEach.resolve_right hStatus).1

theorem Good.list (h : Good s) (hFetched : s.procs i = .fetched copy)
    (hStatus : copy.value.status ≠ .merged) (hLabelled : OriginLabelled copy.value) :
    Good (s.become i (.listed copy (s.listByOrigin copy.value.spec.originVolName))) := by
  have hKnows := h.knows i
  rw [hFetched] at hKnows
  have hNew : ∀ o ∈ s.store.objects,
      Active (s.become i (.listed copy (s.listByOrigin copy.value.spec.originVolName))) o →
      Active s o ∨ o = copy ∧ Controller.onlySnapshot copy.value (s.listByOrigin copy.value.spec.originVolName) := by
    rintro o - (hLive | ⟨j, snapList, hListed, hUnset, hOnly⟩)
    · exact .inl (.inl hLive)
    · rcases Cluster.become_procs hListed with hState | hBefore
      · cases hState
        exact .inr ⟨rfl, hOnly⟩
      · exact .inl (.inr ⟨j, snapList, hBefore, hUnset, hOnly⟩)
  refine ⟨h.valid, h.regular, h.knows_become ⟨hKnows.1, hKnows.2, hStatus, hLabelled⟩, ?_⟩
  intro o₁ ho₁ o₂ ho₂ hActive₁ hActive₂ hSame
  rcases hNew o₁ ho₁ hActive₁ with hOld₁ | ⟨rfl, hOnly₁⟩
  · rcases hNew o₂ ho₂ hActive₂ with hOld₂ | ⟨rfl, hOnly₂⟩
    · exact h.oneActive o₁ ho₁ o₂ ho₂ hOld₁ hOld₂ hSame
    · obtain ⟨hListed, hUnmerged⟩ := h.active_listed ho₁ hOld₁ hSame
      exact onlySnapshot_eq_name hOnly₂ hListed hUnmerged
  · rcases hNew o₂ ho₂ hActive₂ with hOld₂ | ⟨rfl, -⟩
    · obtain ⟨hListed, hUnmerged⟩ := h.active_listed ho₂ hOld₂ ⟨hSame.1.symm, hSame.2.symm⟩
      exact (onlySnapshot_eq_name hOnly₁ hListed hUnmerged).symm
    · rfl

theorem Good.write (h : Good s) (hSeen : Seen snapName s.store copy) {w : Option Write}
    (hMoves : ∀ w' new, w = some w' → w'.apply copy.value = some new →
      Moves (Permitted s copy) copy.value new) : Good (s.write copy w) := by
  cases w with
  | none => exact h
  | some w =>
    refine h.modify _ _ (fun a b => Write.apply_name) ?_
    intro o ho hName hGuard new hNew
    obtain rfl := hSeen.current o ho hName (hGuard _ rfl)
    exact hMoves w new rfl hNew

end

theorem good_init : Good {} where
  valid := ⟨by simp, by simp⟩
  regular := by simp
  knows _ := trivial
  oneActive := by
    intro o ho
    cases ho

theorem Moves.allow {allowed : Prop} {snap new : AntstorSnapshot} (h : Moves False snap new) :
    Moves allowed snap new :=
  ⟨h.origin, h.regular, fun hLive => .inl ((h.live hLive).resolve_right id)⟩

theorem Good.finishController {s : Cluster} (h : Good s) (pass : ℕ) (ans : Controller.Answers) :
    Good (step s (.finishController pass ans)) := by
  have hKnows := h.knows (.controller pass)
  rw [Snapshot.step]
  split
  · rename_i copy hFetched
    rw [hFetched] at hKnows
    split
    · rename_i out hDone
      refine (h.write hKnows.1 ?_).become trivial (by simp)
      intro w new hWrite hNew
      exact ((Controller.reconcileUnlisted_prepares hDone hWrite).moves hKnows.2 hNew).allow
    · exact h
  · rename_i copy snapList hListed
    rw [hListed] at hKnows
    obtain ⟨hSeen, hRegular, hStatus, hLabelled⟩ := hKnows
    refine (h.write hSeen ?_).become trivial (by simp)
    intro w new hWrite hNew
    obtain ⟨hOnly, hAdvances⟩ := Controller.reconcileListed_advances hWrite
    obtain ⟨hOrigin, hNewRegular, hLive⟩ := hAdvances.moves hRegular hStatus hLabelled hNew
    exact ⟨hOrigin, hNewRegular, fun hNewLive => (hLive hNewLive).imp_right fun hUnset =>
      ⟨.controller pass, snapList, hListed, hUnset, hOnly⟩⟩
  · exact h

theorem Good.finishAgent {s : Cluster} (h : Good s) (pass : ℕ) (ans : Agent.Answers) :
    Good (step s (.finishAgent pass ans)) := by
  have hKnows := h.knows (.agent pass)
  rw [Snapshot.step]
  split
  · rename_i copy hFetched
    rw [hFetched] at hKnows
    have hWritten : Good ((s.write copy (Agent.syncOneSnapshot ans copy.value).write).become (.agent pass) .idle) := by
      refine (h.write hKnows.1 ?_).become trivial (by simp)
      intro w new hWrite hNew
      exact (Agent.syncOneSnapshot_moves hKnows.2 hWrite hNew).allow
    exact ⟨hWritten.valid, hWritten.regular, hWritten.knows, hWritten.oneActive⟩
  · exact h

theorem Good.step {s : Cluster} (h : Good s) {e : Event} (hCreates : CreatesLabellable s e) :
    Good (step s e) := by
  cases e with
  | create snap => exact h.create hCreates rfl
  | delete name now =>
    refine h.modify name none ?_ ?_
    · intro a b hNew
      rw [eq_of_finalize hNew]
    · intro o ho _ _ new hNew
      obtain rfl := eq_of_finalize hNew
      exact ⟨⟨rfl, rfl⟩, ⟨(h.regular o ho).1, (h.regular o ho).2, (h.regular o ho).3, (h.regular o ho).4⟩, .inl⟩
  | read i name =>
    rw [Snapshot.step]
    split
    · rename_i copy hFind
      have hMem := (Store.mem_of_find hFind).1
      exact h.become ⟨h.valid.seen hMem, h.regular copy hMem⟩ (by simp)
    · exact h.become trivial (by simp)
  | list pass ans =>
    rw [Snapshot.step]
    split
    · rename_i copy hFetched
      have hKnows := h.knows (.controller pass)
      rw [hFetched] at hKnows
      split
      · rename_i hAdmit
        obtain ⟨hStatus, hLabelled⟩ := Controller.reconcileUnlisted_list hKnows.2 hAdmit
        exact h.list hFetched hStatus hLabelled
      · exact h
    · exact h
  | finishController pass ans => exact h.finishController pass ans
  | finishAgent pass ans => exact h.finishAgent pass ans

theorem Good.oneLive {s : Cluster} (h : Good s) : OneLive s :=
  fun o ho o' ho' hLive hLive' => h.oneActive o ho o' ho' (.inl hLive) (.inl hLive')

/-- In every run in which each created snapshot has no labels or the right origin
label, no origin volume ever has two live snapshots. -/
theorem run_oneLive {events : List Event} (hCreates : Runs.Guarded step CreatesLabellable {} events) :
    Runs.Always step OneLive {} events :=
  (hCreates.always good_init fun _ _ hGood hCreate => hGood.step hCreate).mono fun _ => Good.oneLive

def smallSnapshot (name : String) (labels : StringMap) : AntstorSnapshot where
  name := name
  labels := labels
  spec := { size := 4194304, originVolName := "v", originVolNamespace := "d" }

def originFound : Controller.Answers where
  originVol := .found
    { name := "v"
      annotations := some (Finmap.singleton snapshotReservedSpaceAnnotationKey "4194304")
      spec := { targetNodeId := "n" } }

def pass (name : String) : List Event :=
  [.read (.controller 0) name, .list 0 originFound, .finishController 0 originFound]

def twoSnapshots (first second : StringMap) : List Event :=
  [.create (smallSnapshot "a" first), .create (smallSnapshot "b" second)] ++
    (List.replicate 3 (pass "a")).flatten ++ (List.replicate 3 (pass "b")).flatten

def originLabel : StringMap := some (Finmap.singleton originVolumeNameLabelKey "v")

theorem labelled_twoSnapshots_oneLive : Runs.Always step OneLive {} (twoSnapshots originLabel none) :=
  run_oneLive (by decide)

/-- A snapshot with labels of its own never gets the origin label. -/
theorem otherLabel_twoSnapshots_not_oneLive :
    ¬ OneLive (Runs.run step {} (twoSnapshots (some (Finmap.singleton "app" "x")) none)) := by
  decide +kernel

end Liteio.Snapshot
