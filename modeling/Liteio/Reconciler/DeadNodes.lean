import Liteio.Reconciler.Volume
import Liteio.State.Index

/-! # Volumes of dead nodes

Passes of the volume reconciler over a volume that is being deleted, on a node
whose agent is gone. Two of the agent's finalizers are removed for it. The one it
sets for every logical volume is not among them, so such a volume stays, also when
its pool is gone: the client returns an empty pool then, and the branch for a pool
that does not exist is never taken.
-/

namespace Liteio.State

/-- A node that holds the UUID is the one in the index and holds it once. -/
def HeldWhereIndexed (s : State) (volID : String) : Prop :=
  ∀ nodeID, volID ∈ s.uuidsAt nodeID → s.index volID = some nodeID ∧ (s.uuidsAt nodeID).count volID = 1

theorem unbind_getVolumeByID (s : State) (volID : String) :
    ∃ err, (s.unbindAntstorVolume volID).1.getVolumeByID volID = .error err := by
  cases hIndex : s.volIDMap.lookup volID with
  | none => exact ⟨.notFoundVolumeIndex volID, by simp [unbindAntstorVolume, getVolumeByID, hIndex]⟩
  | some nodeID =>
    cases hNode : s.nodeMap.lookup nodeID with
    | none => exact ⟨.notFoundIndexedNode nodeID, by simp [unbindAntstorVolume, getVolumeByID, hIndex, hNode]⟩
    | some node =>
      rw [unbindAntstorVolume_eq hIndex hNode]
      exact ⟨.notFoundVolumeIndex volID, by simp [getVolumeByID]⟩

theorem unbind_clears_iff (s : State) (volID : String) :
    (∀ nodeID, ¬ (s.unbindAntstorVolume volID).1.Holds nodeID volID) ↔ s.HeldWhereIndexed volID := by
  simp only [holds_iff_mem_uuidsAt]
  cases hIndex : s.volIDMap.lookup volID with
  | none =>
    have hSame : (s.unbindAntstorVolume volID).1 = s := by simp [unbindAntstorVolume, hIndex]
    rw [hSame]
    refine forall_congr' fun nodeID => imp_congr_right fun _ => ?_
    simp [index, hIndex]
  | some site =>
    cases hNode : s.nodeMap.lookup site with
    | none =>
      have hSame : (s.unbindAntstorVolume volID).1 = s := by simp [unbindAntstorVolume, hIndex, hNode]
      have hEmpty : s.uuidsAt site = [] := by simp [uuidsAt, hNode]
      rw [hSame]
      refine forall_congr' fun nodeID => imp_congr_right fun hMem => ?_
      refine iff_of_false id ?_
      rintro ⟨hSite, -⟩
      cases hIndex.symm.trans hSite
      rw [hEmpty] at hMem
      cases hMem
    | some node =>
      -- one entry of the indexed node goes; a second one there, or one elsewhere, stays
      rw [unbind_uuidsAt hIndex hNode]
      refine forall_congr' fun nodeID => ?_
      rw [Function.update_apply]
      split
      · rename_i hSite
        subst hSite
        rw [← List.count_pos_iff, List.count_erase_self, ← List.count_pos_iff, index, hIndex]
        constructor
        · intro hNone hPos
          exact ⟨rfl, by omega⟩
        · intro hOnce hTwice
          have := (hOnce (by omega)).2
          omega
      · rename_i hOther
        refine imp_congr_right fun _ => iff_of_false id ?_
        rintro ⟨hSite, -⟩
        exact hOther (Option.some.inj (hIndex.symm.trans hSite)).symm

end Liteio.State

namespace Liteio.VolumeReconciler

open VolumeSyncer

structure Deletion where
  state : State
  obj : Option AntstorVolume

def Deletion.pass (d : Deletion) (ans : Answers) : Deletion :=
  match d.obj with
  | none => d
  | some vol =>
    let out := handleDeletion ans d.state vol
    { state := out.state
      obj := match out.write with
        | some w => w.apply d.obj
        | none => d.obj }

/-- The pool of the volume is gone or not ready, and the volume has waited long enough. -/
structure Answers.DeadNode (ans : Answers) : Prop where
  waited : 20 ≤ ans.minutesSinceDeletion
  pool : (∃ text, ans.pool = .notFound text) ∨ ∃ pool, ans.pool = .found pool ∧ pool.status.status ≠ .ready

def agentFinalizers : List String :=
  [kernelLVolFinalizer, spdkLvolFinalizer, logicVolumeFinalizer, spdkTargetFinalizer]

structure Doomed (vol : AntstorVolume) : Prop where
  deleted : vol.deletionTimestamp.isSome
  inState : inStateFinalizer ∈ vol.finalizers
  nodup : vol.finalizers.Nodup
  known : ∀ item ∈ vol.finalizers, item = inStateFinalizer ∨ item ∈ agentFinalizers

/-- Nothing holds the object any more, and the state neither finds the UUID nor has it on a node. -/
structure Released (d : Deletion) (volID : String) : Prop where
  obj : d.obj = none
  unknown : ∃ err, d.state.getVolumeByID volID = .error err
  absent : ∀ nodeID, ¬ d.state.Holds nodeID volID

def ReleasedInTime (s : State) (vol : AntstorVolume) : Prop :=
  ∃ n, ∀ passes : List Answers, passes.length = n → (∀ ans ∈ passes, ans.DeadNode) →
    Released (Runs.run Deletion.pass { state := s, obj := some vol } passes) vol.spec.uuid

def remaining (vol : AntstorVolume) : List String :=
  vol.finalizers.filter fun item => item ≠ kernelLVolFinalizer ∧ item ≠ spdkTargetFinalizer

theorem Answers.DeadNode.targetPool {ans : Answers} (h : ans.DeadNode) :
    ∃ pool, ans.targetPool = .ok (some pool) ∧ pool.status.status ≠ .ready := by
  rcases h.pool with ⟨text, hPool⟩ | ⟨pool, hPool, hStatus⟩
  · exact ⟨{}, by simp [Answers.targetPool, hPool], by decide⟩
  · exact ⟨pool, by simp [Answers.targetPool, hPool], hStatus⟩

section

variable {s : State} {vol : AntstorVolume} {ans : Answers}

theorem pass_of_last (hDeleted : vol.deletionTimestamp.isSome) (h : vol.finalizers = [inStateFinalizer]) :
    Deletion.pass { state := s, obj := some vol } ans =
      { state := (s.unbindAntstorVolume vol.spec.uuid).1, obj := none } := by
  simp [Deletion.pass, handleDeletion, h, release, Write.apply, Write.applyTo, finalize, hDeleted]

theorem one_lt_length (hInState : inStateFinalizer ∈ vol.finalizers)
    (hOthers : vol.finalizers ≠ [inStateFinalizer]) : 1 < vol.finalizers.length := by
  by_contra hLength
  have hOne : vol.finalizers.length = 1 := by
    have := List.length_pos_of_mem hInState
    omega
  obtain ⟨item, hItem⟩ := List.length_eq_one_iff.mp hOne
  rw [hItem, List.mem_singleton] at hInState
  rw [hInState] at hOthers
  exact hOthers hItem

theorem pass_of_others (hAns : ans.DeadNode) (hInState : inStateFinalizer ∈ vol.finalizers)
    (h : vol.finalizers ≠ [inStateFinalizer]) :
    Deletion.pass { state := s, obj := some vol } ans =
      { state := s, obj := some { vol with finalizers := remaining vol } } := by
  obtain ⟨pool, hPool, hStatus⟩ := hAns.targetPool
  have hKept : remaining vol ≠ [] :=
    List.ne_nil_of_mem (List.mem_filter.mpr ⟨hInState, by decide⟩)
  have hWrite : handleDeletion ans s vol =
      { state := s, write := some (.update { vol with finalizers := remaining vol }) } := by
    rw [handleDeletion, if_neg h, hPool]
    exact if_pos ⟨hAns.waited, hStatus, one_lt_length hInState h⟩
  rw [Deletion.pass]
  dsimp only
  rw [hWrite]
  simp [Write.apply, Write.applyTo, finalize, hKept]

theorem Doomed.strip (h : Doomed vol) : Doomed { vol with finalizers := remaining vol } where
  deleted := h.deleted
  inState := List.mem_filter.mpr ⟨h.inState, by decide⟩
  nodup := h.nodup.filter _
  known item hItem := h.known item (List.mem_filter.mp hItem).1

theorem Doomed.remaining_eq (h : Doomed vol) (hLogic : logicVolumeFinalizer ∉ vol.finalizers)
    (hSpdk : spdkLvolFinalizer ∉ vol.finalizers) : remaining vol = [inStateFinalizer] := by
  have hMem : ∀ item, item ∈ remaining vol ↔ item = inStateFinalizer := by
    intro item
    rw [remaining, List.mem_filter, decide_eq_true_iff]
    constructor
    · rintro ⟨hItem, hKernel, hTarget⟩
      rcases h.known item hItem with rfl | hAgent
      · rfl
      · simp only [agentFinalizers, List.mem_cons, List.not_mem_nil, or_false] at hAgent
        rcases hAgent with rfl | rfl | rfl | rfl
        · exact absurd rfl hKernel
        · exact absurd hItem hSpdk
        · exact absurd hItem hLogic
        · exact absurd rfl hTarget
    · rintro rfl
      exact ⟨h.inState, by decide⟩
  have hNodup : (remaining vol).Nodup := h.nodup.filter _
  refine List.perm_singleton.mp ?_
  rw [List.perm_ext_iff_of_nodup hNodup (List.nodup_singleton _)]
  exact fun item => (hMem item).trans List.mem_singleton.symm

end

def Stuck (item : String) (d : Deletion) : Prop :=
  ∃ vol, d.obj = some vol ∧ inStateFinalizer ∈ vol.finalizers ∧ item ∈ vol.finalizers

theorem Stuck.pass {item : String} {d : Deletion} {ans : Answers} (hItem : item ≠ inStateFinalizer)
    (hKernel : item ≠ kernelLVolFinalizer) (hTarget : item ≠ spdkTargetFinalizer) (hAns : ans.DeadNode)
    (h : Stuck item d) : Stuck item (d.pass ans) := by
  obtain ⟨state, obj⟩ := d
  obtain ⟨vol, rfl, hInState, hMem⟩ := h
  have hOthers : vol.finalizers ≠ [inStateFinalizer] := by
    intro hLast
    rw [hLast] at hMem
    exact hItem (List.mem_singleton.mp hMem)
  rw [pass_of_others hAns hInState hOthers]
  refine ⟨_, rfl, List.mem_filter.mpr ⟨hInState, by decide⟩, List.mem_filter.mpr ⟨hMem, ?_⟩⟩
  exact decide_eq_true ⟨hKernel, hTarget⟩

/-- The passes over one volume: the state is the first one as long as the object is there. -/
def Follows (s : State) (volID : String) (d : Deletion) : Prop :=
  (∃ vol, d.obj = some vol ∧ Doomed vol ∧ vol.spec.uuid = volID ∧ d.state = s) ∨
    (d.obj = none ∧ d.state = (s.unbindAntstorVolume volID).1)

theorem Follows.pass {s : State} {volID : String} {d : Deletion} {ans : Answers} (hAns : ans.DeadNode)
    (h : Follows s volID d) : Follows s volID (d.pass ans) := by
  obtain ⟨state, obj⟩ := d
  rcases h with ⟨vol, rfl, hDoomed, rfl, rfl⟩ | ⟨rfl, rfl⟩
  · by_cases hLast : vol.finalizers = [inStateFinalizer]
    · rw [pass_of_last hDoomed.deleted hLast]
      exact .inr ⟨rfl, rfl⟩
    · rw [pass_of_others hAns hDoomed.inState hLast]
      exact .inl ⟨_, rfl, hDoomed.strip, rfl, rfl⟩
  · exact .inr ⟨rfl, rfl⟩

section

variable {s : State} {vol : AntstorVolume} {passes : List Answers}

theorem Stuck.run {item : String} {d : Deletion} (hItem : item ≠ inStateFinalizer)
    (hKernel : item ≠ kernelLVolFinalizer) (hTarget : item ≠ spdkTargetFinalizer)
    (hPasses : ∀ ans ∈ passes, ans.DeadNode) (h : Stuck item d) :
    (Runs.run Deletion.pass d passes).obj ≠ none := by
  have hStuck : Stuck item (Runs.run Deletion.pass d passes) :=
    Runs.run_of_forall hPasses h fun _ _ hStuck hAns => hStuck.pass hItem hKernel hTarget hAns
  obtain ⟨vol, hObj, -⟩ := hStuck
  rw [hObj]
  nofun

theorem Doomed.run_follows (h : Doomed vol) (hPasses : ∀ ans ∈ passes, ans.DeadNode) :
    Follows s vol.spec.uuid (Runs.run Deletion.pass { state := s, obj := some vol } passes) :=
  Runs.run_of_forall hPasses (.inl ⟨vol, rfl, h, rfl, rfl⟩) fun _ _ hFollows hAns => hFollows.pass hAns

theorem Doomed.run_two (h : Doomed vol) (hLogic : logicVolumeFinalizer ∉ vol.finalizers)
    (hSpdk : spdkLvolFinalizer ∉ vol.finalizers) (hPasses : ∀ ans ∈ passes, ans.DeadNode)
    (hTwo : passes.length = 2) : Runs.run Deletion.pass { state := s, obj := some vol } passes =
      { state := (s.unbindAntstorVolume vol.spec.uuid).1, obj := none } := by
  obtain ⟨first, second, rfl⟩ := List.length_eq_two.mp hTwo
  rw [Runs.run_cons, Runs.run_cons, Runs.run_nil]
  by_cases hLast : vol.finalizers = [inStateFinalizer]
  · rw [pass_of_last h.deleted hLast]
    rfl
  · rw [pass_of_others (hPasses first (by simp)) h.inState hLast]
    exact pass_of_last h.deleted (h.remaining_eq hLogic hSpdk)

def gone : Answers := { pool := .notFound "", minutesSinceDeletion := 20 }

theorem deadNode_of_mem_replicate {n : ℕ} {ans : Answers} (h : ans ∈ List.replicate n gone) : ans.DeadNode := by
  rw [List.eq_of_mem_replicate h]
  exact ⟨le_rfl, .inl ⟨"", rfl⟩⟩

theorem ReleasedInTime.not_mem {item : String} (h : ReleasedInTime s vol)
    (hInState : inStateFinalizer ∈ vol.finalizers) (hItem : item ≠ inStateFinalizer)
    (hKernel : item ≠ kernelLVolFinalizer) (hTarget : item ≠ spdkTargetFinalizer) : item ∉ vol.finalizers := by
  intro hMem
  obtain ⟨n, hReleased⟩ := h
  have hEnd := hReleased (List.replicate n gone) List.length_replicate fun _ => deadNode_of_mem_replicate
  have hStuck : Stuck item { state := s, obj := some vol } := ⟨vol, rfl, hInState, hMem⟩
  exact hStuck.run hItem hKernel hTarget (fun _ => deadNode_of_mem_replicate) hEnd.obj

theorem ReleasedInTime.heldWhereIndexed (h : ReleasedInTime s vol) (hDoomed : Doomed vol) :
    s.HeldWhereIndexed vol.spec.uuid := by
  obtain ⟨n, hReleased⟩ := h
  have hEnd := hReleased (List.replicate n gone) List.length_replicate fun _ => deadNode_of_mem_replicate
  have hFollows := hDoomed.run_follows (s := s) fun _ => deadNode_of_mem_replicate (n := n)
  rcases hFollows with ⟨left, hLeft, -⟩ | ⟨-, hState⟩
  · cases hEnd.obj.symm.trans hLeft
  · rw [← State.unbind_clears_iff, ← hState]
    exact hEnd.absent

theorem releasedInTime_iff (s : State) (vol : AntstorVolume) (h : Doomed vol) :
    ReleasedInTime s vol ↔ logicVolumeFinalizer ∉ vol.finalizers ∧ spdkLvolFinalizer ∉ vol.finalizers ∧
      s.HeldWhereIndexed vol.spec.uuid := by
  constructor
  · intro hReleased
    refine ⟨?_, ?_, hReleased.heldWhereIndexed h⟩
    · exact hReleased.not_mem h.inState (by decide) (by decide) (by decide)
    · exact hReleased.not_mem h.inState (by decide) (by decide) (by decide)
  · rintro ⟨hLogic, hSpdk, hHeld⟩
    refine ⟨2, fun passes hTwo hPasses => ?_⟩
    rw [h.run_two hLogic hSpdk hPasses hTwo]
    exact ⟨rfl, s.unbind_getVolumeByID _, (s.unbind_clears_iff _).mpr hHeld⟩

end

def dying (finalizers : List String) : AntstorVolume :=
  { spec := { uuid := "u1" }, deletionTimestamp := some 0, finalizers := finalizers }

theorem doomed_dying {finalizers : List String} (hNodup : finalizers.Nodup)
    (hInState : inStateFinalizer ∈ finalizers)
    (hKnown : ∀ item ∈ finalizers, item = inStateFinalizer ∨ item ∈ agentFinalizers) :
    Doomed (dying finalizers) where
  deleted := rfl
  inState := hInState
  nodup := hNodup
  known := hKnown

def boundState (vol : AntstorVolume) : State where
  nodeMap := Finmap.singleton "n1" { pool := {}, volumes := [vol] }
  volIDMap := Finmap.singleton vol.spec.uuid "n1"

theorem boundState_heldWhereIndexed (vol : AntstorVolume) : (boundState vol).HeldWhereIndexed vol.spec.uuid := by
  intro nodeID hMem
  by_cases hNode : nodeID = "n1"
  · subst hNode
    simp [boundState, State.index, State.uuidsAt]
  · have hNone : (boundState vol).nodeMap.lookup nodeID = none := by
      rw [Finmap.lookup_eq_none, boundState, Finmap.mem_singleton]
      exact hNode
    simp [State.uuidsAt, hNone] at hMem

def served : AntstorVolume := dying [inStateFinalizer, kernelLVolFinalizer, spdkTargetFinalizer]

theorem released_of_kernelLVol : (boundState served).getVolumeByID served.spec.uuid = .ok served ∧
    ReleasedInTime (boundState served) served := by
  have hDoomed : Doomed served := doomed_dying (by decide) (by decide) (by decide)
  refine ⟨by decide, (releasedInTime_iff _ _ hDoomed).mpr ⟨by decide, by decide, ?_⟩⟩
  exact boundState_heldWhereIndexed served

theorem not_released_of_logicVolume :
    Doomed (dying [inStateFinalizer, logicVolumeFinalizer]) ∧
      ¬ ReleasedInTime {} (dying [inStateFinalizer, logicVolumeFinalizer]) := by
  have hDoomed : Doomed (dying [inStateFinalizer, logicVolumeFinalizer]) :=
    doomed_dying (by decide) (by decide) (by decide)
  refine ⟨hDoomed, fun hReleased => ?_⟩
  have hLogic : logicVolumeFinalizer ∈ (dying [inStateFinalizer, logicVolumeFinalizer]).finalizers := by decide
  exact hReleased.not_mem hDoomed.inState (by decide) (by decide) (by decide) hLogic

end Liteio.VolumeReconciler
