import Liteio.Spdk.Retries
import Mathlib.Data.Int.ConditionallyCompleteOrder
import Mathlib.Data.Int.Interval

/-! # Attempts that run out of ports

An attempt whose listener fails keeps the port it took, and the set of ports is
rebuilt only by calls that get to their end. So attempts at one target that fail
often enough use up the range, and from then on every attempt fails, whatever
SPDK would serve.
-/

namespace Liteio.Spdk

open Strconv

variable {req : TargetCreateRequest}

namespace SvcIdAllocator

theorem search_fst_of_none {a : SvcIdAllocator} {rounds : ℕ} {cursor : ℤ}
    (h : (a.search rounds cursor).2 = none) : (a.search rounds cursor).1 = a.advance^[rounds + 1] cursor := by
  induction rounds generalizing cursor with
  | zero => rfl
  | succ rounds ih =>
    rw [search] at h ⊢
    split at h
    · rename_i hUsed
      rw [if_pos hUsed, ih h]
      rfl
    · cases h

theorem nextID_of_none {a : SvcIdAllocator} (h : a.InRange) (hNone : a.nextID.2 = none) :
    a.nextID = (a, none) := by
  have hMin := h.min_le
  have hMax := h.le_max
  rw [nextID] at hNone ⊢
  split at hNone
  · cases hNone
  · rename_i hUsed
    rw [if_neg hUsed]
    split at hNone
    · rename_i cursor hSearch
      have hCursor := search_fst_of_none (a := a) (by rw [hSearch])
      rw [hSearch, advance_iterate h (by omega), if_neg (by omega)] at hCursor
      have hSame : cursor = a.cursor := by
        dsimp only at hCursor
        omega
      rw [hSame]
    · cases hNone

noncomputable def freePorts (a : SvcIdAllocator) : Finset ℤ :=
  (Finset.Icc a.minId a.maxId).filter fun id => itoa id ∉ a.inUse

theorem mem_freePorts {a : SvcIdAllocator} {id : ℤ} : id ∈ a.freePorts ↔ a.Free id := by
  rw [freePorts, Finset.mem_filter, Finset.mem_Icc, Free]

theorem card_freePorts_nextID {a : SvcIdAllocator} (h : a.InRange) (hSome : a.nextID.2 ≠ none) :
    a.nextID.1.freePorts.card < a.freePorts.card := by
  rcases nextID_cases h with ⟨hNone, -⟩ | ⟨id, cursor, hFree, hNext⟩
  · exact absurd hNone hSome
  · rw [hNext]
    refine Finset.card_lt_card ⟨fun other hOther => ?_, fun hSubset => ?_⟩
    · rw [mem_freePorts] at hOther ⊢
      exact ⟨hOther.1, fun hUsed => hOther.2 (Finset.mem_insert_of_mem hUsed)⟩
    · have hLost := hSubset (mem_freePorts.mpr hFree)
      exact (mem_freePorts.mp hLost).2 (Finset.mem_insert_self _ _)

theorem exists_iterate_nextID {a : SvcIdAllocator} (h : a.InRange) :
    ∃ n, ((fun a => a.nextID.1)^[n] a).nextID = ((fun a => a.nextID.1)^[n] a, none) := by
  induction hFree : a.freePorts.card using Nat.strong_induction_on generalizing a with
  | _ free ih =>
    -- each port that is handed out is one free port less
    by_cases hNone : a.nextID.2 = none
    · exact ⟨0, nextID_of_none h hNone⟩
    · obtain ⟨n, hEnd⟩ := ih _ (hFree ▸ card_freePorts_nextID h hNone) (nextID_spec h).inRange rfl
      exact ⟨n + 1, hEnd⟩

end SvcIdAllocator

namespace Service

variable {c : Service} {id : ℕ} {before : Subsystems} {stage : Stage req}

/-- A call that has no port yet: it has not planned, has not come to its listener, or has failed. -/
inductive Portless (stage : Stage req) : Call → Prop where
  | fresh : Portless stage (createTarget req)
  | planned : Portless stage stage.planned
  | failed {call : Call} (hOps : call.ops = []) (hErr : call.err ≠ none) : Portless stage call

structure Starved (id : ℕ) (before : Subsystems) (stage : Stage req) (c : Service) : Prop where
  exhausted : c.alloc.nextID = (c.alloc, none)
  subsystems : c.subsystems = stage.subsystems before
  incomplete : stage.isTarget = false
  call : ∀ call, c.calls.lookup id = some call → Portless stage call

theorem Starved.goOn (hExhausted : c.alloc.nextID = (c.alloc, none)) (h : c.subsystems = stage.subsystems before)
    (hIncomplete : stage.isTarget = false) {call : Call} (hCall : Portless stage call) :
    Starved id before stage (c.goOn id call) where
  exhausted := hExhausted
  subsystems := h
  incomplete := hIncomplete
  call found hFound := by
    rw [lookup_goOn] at hFound
    cases hFound
    exact hCall

theorem Starved.fail (h : Starved id before stage c) (call : Call) (err : String) :
    Starved id before stage (c.goOn id (call.fail err)) :=
  .goOn h.exhausted h.subsystems h.incomplete (.failed rfl (by simp [Call.fail]))

theorem Starved.exec_planned (hUnused : Unused req before) (hEmpty : req.targetInfo.svcID = "")
    (h : Starved id before stage c) {op : Op} {ops : List Op} (hOps : stage.planned.ops = op :: ops)
    (served : Bool) : ∃ next : Stage req, Starved id before next (c.exec served id stage.planned ops op) := by
  cases stage with
  | nothing =>
    cases hOps
    rw [Service.exec]
    cases served with
    | false => exact ⟨_, h.fail _ _⟩
    | true =>
      rw [if_pos ⟨rfl, h.subsystems ▸ hUnused.absent⟩]
      refine ⟨.subsystem, .goOn ?_ ?_ rfl .planned⟩
      · exact h.exhausted
      · rw [h.subsystems]
        rfl
  | subsystem =>
    cases hOps
    rw [Service.exec]
    cases served with
    | false => exact ⟨_, h.fail _ _⟩
    | true =>
      have hLookup := (Stage.subsystem : Stage req).lookup_subsystems hUnused
      rw [← h.subsystems] at hLookup
      rw [request_of_lookup hLookup]
      refine ⟨.ns, .goOn ?_ ?_ rfl .planned⟩
      · exact h.exhausted
      · rw [h.subsystems]
        exact Finmap.insert_insert _
  | ns =>
    rw [Stage.planned, listenOps, if_pos hEmpty] at hOps ⊢
    cases hOps
    rw [Service.exec, h.exhausted]
    refine ⟨.ns, .goOn ?_ ?_ rfl (.failed rfl (by simp [Call.fail]))⟩
    · exact h.exhausted
    · exact h.subsystems
  | target address hType => cases h.incomplete

theorem Starved.step (hUnused : Unused req before) (hEmpty : req.targetInfo.svcID = "")
    (h : Starved id before stage c) {a : Action} (hRetry : Retry id req a) :
    ∃ next : Stage req, Starved id before next (c.step a) := by
  rcases hRetry with rfl | ⟨served, rfl⟩
  · rw [Service.step, Service.start]
    split
    · exact ⟨stage, .goOn h.exhausted h.subsystems h.incomplete .fresh⟩
    · exact ⟨stage, h⟩
  · rw [Service.step]
    split
    · rename_i call hCall
      split
      · rename_i op ops hOps
        cases h.call call hCall with
        | fresh =>
          cases hOps
          cases served with
          | false => exact ⟨stage, h.fail _ _⟩
          | true =>
            rw [exec_getSubsystems hUnused h.subsystems]
            exact ⟨stage, .goOn h.exhausted h.subsystems h.incomplete .planned⟩
        | planned => exact h.exec_planned hUnused hEmpty hOps served
        | failed hEnded _ => cases hEnded.symm.trans hOps
      · refine ⟨stage, h.exhausted, h.subsystems, h.incomplete, fun found hFound => ?_⟩
        rw [Finmap.lookup_erase] at hFound
        cases hFound
    · exact ⟨stage, h⟩

/-- Once all ports are taken, by attempts whose listener failed say, no attempt ever succeeds: nothing but a
call that succeeds gives a port back. -/
theorem Starved.never_returned (hUnused : Unused req before) (hEmpty : req.targetInfo.svcID = "")
    (h : Starved id before stage c) {actions : List Action} (hActions : ∀ a ∈ actions, Retry id req a)
    (call : Call) : ¬ (Runs.run Service.step c actions).Returned id call := by
  have hStep : ∀ c a, (∃ stage : Stage req, Starved id before stage c) → Retry id req a →
      ∃ stage : Stage req, Starved id before stage (c.step a) := by
    rintro c a ⟨stage, hStage⟩ hRetry
    exact hStage.step hUnused hEmpty hRetry
  obtain ⟨last, hLast⟩ : ∃ last : Stage req, Starved id before last (Runs.run Service.step c actions) :=
    Runs.run_of_forall hActions ⟨stage, h⟩ hStep
  intro hReturned
  cases hLast.call call hReturned.found with
  | fresh => cases hReturned.ops
  | planned => exact last.planned_ops_ne_nil hReturned.ops
  | failed _ hErr => exact hErr hReturned.err

def leak (id : ℕ) (req : TargetCreateRequest) : List Action :=
  [.createTarget id req, .run id true, .run id true, .run id false, .run id true]

structure Halfway (id : ℕ) (before : Subsystems) (req : TargetCreateRequest) (alloc : SvcIdAllocator)
    (c : Service) : Prop where
  subsystems : c.subsystems = (.ns : Stage req).subsystems before
  idle : c.calls.lookup id = none
  alloc : c.alloc = alloc

theorem Halfway.leak (hUnused : Unused req before) (hEmpty : req.targetInfo.svcID = "") {alloc : SvcIdAllocator}
    (h : Halfway id before req alloc c) :
    Halfway id before req alloc.nextID.1 (Runs.run Service.step c (Service.leak id req)) := by
  obtain ⟨hSubsystems, hIdle, rfl⟩ := h
  have hStart : (c.goOn id (createTarget req)).subsystems = (.ns : Stage req).subsystems before := hSubsystems
  have hPlanned : (.ns : Stage req).planned =
      .underWay req.targetInfo [.nextID req, .syncFromTruth true] := by
    rw [Stage.planned, listenOps, if_pos hEmpty]
    rfl
  simp only [Service.leak, Runs.run_cons, Runs.run_nil]
  rw [step_createTarget hIdle, step_run (lookup_goOn ..) rfl, exec_getSubsystems hUnused hStart, hPlanned,
    step_run (lookup_goOn ..) rfl, exec]
  have hAlloc (call other : Call) : ((c.goOn id call).goOn id other).alloc = c.alloc := rfl
  rw [hAlloc]
  rcases hNext : c.alloc.nextID with ⟨next, _ | svcID⟩
  · rw [step_run_ended (lookup_goOn ..) rfl, step_run_idle (Finmap.lookup_erase ..)]
    exact ⟨hSubsystems, Finmap.lookup_erase .., rfl⟩
  · dsimp only
    rw [step_run (lookup_goOn ..) rfl, exec, request_refused, step_run_ended (lookup_goOn ..) rfl]
    exact ⟨hSubsystems, Finmap.lookup_erase .., rfl⟩

def leaks (id : ℕ) (req : TargetCreateRequest) (n : ℕ) : List Action :=
  (List.replicate n (leak id req)).flatten

theorem Halfway.leaks (hUnused : Unused req before) (hEmpty : req.targetInfo.svcID = "") {alloc : SvcIdAllocator}
    (h : Halfway id before req alloc c) (n : ℕ) :
    Halfway id before req ((fun a => a.nextID.1)^[n] alloc) (Runs.run Service.step c (Service.leaks id req n)) := by
  induction n generalizing c alloc with
  | zero => exact h
  | succ n ih =>
    rw [Service.leaks, List.replicate_succ, List.flatten_cons, Runs.run_append]
    exact ih (h.leak hUnused hEmpty)

theorem Halfway.starved {alloc : SvcIdAllocator} (h : Halfway id before req alloc c)
    (hNone : alloc.nextID = (alloc, none)) : Starved id before (.ns : Stage req) c where
  exhausted := h.alloc ▸ hNone
  subsystems := h.subsystems
  incomplete := rfl
  call call hCall := by
    rw [h.idle] at hCall
    cases hCall

theorem mem_leaks {n : ℕ} {a : Action} (h : a ∈ leaks id req n) : Retry id req a := by
  rw [leaks, List.mem_flatten] at h
  obtain ⟨attempt, hAttempt, hMem⟩ := h
  rw [List.eq_of_mem_replicate hAttempt] at hMem
  simp only [leak, List.mem_cons, List.not_mem_nil, or_false] at hMem
  rcases hMem with rfl | rfl | rfl | rfl | rfl
  · exact .inl rfl
  all_goals exact .inr ⟨_, rfl⟩

/-- Attempts whose listener is refused, in sufficient number, are the end of all attempts at the target. -/
theorem Halfway.leaks_never_returned (hUnused : Unused req before) (hEmpty : req.targetInfo.svcID = "")
    {alloc : SvcIdAllocator} (hRange : alloc.InRange) (h : Halfway id before req alloc c) :
    ∃ n, (∀ a ∈ Service.leaks id req n, Retry id req a) ∧
      ∀ further : List Action, (∀ a ∈ further, Retry id req a) → ∀ call,
        ¬ (Runs.run Service.step c (Service.leaks id req n ++ further)).Returned id call := by
  obtain ⟨n, hNone⟩ := SvcIdAllocator.exists_iterate_nextID hRange
  refine ⟨n, fun a => mem_leaks, fun further hFurther call => ?_⟩
  rw [Runs.run_append]
  exact ((h.leaks hUnused hEmpty n).starved hNone).never_returned hUnused hEmpty hFurther call

end Service

end Liteio.Spdk
