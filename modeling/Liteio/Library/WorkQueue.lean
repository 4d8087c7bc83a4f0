import Liteio.Library.Ownership
import Liteio.Library.Runs

/-! # Work queues

The calls that workers make on a rate limited work queue. The queue itself is not
modelled: its states are any type, and `Laws` and `Counts` are what the workers rely
on, told by the keys that are handed out and the keys that are still to be handed
out. What a worker does with the queue after a pass is a parameter.
-/

namespace Liteio

structure WorkQueue (κ Q : Type*) where
  new : Q
  add : κ → Q → Q
  addAfter : κ → Q → Q
  addRateLimited : κ → Q → Q
  forget : κ → Q → Q
  numRequeues : κ → Q → ℕ
  get : Q → Option (κ × Q)
  done : κ → Q → Q
  /-- The timer of a key runs out. -/
  elapse : κ → Q → Q
  shutDown : Q → Q
  shuttingDown : Q → Bool

namespace WorkQueue

variable {κ Q : Type*}

/-- The same keys are handed out, and none that is to be handed out is dropped. -/
structure Framed (wq : WorkQueue κ Q) (held : Q → Finset κ) (owed : Q → κ → Prop) (q q' : Q) : Prop where
  held : held q' = held q
  owed : ∀ k, owed q k → owed q' k
  shuttingDown : wq.shuttingDown q' = wq.shuttingDown q

variable {wq : WorkQueue κ Q} {held : Q → Finset κ} {owed : Q → κ → Prop} {q q' q'' : Q}

theorem Framed.refl (q : Q) : wq.Framed held owed q q := ⟨rfl, fun _ h => h, rfl⟩

theorem Framed.trans (h : wq.Framed held owed q q') (h' : wq.Framed held owed q' q'') :
    wq.Framed held owed q q'' :=
  ⟨h'.held.trans h.held, fun k hk => h'.owed k (h.owed k hk), h'.shuttingDown.trans h.shuttingDown⟩

variable [DecidableEq κ]

/-- What the workers rely on. `held` are the keys handed out for which `done` has
not been called, and `owed` those that the queue will hand out. -/
structure Laws (wq : WorkQueue κ Q) (held : Q → Finset κ) (owed : Q → κ → Prop) : Prop where
  new : held wq.new = ∅
  add : ∀ k q, wq.Framed held owed q (wq.add k q) ∧ (wq.shuttingDown q = false → owed (wq.add k q) k)
  addAfter : ∀ k q, wq.Framed held owed q (wq.addAfter k q) ∧
    (wq.shuttingDown q = false → owed (wq.addAfter k q) k)
  addRateLimited : ∀ k q, wq.Framed held owed q (wq.addRateLimited k q) ∧
    (wq.shuttingDown q = false → owed (wq.addRateLimited k q) k)
  forget : ∀ k q, wq.Framed held owed q (wq.forget k q)
  elapse : ∀ k q, wq.Framed held owed q (wq.elapse k q)
  get : ∀ k q q', wq.get q = some (k, q') → k ∉ held q ∧ held q' = insert k (held q) ∧
    (∀ j, j ≠ k → owed q j → owed q' j) ∧ wq.shuttingDown q' = wq.shuttingDown q
  done : ∀ k q, held (wq.done k q) = (held q).erase k ∧ (∀ j, owed q j → owed (wq.done k q) j) ∧
    wq.shuttingDown (wq.done k q) = wq.shuttingDown q
  shutDown : ∀ q, held (wq.shutDown q) = held q ∧ wq.shuttingDown (wq.shutDown q) = true

/-- What a worker does with the queue when a pass over `k` has ended in `r`, and
when that asks for another pass. -/
structure Reaction (κ ρ Q : Type*) where
  react : κ → ρ → Q → Q
  repeats : κ → ρ → Bool

/-- Nothing else is lost, and a key whose pass is to be repeated comes back. -/
def Reaction.Sound {ρ : Type*} (reaction : Reaction κ ρ Q) (wq : WorkQueue κ Q) (held : Q → Finset κ)
    (owed : Q → κ → Prop) : Prop :=
  ∀ k r q, wq.Framed held owed q (reaction.react k r q) ∧
    (wq.shuttingDown q = false → reaction.repeats k r = true → owed (reaction.react k r q) k)

inductive Event (κ ω ρ : Type*) where
  | change (k : κ)
  | elapse (k : κ)
  | get (w : ω)
  | react (w : ω) (r : ρ)
  | done (w : ω)
  | shutDown

/-- `busy` is the key a worker has and whether its pass has ended; `unseen` are the
keys that have changed, or were to be looked at again, since their last pass began. -/
structure Workers (κ ω Q : Type*) where
  q : Q
  busy : ω → Option (κ × Bool) := fun _ => none
  unseen : κ → Bool := fun _ => false

variable {ω ρ : Type*} [DecidableEq ω]

namespace Workers

open Function

def step (wq : WorkQueue κ Q) (reaction : Reaction κ ρ Q) (s : Workers κ ω Q) : Event κ ω ρ → Workers κ ω Q
  | .change k => { s with q := wq.add k s.q, unseen := update s.unseen k true }
  | .elapse k => { s with q := wq.elapse k s.q }
  | .get w =>
    match s.busy w, wq.get s.q with
    | none, some (k, q) =>
      { q := q, busy := update s.busy w (some (k, false)), unseen := update s.unseen k false }
    | _, _ => s
  | .react w r =>
    match s.busy w with
    | some (k, false) =>
      { q := reaction.react k r s.q, busy := update s.busy w (some (k, true)),
        unseen := update s.unseen k (s.unseen k || reaction.repeats k r) }
    | _ => s
  | .done w =>
    match s.busy w with
    | some (k, true) => { s with q := wq.done k s.q, busy := update s.busy w none }
    | _ => s
  | .shutDown => { s with q := wq.shutDown s.q }

def owner (s : Workers κ ω Q) (w : ω) : Option κ := (s.busy w).map Prod.fst

/-- A key is handed out exactly while a worker has it, to one worker at a time, and
a key that is to be looked at will be handed out. -/
structure Sound (wq : WorkQueue κ Q) (held : Q → Finset κ) (owed : Q → κ → Prop) (s : Workers κ ω Q) : Prop where
  owned : Owned (held s.q) s.owner
  pending : wq.shuttingDown s.q = false → ∀ k, s.unseen k = true → owed s.q k

variable {reaction : Reaction κ ρ Q} {s : Workers κ ω Q}

omit [DecidableEq κ] in
theorem owner_update (s : Workers κ ω Q) (q : Q) (w : ω) (x : Option (κ × Bool)) (unseen : κ → Bool) :
    owner { q := q, busy := update s.busy w x, unseen := unseen } = update s.owner w (x.map Prod.fst) :=
  funext fun v => apply_update (fun _ => Option.map Prod.fst) s.busy w x v

omit [DecidableEq κ] [DecidableEq ω] in
theorem Sound.framed (h : s.Sound wq held owed) {q : Q} (hFramed : wq.Framed held owed s.q q)
    {busy : ω → Option (κ × Bool)} (hOwner : owner { q := q, busy := busy } = s.owner) {unseen : κ → Bool}
    (hUnseen : wq.shuttingDown s.q = false → ∀ k, unseen k = true → s.unseen k = true ∨ owed q k) :
    Sound wq held owed { q := q, busy := busy, unseen := unseen } where
  owned := by
    change Owned (held q) (owner { q := q, busy := busy })
    rw [hFramed.held, hOwner]
    exact h.owned
  pending hUp k hk := by
    have hUp : wq.shuttingDown s.q = false := hFramed.shuttingDown.symm.trans hUp
    exact (hUnseen hUp k hk).elim (fun hOld => hFramed.owed k (h.pending hUp k hOld)) id

omit [DecidableEq ω] in
theorem Sound.change (h : s.Sound wq held owed) (laws : wq.Laws held owed) (k : κ) :
    Sound wq held owed { s with q := wq.add k s.q, unseen := update s.unseen k true } := by
  obtain ⟨hFramed, hOwed⟩ := laws.add k s.q
  refine h.framed hFramed rfl fun hUp j hj => ?_
  by_cases hEq : j = k
  · exact .inr (hEq ▸ hOwed hUp)
  · rw [update_of_ne hEq] at hj
    exact .inl hj

theorem Sound.get (h : s.Sound wq held owed) (laws : wq.Laws held owed) {w : ω} {k : κ}
    (hFree : s.busy w = none) (hGet : wq.get s.q = some (k, q)) :
    Sound wq held owed
      { q := q, busy := update s.busy w (some (k, false)), unseen := update s.unseen k false } := by
  obtain ⟨hNew, hHeld, hOwed, hDown⟩ := laws.get k s.q q hGet
  refine ⟨?_, fun hUp j hj => ?_⟩
  · rw [owner_update, hHeld]
    exact h.owned.take (by simp [owner, hFree]) hNew
  · change update s.unseen k false j = true at hj
    have hEq : j ≠ k := by
      rintro rfl
      simp at hj
    rw [update_of_ne hEq] at hj
    exact hOwed j hEq (h.pending (hDown.symm.trans hUp) j hj)

theorem Sound.react (h : s.Sound wq held owed) (hReaction : reaction.Sound wq held owed) {w : ω} {k : κ} (r : ρ)
    (hBusy : s.busy w = some (k, false)) :
    Sound wq held owed
      { q := reaction.react k r s.q, busy := update s.busy w (some (k, true)),
        unseen := update s.unseen k (s.unseen k || reaction.repeats k r) } := by
  obtain ⟨hFramed, hOwed⟩ := hReaction k r s.q
  have hOwner : s.owner w = some k := by simp [owner, hBusy]
  refine h.framed hFramed ?_ fun hUp j hj => ?_
  · rw [owner_update]
    exact update_eq_self_iff.mpr hOwner.symm
  · by_cases hEq : j = k
    · subst hEq
      rw [update_self, Bool.or_eq_true] at hj
      exact hj.imp_right (hOwed hUp)
    · rw [update_of_ne hEq] at hj
      exact .inl hj

theorem Sound.done (h : s.Sound wq held owed) (laws : wq.Laws held owed) {w : ω} {k : κ}
    (hBusy : s.busy w = some (k, true)) :
    Sound wq held owed { s with q := wq.done k s.q, busy := update s.busy w none } := by
  obtain ⟨hHeld, hOwed, hDown⟩ := laws.done k s.q
  refine ⟨?_, fun hUp j hj => hOwed j (h.pending (hDown.symm.trans hUp) j hj)⟩
  rw [owner_update, hHeld]
  exact h.owned.release (by simp [owner, hBusy])

theorem Sound.step (h : s.Sound wq held owed) (laws : wq.Laws held owed)
    (hReaction : reaction.Sound wq held owed) (e : Event κ ω ρ) : (s.step wq reaction e).Sound wq held owed := by
  cases e with
  | change k => exact h.change laws k
  | elapse k => exact h.framed (laws.elapse k s.q) rfl fun _ _ hj => .inl hj
  | get w =>
    dsimp only [Workers.step]
    split
    next k q hFree hGet => exact h.get laws hFree hGet
    · exact h
  | react w r =>
    dsimp only [Workers.step]
    split
    next k hBusy => exact h.react hReaction r hBusy
    · exact h
  | done w =>
    dsimp only [Workers.step]
    split
    next k hBusy => exact h.done laws hBusy
    · exact h
  | shutDown =>
    obtain ⟨hHeld, hDown⟩ := laws.shutDown s.q
    refine ⟨?_, fun hUp => absurd (hDown.symm.trans hUp) (by decide)⟩
    change Owned (held (wq.shutDown s.q)) s.owner
    rw [hHeld]
    exact h.owned

theorem sound_run (laws : wq.Laws held owed) (hReaction : reaction.Sound wq held owed)
    (events : List (Event κ ω ρ)) :
    (Runs.run (step wq reaction) ({ q := wq.new } : Workers κ ω Q) events).Sound wq held owed := by
  refine Runs.run_induction ⟨?_, by simp⟩ fun _ e h => h.step laws hReaction e
  rw [laws.new]
  exact ⟨by simp [owner], by simp [owner]⟩

end Workers

/-! ## A queue that keeps the laws -/

structure Plain (κ : Type*) where
  queue : List κ := []
  held : Finset κ := ∅
  failures : κ → ℕ := fun _ => 0
  down : Bool := false

def plain : WorkQueue κ (Plain κ) where
  new := {}
  add k q := { q with queue := q.queue ++ [k] }
  addAfter k q := { q with queue := q.queue ++ [k] }
  addRateLimited k q :=
    { q with queue := q.queue ++ [k], failures := Function.update q.failures k (q.failures k + 1) }
  forget k q := { q with failures := Function.update q.failures k 0 }
  numRequeues k q := q.failures k
  get q := (q.queue.find? fun k => decide (k ∉ q.held)).map fun k =>
    (k, { q with queue := q.queue.filter (decide <| · ≠ k), held := insert k q.held })
  done k q := { q with held := q.held.erase k }
  elapse _ q := q
  shutDown q := { q with down := true }
  shuttingDown q := q.down

theorem plain_laws : (plain : WorkQueue κ (Plain κ)).Laws Plain.held fun q k => k ∈ q.queue where
  new := rfl
  add k q := ⟨⟨rfl, fun j hj => List.mem_append_left _ hj, rfl⟩, fun _ => List.mem_append_right _ (by simp)⟩
  addAfter k q := ⟨⟨rfl, fun j hj => List.mem_append_left _ hj, rfl⟩, fun _ => List.mem_append_right _ (by simp)⟩
  addRateLimited k q :=
    ⟨⟨rfl, fun j hj => List.mem_append_left _ hj, rfl⟩, fun _ => List.mem_append_right _ (by simp)⟩
  forget _ _ := ⟨rfl, fun _ h => h, rfl⟩
  elapse _ _ := Framed.refl _
  get k q q' hGet := by
    obtain ⟨j, hFind, hEq⟩ := Option.map_eq_some_iff.mp hGet
    cases hEq
    have hNew : decide (k ∉ q.held) = true := by simpa using List.find?_some hFind
    refine ⟨of_decide_eq_true hNew, rfl, fun i hNe hi => ?_, rfl⟩
    exact List.mem_filter.mpr ⟨hi, decide_eq_true hNe⟩
  done _ _ := ⟨rfl, fun _ h => h, rfl⟩
  shutDown _ := ⟨rfl, rfl⟩

end WorkQueue

end Liteio
