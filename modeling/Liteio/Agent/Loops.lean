import Liteio.Library.WorkQueue

/-! # The loops that feed the reconcilers of the agent

`SimpleController` and `SyncLoop` take keys from a rate limited work queue, run
their reconciler and decide when the key comes back. The informers add a key for
each change. An item of an unexpected type is dropped. The queue is a parameter,
and what is asked of it are the laws of `WorkQueue`.
-/

namespace Liteio

/-- An item of a queue that holds `interface{}`. -/
inductive QueueItem (κ : Type*) where
  | key (k : κ)
  | other (text : String)
  deriving DecidableEq

structure ReconcileResult where
  requeue : Bool := false
  requeueAfter : ℤ := 0
  deriving DecidableEq

section

variable {Q : Type*}

namespace SimpleController

structure Request where
  namespace_ : String
  name : String
  deriving DecidableEq

def reconcileHandler (queue : WorkQueue (QueueItem Request) Q) (obj : QueueItem Request)
    (reconciled : Except String ReconcileResult) (q : Q) : Q :=
  match obj with
  | .other _ => queue.forget obj q
  | .key _ =>
    match reconciled with
    | .error _ => queue.addRateLimited obj q
    | .ok result =>
      if 0 < result.requeueAfter then queue.addAfter obj (queue.forget obj q)
      else if result.requeue then queue.addRateLimited obj q
      else queue.forget obj q

def repeats : QueueItem Request → Except String ReconcileResult → Bool
  | .other _, _ => false
  | .key _, .error _ => true
  | .key _, .ok result => decide (0 < result.requeueAfter) || result.requeue

def reaction (queue : WorkQueue (QueueItem Request) Q) :
    WorkQueue.Reaction (QueueItem Request) (Except String ReconcileResult) Q :=
  ⟨reconcileHandler queue, repeats⟩

variable {queue : WorkQueue (QueueItem Request) Q} {held : Q → Finset (QueueItem Request)}
  {owed : Q → QueueItem Request → Prop}

theorem reaction_sound (laws : queue.Laws held owed) : (reaction queue).Sound queue held owed := by
  intro obj reconciled q
  dsimp only [reaction, reconcileHandler]
  split
  · exact ⟨laws.forget .., fun _ hRepeats => by simp [repeats] at hRepeats⟩
  next k =>
    split
    · obtain ⟨hFramed, hOwed⟩ := laws.addRateLimited (.key k) q
      exact ⟨hFramed, fun hUp _ => hOwed hUp⟩
    next result =>
      split_ifs with hAfter hRequeue
      · obtain ⟨hFramed, hOwed⟩ := laws.addAfter (.key k) (queue.forget (.key k) q)
        have hForget := laws.forget (.key k) q
        exact ⟨hForget.trans hFramed, fun hUp _ => hOwed (hForget.shuttingDown.trans hUp)⟩
      · obtain ⟨hFramed, hOwed⟩ := laws.addRateLimited (.key k) q
        exact ⟨hFramed, fun hUp _ => hOwed hUp⟩
      · exact ⟨laws.forget .., fun _ hRepeats => by simp [repeats, hAfter, hRequeue] at hRepeats⟩

/-- On any queue that keeps the laws, in every run: a request is handed out exactly
while a worker has it, to one worker at a time, and one that has changed, or whose
pass is to be repeated, since a pass over it last began will be handed out. -/
theorem simpleController_serves {ω : Type*} [DecidableEq ω] (laws : queue.Laws held owed)
    (events : List (WorkQueue.Event (QueueItem Request) ω (Except String ReconcileResult))) :
    (Runs.run (WorkQueue.Workers.step queue (reaction queue)) { q := queue.new } events).Sound
      queue held owed :=
  WorkQueue.Workers.sound_run laws (reaction_sound laws) events

theorem plain_serves_failed_pass :
    (Runs.run (WorkQueue.Workers.step WorkQueue.plain (reaction WorkQueue.plain))
      ({ q := WorkQueue.plain.new } : WorkQueue.Workers _ (Fin 2) _)
      [.change (.key ⟨"ns", "a"⟩), .get 0, .react 0 (.error "e"), .done 0, .get 1]).Sound
      WorkQueue.plain WorkQueue.Plain.held fun q k => k ∈ q.queue :=
  simpleController_serves WorkQueue.plain_laws _

end SimpleController

namespace SyncLoop

def processNextItem (queue : WorkQueue (QueueItem String) Q) (key : QueueItem String) (err : Option String)
    (q : Q) : Q :=
  match key with
  | .other _ => q
  | .key _ =>
    match err with
    | none => queue.forget key q
    | some _ => if 5 < queue.numRequeues key q then queue.addAfter key q else queue.addRateLimited key q

def repeats : QueueItem String → Option String → Bool
  | .other _, _ => false
  | .key _, err => err.isSome

def reaction (queue : WorkQueue (QueueItem String) Q) :
    WorkQueue.Reaction (QueueItem String) (Option String) Q :=
  ⟨processNextItem queue, repeats⟩

variable {queue : WorkQueue (QueueItem String) Q} {held : Q → Finset (QueueItem String)}
  {owed : Q → QueueItem String → Prop}

theorem reaction_sound (laws : queue.Laws held owed) : (reaction queue).Sound queue held owed := by
  intro key err q
  dsimp only [reaction, processNextItem]
  split
  · exact ⟨.refl q, fun _ hRepeats => by simp [repeats] at hRepeats⟩
  next k =>
    split
    · exact ⟨laws.forget .., fun _ hRepeats => by simp [repeats] at hRepeats⟩
    · split_ifs
      · obtain ⟨hFramed, hOwed⟩ := laws.addAfter (.key k) q
        exact ⟨hFramed, fun hUp _ => hOwed hUp⟩
      · obtain ⟨hFramed, hOwed⟩ := laws.addRateLimited (.key k) q
        exact ⟨hFramed, fun hUp _ => hOwed hUp⟩

end SyncLoop

end

end Liteio
