import Liteio.Agent.Loops

/-! # Concurrent passes of a plugable reconciler

`PlugableReconciler.Reconcile` with its plugins and its main handler, run by as
many workers as the reconciler is set up with and interleaved between any two
calls of a handler. All passes share one state: the objects behind the client and
what the scheduler keeps. With more than one worker a pass holds the lock of its
resource, so that the passes over a resource come one after another.
-/

namespace Liteio

structure ResourceLocks where
  locks : Finset String := ∅

namespace ResourceLocks

def tryAcquire (l : ResourceLocks) (resourceID : String) : Bool × ResourceLocks :=
  if resourceID ∈ l.locks then (false, l) else (true, { locks := insert resourceID l.locks })

def release (l : ResourceLocks) (resourceID : String) : ResourceLocks := { locks := l.locks.erase resourceID }

end ResourceLocks

structure PluginResult where
  result : ReconcileResult := {}
  error : Option String := none
  break_ : Bool := false

def PluginResult.needBreak (r : PluginResult) : Bool := r.error.isSome || r.break_

/-- A plugin may change the object that the pass shares with the later ones, and
what all passes share. -/
structure Plugin (ob σ : Type*) where
  reconcile : String → ob → σ → ob × σ × PluginResult
  handleDeletion : String → ob → σ → ob × σ

inductive GetError where
  | notFound
  | other (err : String)

structure PlugableReconciler (ob σ : Type*) where
  plugins : List (Plugin ob σ)
  getObject : String → σ → Except GetError ob
  /-- `meta.Accessor`, and whether the deletion timestamp is set. -/
  deleted : ob → Except String Bool
  handleReconcile : String → ob → σ → σ × PluginResult
  handleDeletion : String → ob → σ → σ × PluginResult

namespace PlugableReconciler

abbrev Return := ReconcileResult × Option String

variable {ob σ : Type*} (r : PlugableReconciler ob σ) (resourceID : String)

def returns (handled : σ × PluginResult) : σ × Return := (handled.1, handled.2.result, handled.2.error)

def runPlugins : List (Plugin ob σ) → ob → σ → σ × Return
  | [], obj, t => returns (r.handleReconcile resourceID obj t)
  | plugin :: rest, obj, t =>
    let (obj, t, result) := plugin.reconcile resourceID obj t
    if result.needBreak then (t, result.result, result.error) else runPlugins rest obj t

def runDeletions : List (Plugin ob σ) → ob → σ → σ × Return
  | [], obj, t => returns (r.handleDeletion resourceID obj t)
  | plugin :: rest, obj, t =>
    let (obj, t) := plugin.handleDeletion resourceID obj t
    runDeletions rest obj t

def reconcile (t : σ) : σ × Return :=
  match r.getObject resourceID t with
  | .error .notFound => (t, {}, none)
  | .error (.other err) => (t, {}, some err)
  | .ok obj =>
    match r.deleted obj with
    | .error err => (t, {}, some err)
    | .ok true => r.runDeletions resourceID r.plugins obj t
    | .ok false => r.runPlugins resourceID r.plugins obj t

/-- `requeueAfter` of a pass that did not get the lock: ten seconds. -/
def lockedOut : Return := ({ requeueAfter := 10000000000 }, none)

/-! ## One call at a time -/

inductive Stage (ob σ : Type*) where
  | fetch
  | plugins (obj : ob) (rest : List (Plugin ob σ))
  | deletions (obj : ob) (rest : List (Plugin ob σ))
  | returned (ret : Return)

def fetch (t : σ) : Stage ob σ :=
  match r.getObject resourceID t with
  | .error .notFound => .returned ({}, none)
  | .error (.other err) => .returned ({}, some err)
  | .ok obj =>
    match r.deleted obj with
    | .error err => .returned ({}, some err)
    | .ok true => .deletions obj r.plugins
    | .ok false => .plugins obj r.plugins

def next : Stage ob σ → σ → Stage ob σ × σ
  | .fetch, t => (r.fetch resourceID t, t)
  | .plugins obj [], t =>
    let (t, result) := r.handleReconcile resourceID obj t
    (.returned (result.result, result.error), t)
  | .plugins obj (plugin :: rest), t =>
    let (obj, t, result) := plugin.reconcile resourceID obj t
    if result.needBreak then (.returned (result.result, result.error), t) else (.plugins obj rest, t)
  | .deletions obj [], t =>
    let (t, result) := r.handleDeletion resourceID obj t
    (.returned (result.result, result.error), t)
  | .deletions obj (plugin :: rest), t =>
    let (obj, t) := plugin.handleDeletion resourceID obj t
    (.deletions obj rest, t)
  | .returned ret, t => (.returned ret, t)

def outcome : Stage ob σ → σ → σ × Return
  | .fetch, t => r.reconcile resourceID t
  | .plugins obj rest, t => r.runPlugins resourceID rest obj t
  | .deletions obj rest, t => r.runDeletions resourceID rest obj t
  | .returned ret, t => (t, ret)

def Stage.left (plugins : ℕ) : Stage ob σ → ℕ
  | .fetch => plugins + 2
  | .plugins _ rest | .deletions _ rest => rest.length + 1
  | .returned _ => 0

theorem outcome_fetch (t : σ) : r.outcome resourceID (r.fetch resourceID t) t = r.reconcile resourceID t := by
  unfold fetch reconcile
  cases r.getObject resourceID t with
  | error err => cases err <;> rfl
  | ok obj =>
    dsimp only
    cases r.deleted obj with
    | error err => rfl
    | ok deleted => cases deleted <;> rfl

theorem outcome_next (stage : Stage ob σ) (t : σ) :
    r.outcome resourceID (r.next resourceID stage t).1 (r.next resourceID stage t).2 =
      r.outcome resourceID stage t := by
  cases stage with
  | fetch => exact r.outcome_fetch resourceID t
  | plugins obj rest =>
    cases rest with
    | nil => rfl
    | cons plugin rest =>
      by_cases hBreak : (plugin.reconcile resourceID obj t).2.2.needBreak = true <;>
        simp [next, outcome, runPlugins, hBreak]
  | deletions obj rest => cases rest <;> rfl
  | returned ret => rfl

theorem left_fetch (t : σ) : (r.fetch resourceID t).left r.plugins.length < r.plugins.length + 2 := by
  unfold fetch
  cases r.getObject resourceID t with
  | error err => cases err <;> simp [Stage.left]
  | ok obj =>
    dsimp only
    cases r.deleted obj with
    | error err => simp [Stage.left]
    | ok deleted => cases deleted <;> simp [Stage.left]

theorem left_next {stage : Stage ob σ} (hLeft : 0 < stage.left r.plugins.length) (t : σ) :
    (r.next resourceID stage t).1.left r.plugins.length < stage.left r.plugins.length := by
  cases stage with
  | fetch => exact r.left_fetch resourceID t
  | plugins obj rest =>
    cases rest with
    | nil => simp [next, Stage.left]
    | cons plugin rest =>
      by_cases hBreak : (plugin.reconcile resourceID obj t).2.2.needBreak = true <;>
        simp [next, Stage.left, hBreak]
  | deletions obj rest => cases rest <;> simp [next, Stage.left]
  | returned ret => simp [Stage.left] at hLeft

/-! ## Workers -/

/-- `MaxConcurrentReconciles` as `SetupWithManager` leaves it. -/
def workers (concurrency : ℤ) : ℕ := if concurrency ≤ 0 then 1 else concurrency.toNat

/-- `SetupWithManager` makes the locks only for more than one worker. -/
def locking (n : ℕ) : Bool := decide (1 < n)

inductive Mark where
  | began
  | called
  | returned (ret : Return)
  | refused (ret : Return)

structure Entry (n : ℕ) where
  worker : Fin n
  resourceID : String
  mark : Mark

structure Passes (ob σ : Type*) (n : ℕ) where
  lock : ResourceLocks := {}
  shared : σ
  threads : Fin n → Option (String × Stage ob σ) := fun _ => none
  log : List (Entry n) := []

inductive Move (n : ℕ) where
  | begin (w : Fin n) (resourceID : String)
  | next (w : Fin n)

variable {n : ℕ}

open Function

def Passes.record (s : Passes ob σ n) (w : Fin n) (resourceID : String) (mark : Mark)
    (thread : Option (String × Stage ob σ)) : Passes ob σ n :=
  { s with threads := update s.threads w thread, log := s.log ++ [⟨w, resourceID, mark⟩] }

def begin (s : Passes ob σ n) (w : Fin n) (resourceID : String) : Passes ob σ n :=
  if locking n then
    match s.lock.tryAcquire resourceID with
    | (true, lock) => { s with lock := lock }.record w resourceID .began (some (resourceID, .fetch))
    | (false, _) => s.record w resourceID (.refused lockedOut) none
  else s.record w resourceID .began (some (resourceID, .fetch))

def finish (s : Passes ob σ n) (w : Fin n) (resourceID : String) (ret : Return) : Passes ob σ n :=
  { s with lock := if locking n then s.lock.release resourceID else s.lock }.record w resourceID
    (.returned ret) none

def step (s : Passes ob σ n) : Move n → Passes ob σ n
  | .begin w resourceID =>
    match s.threads w with
    | none => begin s w resourceID
    | some _ => s
  | .next w =>
    match s.threads w with
    | none => s
    | some (resourceID, .returned ret) => finish s w resourceID ret
    | some (resourceID, stage) =>
      let (stage, t) := r.next resourceID stage s.shared
      { s with shared := t }.record w resourceID .called (some (resourceID, stage))

def Passes.owner (s : Passes ob σ n) (w : Fin n) : Option String := (s.threads w).map Prod.fst

/-- Who is in a pass over the resource after one more entry about it, or `none` when
the entry does not belong there: a pass begins when no other is in progress, calls
are made and the end comes from the worker in it, and nobody is refused but while
there is one. -/
def turn : Option (Fin n) → Entry n → Option (Option (Fin n))
  | none, ⟨w, _, .began⟩ => some (some w)
  | some v, ⟨w, _, .called⟩ => if w = v then some (some v) else none
  | some v, ⟨w, _, .returned _⟩ => if w = v then some none else none
  | some v, ⟨_, _, .refused _⟩ => some (some v)
  | _, _ => none

def Passes.entries (s : Passes ob σ n) (resourceID : String) : List (Entry n) :=
  s.log.filter (decide <| Entry.resourceID · = resourceID)

/-- The locks are the resources with a pass in progress, and what is done about a
resource are whole passes one after another, up to the one in progress. -/
structure InTurn (s : Passes ob σ n) : Prop where
  locks : locking n = true → ∀ id, id ∈ s.lock.locks ↔ ∃ w, s.owner w = some id
  turns : ∀ id, ∃ holder, (s.entries id).foldlM turn none = some holder ∧
    ∀ w, holder = some w ↔ s.owner w = some id

/-- A pass in progress that is left alone ends, as `Reconcile` does if it has just
begun. -/
def Completes (s : Passes ob σ n) : Prop :=
  ∀ w id stage, s.threads w = some (id, stage) → ∃ k,
    let s' := Runs.run r.step s (List.replicate k (.next w))
    s'.threads w = none ∧ s'.shared = (r.outcome id stage s.shared).1 ∧
      ⟨w, id, .returned (r.outcome id stage s.shared).2⟩ ∈ s'.log

variable {r} {s : Passes ob σ n} {w : Fin n} {id : String}

theorem owner_record (s : Passes ob σ n) (w : Fin n) (id : String) (mark : Mark)
    (thread : Option (String × Stage ob σ)) :
    (s.record w id mark thread).owner = update s.owner w (thread.map Prod.fst) :=
  funext fun v => apply_update (fun _ => Option.map Prod.fst) s.threads w thread v

/-- Without the locks there is one worker. -/
theorem eq_of_not_locking (hLocking : locking n = false) (w w' : Fin n) : w = w' := by
  have hOne : n ≤ 1 := by simpa [locking] using hLocking
  omega

theorem turns_record (h : InTurn s) {lock : ResourceLocks} {shared : σ} {mark : Mark}
    {thread : Option (String × Stage ob σ)} (hOld : ∀ j, j ≠ id → s.owner w ≠ some j)
    (hNew : ∀ j, j ≠ id → thread.map Prod.fst ≠ some j)
    (hTurn : ∀ holder, (∀ v, holder = some v ↔ s.owner v = some id) → ∃ holder',
      turn holder ⟨w, id, mark⟩ = some holder' ∧
        ∀ v, holder' = some v ↔ update s.owner w (thread.map Prod.fst) v = some id) (j : String) :
    let s' := { s with lock := lock, shared := shared }.record w id mark thread
    ∃ holder, (s'.entries j).foldlM turn none = some holder ∧ ∀ v, holder = some v ↔ s'.owner v = some j := by
  obtain ⟨holder, hFold, hHolder⟩ := h.turns j
  simp only [owner_record]
  by_cases hEq : j = id
  · subst hEq
    obtain ⟨holder', hStep, hOwner⟩ := hTurn holder hHolder
    refine ⟨holder', ?_, hOwner⟩
    change List.foldlM turn none ((s.log ++ [_]).filter _) = _
    rw [List.filter_append, List.foldlM_append]
    change (s.entries j).foldlM turn none >>= _ = _
    rw [hFold]
    simpa using hStep
  · refine ⟨holder, ?_, fun v => ?_⟩
    · change List.foldlM turn none ((s.log ++ [_]).filter _) = _
      rw [List.filter_append, List.filter_singleton, decide_eq_false (Ne.symm hEq), cond_false, List.append_nil]
      exact hFold
    · rw [hHolder]
      by_cases hv : v = w
      · subst hv
        rw [update_self]
        exact iff_of_false (hOld j hEq) (hNew j hEq)
      · rw [update_of_ne hv]
        exact Iff.rfl

theorem InTurn.alone (h : InTurn s) {v v' : Fin n} (hv : s.owner v = some id) (hv' : s.owner v' = some id) :
    v = v' := by
  obtain ⟨holder, -, hHolder⟩ := h.turns id
  exact Option.some.inj (((hHolder v).mpr hv).symm.trans ((hHolder v').mpr hv'))

theorem turns_began (h : InTurn s) (hFree : s.threads w = none) (hNobody : ∀ v, s.owner v ≠ some id)
    (lock : ResourceLocks) (j : String) :
    let s' := { s with lock := lock }.record w id .began (some (id, .fetch))
    ∃ holder, (s'.entries j).foldlM turn none = some holder ∧ ∀ v, holder = some v ↔ s'.owner v = some j := by
  refine turns_record h (by simp [Passes.owner, hFree]) (fun j hj => by simp [Ne.symm hj]) (fun holder hHolder => ?_) j
  have hNone : holder = none := Option.eq_none_iff_forall_ne_some.mpr fun v hv => hNobody v ((hHolder v).mp hv)
  refine ⟨some w, by rw [hNone]; rfl, fun v => ?_⟩
  by_cases hv : v = w
  · simp [hv]
  · rw [update_of_ne hv]
    exact iff_of_false (fun hEq => hv (Option.some.inj hEq).symm) (hNobody v)

theorem InTurn.begin (h : InTurn s) (hFree : s.threads w = none) (id : String) : InTurn (begin s w id) := by
  unfold PlugableReconciler.begin ResourceLocks.tryAcquire
  cases hLocking : locking n with
  | false =>
    refine ⟨by simp [hLocking], turns_began h hFree (fun v hv => ?_) s.lock⟩
    rw [eq_of_not_locking hLocking v w, Passes.owner, hFree] at hv
    simp at hv
  | true =>
    by_cases hMem : id ∈ s.lock.locks
    · -- the pass in progress keeps the resource, and the worker stays without one
      have hSame : update s.owner w none = s.owner := update_eq_self_iff.mpr (by simp [Passes.owner, hFree])
      simp only [hMem, if_true]
      refine ⟨fun hLocking id => ?_, turns_record h (by simp [Passes.owner, hFree]) (by simp) fun holder hHolder => ?_⟩
      · rw [owner_record, Option.map_none, hSame]
        exact h.locks hLocking id
      · obtain ⟨v, hv⟩ := (h.locks hLocking id).mp hMem
        refine ⟨holder, by rw [(hHolder v).mpr hv]; rfl, ?_⟩
        rw [Option.map_none, hSame]
        exact hHolder
    · have hNobody : ∀ v, s.owner v ≠ some id := fun v hv => hMem ((h.locks hLocking id).mpr ⟨v, hv⟩)
      simp only [hMem, if_true, if_false]
      refine ⟨fun _ j => ?_, turns_began h hFree hNobody _⟩
      rw [owner_record]
      exact (Owned.take ⟨h.locks hLocking, fun _ _ _ => h.alone⟩ (by simp [Passes.owner, hFree]) hMem).taken_iff j

theorem InTurn.next (h : InTurn s) {stage stage' : Stage ob σ} (hBusy : s.threads w = some (id, stage)) (t : σ) :
    InTurn ({ s with shared := t }.record w id .called (some (id, stage'))) := by
  have hOwner : s.owner w = some id := by simp [Passes.owner, hBusy]
  have hSame : update s.owner w (some id) = s.owner := update_eq_self_iff.mpr hOwner.symm
  refine ⟨fun hLocking j => ?_, turns_record h (fun j hj => by simp [hOwner, Ne.symm hj])
    (fun j hj => by simp [Ne.symm hj]) fun holder hHolder => ⟨holder, ?_, ?_⟩⟩
  · rw [owner_record]
    change j ∈ s.lock.locks ↔ ∃ v, update s.owner w (some id) v = some j
    rw [hSame]
    exact h.locks hLocking j
  · rw [(hHolder w).mpr hOwner]
    simp [turn]
  · rw [Option.map_some, hSame]
    exact hHolder

theorem InTurn.finish (h : InTurn s) {ret : Return} (hBusy : s.threads w = some (id, .returned ret)) :
    InTurn (finish s w id ret) := by
  have hOwner : s.owner w = some id := by simp [Passes.owner, hBusy]
  refine ⟨fun hLocking j => ?_, turns_record h (fun j hj => by simp [hOwner, Ne.symm hj]) (by simp)
    fun holder hHolder => ⟨none, ?_, fun v => iff_of_false (by simp) ?_⟩⟩
  · rw [PlugableReconciler.finish, owner_record, hLocking]
    exact (Owned.release ⟨h.locks hLocking, fun _ _ _ => h.alone⟩ hOwner).taken_iff j
  · rw [(hHolder w).mpr hOwner]
    simp [turn]
  · by_cases hv : v = w
    · simp [hv]
    · rw [update_of_ne hv]
      exact fun hOther => hv (h.alone hOther hOwner)

theorem InTurn.step (h : InTurn s) (m : Move n) : InTurn (r.step s m) := by
  cases m with
  | begin w id =>
    dsimp only [PlugableReconciler.step]
    split
    next hFree => exact h.begin hFree id
    · exact h
  | next w =>
    dsimp only [PlugableReconciler.step]
    split
    · exact h
    next id ret hBusy => exact h.finish hBusy
    next id stage _ hBusy => exact h.next hBusy _

theorem completes (r : PlugableReconciler ob σ) (s : Passes ob σ n) : Completes r s := by
  intro w id stage hBusy
  -- by the calls that are left of the pass
  induction hLeft : stage.left r.plugins.length using Nat.strong_induction_on generalizing s stage with
  | _ left ih =>
    by_cases hDone : ∃ ret, stage = .returned ret
    · obtain ⟨ret, rfl⟩ := hDone
      refine ⟨1, ?_⟩
      simp [Runs.run, PlugableReconciler.step, hBusy, finish, Passes.record, outcome]
    · have hPos : 0 < stage.left r.plugins.length := by
        cases stage <;> simp [Stage.left] at hDone ⊢
      have hStep : r.step s (.next w) =
          { s with shared := (r.next id stage s.shared).2 }.record w id .called
            (some (id, (r.next id stage s.shared).1)) := by
        dsimp only [PlugableReconciler.step]
        rw [hBusy]
        cases stage with
        | returned ret => exact absurd ⟨ret, rfl⟩ hDone
        | _ => rfl
      have hRest := ih _ (hLeft ▸ r.left_next id hPos s.shared) (r.step s (.next w)) _
        (by rw [hStep]; exact update_self ..) rfl
      have hSame : (r.step s (.next w)).shared = (r.next id stage s.shared).2 := by rw [hStep]; rfl
      rw [hSame, r.outcome_next] at hRest
      obtain ⟨k, hRest⟩ := hRest
      exact ⟨k + 1, hRest⟩

/-- However the passes of the workers interleave, the locks are those of the passes
in progress, what is done about one resource are whole passes one after another, and
a pass that no other disturbs does what `Reconcile` does. -/
theorem passes_in_turn (r : PlugableReconciler ob σ) (concurrency : ℤ) (shared : σ)
    (moves : List (Move (workers concurrency))) :
    let s := Runs.run r.step { shared := shared } moves
    InTurn s ∧ Completes r s := by
  refine ⟨Runs.run_induction ?_ fun s m h => h.step m, completes r _⟩
  exact ⟨fun _ _ => by simp [Passes.owner], fun _ => ⟨none, rfl, by simp [Passes.owner]⟩⟩

end PlugableReconciler

end Liteio
