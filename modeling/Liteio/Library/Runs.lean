import Mathlib.Logic.Basic

/-! # Runs of a step function

A run applies a list of actions one after another. `Guarded` says that every
action meets its guard in the state it is applied to, and `Always` that every
state passed through, the first and the last included, has a property. The
rules at the end reduce statements about whole runs to statements about one
step.
-/

namespace Liteio.Runs

variable {σ α : Type*} (step : σ → α → σ)

def run (s : σ) (actions : List α) : σ := actions.foldl step s

def Guarded (guard : σ → α → Prop) : σ → List α → Prop
  | _, [] => True
  | s, a :: actions => guard s a ∧ Guarded guard (step s a) actions

def Always (property : σ → Prop) : σ → List α → Prop
  | s, [] => property s
  | s, a :: actions => property s ∧ Always property (step s a) actions

instance Guarded.decidable (guard : σ → α → Prop) [∀ s a, Decidable (guard s a)] :
    ∀ s actions, Decidable (Guarded step guard s actions)
  | _, [] => isTrue trivial
  | s, a :: actions =>
    have := Guarded.decidable guard (step s a) actions
    inferInstanceAs (Decidable (_ ∧ _))

variable {step} {guard : σ → α → Prop} {property base : σ → Prop}

@[simp] theorem run_nil (s : σ) : run step s [] = s := rfl

@[simp] theorem run_cons (s : σ) (a : α) (actions : List α) :
    run step s (a :: actions) = run step (step s a) actions := rfl

theorem run_append (s : σ) (first second : List α) :
    run step s (first ++ second) = run step (run step s first) second :=
  List.foldl_append

theorem run_induction {s : σ} {actions : List α} (h : base s)
    (hStep : ∀ s a, base s → base (step s a)) : base (run step s actions) := by
  induction actions generalizing s with
  | nil => exact h
  | cons a actions ih => exact ih (hStep s a h)

theorem run_of_forall {allowed : α → Prop} {s : σ} {actions : List α} (hActions : ∀ a ∈ actions, allowed a)
    (h : base s) (hStep : ∀ s a, base s → allowed a → base (step s a)) : base (run step s actions) := by
  induction actions generalizing s with
  | nil => exact h
  | cons a actions ih =>
    refine ih (fun b hb => hActions b (List.mem_cons_of_mem a hb)) ?_
    exact hStep s a h (hActions a List.mem_cons_self)

theorem guarded_append {s : σ} {first second : List α} :
    Guarded step guard s (first ++ second) ↔
      Guarded step guard s first ∧ Guarded step guard (run step s first) second := by
  induction first generalizing s with
  | nil => exact (and_iff_right trivial).symm
  | cons a first ih => rw [List.cons_append, Guarded, ih, Guarded, run_cons, and_assoc]

theorem guarded_of_forall {s : σ} {actions : List α} (h : ∀ a ∈ actions, ∀ s, guard s a) :
    Guarded step guard s actions := by
  induction actions generalizing s with
  | nil => trivial
  | cons a actions ih =>
    exact ⟨h a List.mem_cons_self s, ih fun b hb => h b (List.mem_cons_of_mem a hb)⟩

/-- Steps that come nearer to the goal until it is reached, and keep it then. -/
theorem run_reaches {goal : σ → Prop} {rank : σ → Nat} {s : σ} {actions : List α}
    (hGuarded : Guarded step guard s actions) (h : base s) (hRank : goal s ∨ rank s < actions.length)
    (hStep : ∀ s a, base s → guard s a →
      base (step s a) ∧ (goal (step s a) ∨ ¬ goal s ∧ rank (step s a) < rank s)) :
    base (run step s actions) ∧ goal (run step s actions) := by
  induction actions generalizing s with
  | nil => exact ⟨h, hRank.resolve_right (Nat.not_lt_zero _)⟩
  | cons a actions ih =>
    obtain ⟨hBase, hNearer⟩ := hStep s a h hGuarded.1
    refine ih hGuarded.2 hBase ?_
    rcases hNearer with hGoal | ⟨hNot, hLess⟩
    · exact .inl hGoal
    · have hLength := hRank.resolve_left hNot
      rw [List.length_cons] at hLength
      exact .inr (by omega)

theorem guarded_congr {guard' : σ → α → Prop} {s : σ} {actions : List α} (h : ∀ s a, guard s a ↔ guard' s a) :
    Guarded step guard s actions ↔ Guarded step guard' s actions := by
  induction actions generalizing s with
  | nil => rfl
  | cons a actions ih => exact and_congr (h s a) ih

theorem Guarded.always {s : σ} {actions : List α} (hGuarded : Guarded step guard s actions)
    (h : property s) (hStep : ∀ s a, property s → guard s a → property (step s a)) :
    Always step property s actions := by
  induction actions generalizing s with
  | nil => exact h
  | cons a actions ih => exact ⟨h, ih hGuarded.2 (hStep s a h hGuarded.1)⟩

theorem Guarded.imp {weaker : σ → α → Prop} {s : σ} {actions : List α}
    (hGuarded : Guarded step guard s actions) (h : property s)
    (hStep : ∀ s a, property s → guard s a → property (step s a))
    (hWeaker : ∀ s a, property s → guard s a → weaker s a) : Guarded step weaker s actions := by
  induction actions generalizing s with
  | nil => trivial
  | cons a actions ih =>
    exact ⟨hWeaker s a h hGuarded.1, ih hGuarded.2 (hStep s a h hGuarded.1)⟩

theorem Guarded.mono {weaker : σ → α → Prop} {s : σ} {actions : List α}
    (hGuarded : Guarded step guard s actions) (h : ∀ s a, guard s a → weaker s a) :
    Guarded step weaker s actions := by
  induction actions generalizing s with
  | nil => trivial
  | cons a actions ih => exact ⟨h s a hGuarded.1, ih hGuarded.2⟩

theorem Always.run {s : σ} {actions : List α} (h : Always step property s actions) :
    property (Runs.run step s actions) := by
  induction actions generalizing s with
  | nil => exact h
  | cons a actions ih => exact ih h.2

theorem Always.head {s : σ} {actions : List α} (h : Always step property s actions) :
    property s := by
  cases actions with
  | nil => exact h
  | cons a actions => exact h.1

theorem Always.mono {s : σ} {actions : List α} {weaker : σ → Prop}
    (h : Always step property s actions) (hWeaker : ∀ s, property s → weaker s) :
    Always step weaker s actions := by
  induction actions generalizing s with
  | nil => exact hWeaker s h
  | cons a actions ih => exact ⟨hWeaker s h.1, ih h.2⟩

/-- The exact guard: where one step keeps the property precisely when it meets
its guard, a whole run keeps it precisely when all its steps do. -/
theorem always_iff_guarded {s : σ} {actions : List α} (hBase : base s) (h : property s)
    (hBaseStep : ∀ s a, base s → base (step s a))
    (hStep : ∀ s a, base s → property s → (property (step s a) ↔ guard s a)) :
    Always step property s actions ↔ Guarded step guard s actions := by
  induction actions generalizing s with
  | nil => exact ⟨fun _ => trivial, fun _ => h⟩
  | cons a actions ih =>
    constructor
    · rintro ⟨_, hRest⟩
      have hNext := hRest.head
      exact ⟨(hStep s a hBase h).mp hNext, (ih (hBaseStep s a hBase) hNext).mp hRest⟩
    · rintro ⟨hGuard, hRest⟩
      have hNext := (hStep s a hBase h).mpr hGuard
      exact ⟨h, (ih (hBaseStep s a hBase) hNext).mpr hRest⟩

/-- A property that is kept by the steps that meet their guard and lost for good
at any other holds in the end exactly when it did at first and no step missed its
guard. -/
theorem run_iff_guarded {s : σ} {actions : List α} (hBase : base s)
    (hBaseStep : ∀ s a, base s → base (step s a))
    (hStep : ∀ s a, base s → (property (step s a) ↔ property s ∧ guard s a)) :
    property (run step s actions) ↔ property s ∧ Guarded step guard s actions := by
  induction actions generalizing s with
  | nil => exact (and_iff_left trivial).symm
  | cons a actions ih => rw [run_cons, ih (hBaseStep s a hBase), hStep s a hBase, and_assoc, Guarded]

end Liteio.Runs
