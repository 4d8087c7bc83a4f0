import Liteio.Library.Runs
import Mathlib.Data.Finset.Max
import Mathlib.Data.Fintype.Card

/-! # Tasks that steps do

A finite set of tasks, each done in a state or not. A step that keeps what is done
and does one task more brings the run nearer to its goal; so as many steps as there
are tasks, and one, reach a goal that only undone tasks keep away.

Tasks may also be done by different processes and one after another: a step of the
process whose task it is does the task once all earlier ones are done. A turn has a
step of every process, in any order, and as many turns as tasks are left do them all.
-/

namespace Liteio.Tasks

variable {σ α T : Type*} (done : σ → T → Prop)

def Keeps (s s' : σ) : Prop := ∀ t, done s t → done s' t

def Does (s s' : σ) : Prop := Keeps done s s' ∧ ∃ t, ¬ done s t ∧ done s' t

variable {done} {s s' s'' : σ}

theorem Keeps.refl (s : σ) : Keeps done s s := fun _ h => h

theorem Keeps.trans (h : Keeps done s s') (h' : Keeps done s' s'') : Keeps done s s'' :=
  fun t hDone => h' t (h t hDone)

theorem Keeps.does {t : T} (h : Keeps done s s') (hOld : ¬ done s t) (hNew : done s' t) : Does done s s' :=
  ⟨h, t, hOld, hNew⟩

theorem Does.keeps (h : Does done s s') : Keeps done s s' := h.1

theorem Does.trans_keeps (h : Does done s s') (h' : Keeps done s' s'') : Does done s s'' := by
  obtain ⟨hKeeps, t, hOld, hNew⟩ := h
  exact ⟨hKeeps.trans h', t, hOld, h' t hNew⟩

variable [Fintype T]

open Classical in
variable (done) in
noncomputable def left (s : σ) : ℕ := (Finset.univ.filter fun t => ¬ done s t).card

theorem left_le (s : σ) : left done s ≤ Fintype.card T := Finset.card_le_univ _

theorem Does.left_lt (h : Does done s s') : left done s' < left done s := by
  classical
  obtain ⟨hKeeps, t, hOld, hNew⟩ := h
  refine Finset.card_lt_card (Finset.ssubset_iff_of_subset ?_ |>.mpr ⟨t, ?_, ?_⟩)
  · intro t ht
    rw [Finset.mem_filter_univ] at ht ⊢
    exact fun hDone => ht (hKeeps t hDone)
  · rw [Finset.mem_filter_univ]
    exact hOld
  · rw [Finset.mem_filter_univ]
    exact fun hNot => hNot hNew

variable (done) in
theorem run_completes {step : σ → α → σ} {guard : σ → α → Prop} {base goal : σ → Prop} {actions : List α}
    (hGuarded : Runs.Guarded step guard s actions) (h : base s) (hLength : Fintype.card T < actions.length)
    (hStep : ∀ s a, base s → guard s a →
      base (step s a) ∧ (goal (step s a) ∨ ¬ goal s ∧ Does done s (step s a))) :
    base (Runs.run step s actions) ∧ goal (Runs.run step s actions) := by
  have hLeft : left done s < actions.length := lt_of_le_of_lt (left_le s) hLength
  refine Runs.run_reaches hGuarded h (.inr hLeft) fun s a h hGuard => ?_
  obtain ⟨hBase, hGoal | ⟨hNot, hDoes⟩⟩ := hStep s a h hGuard
  · exact ⟨hBase, .inl hGoal⟩
  · exact ⟨hBase, .inr ⟨hNot, hDoes.left_lt⟩⟩

theorem left_eq_zero_iff : left done s = 0 ↔ ∀ t, done s t := by
  classical
  rw [left, Finset.card_eq_zero, Finset.filter_eq_empty_iff]
  exact ⟨fun h t => not_not.mp (h (Finset.mem_univ t)), fun h t _ => not_not.mpr (h t)⟩

section turns

variable {step : σ → α → σ} {guard : σ → α → Prop} {base : σ → Prop}

structure Serves (done : σ → T → Prop) (step : σ → α → σ) (guard : σ → α → Prop) (base : σ → Prop)
    (order : T → ℕ) (mine : T → α → Prop) : Prop where
  invariant : ∀ s a, base s → guard s a → base (step s a)
  keeps : ∀ s a, base s → guard s a → Keeps done s (step s a)
  does : ∀ s a t, base s → guard s a → mine t a → (∀ u, order u < order t → done s u) → done (step s a) t

variable {order : T → ℕ} {mine : T → α → Prop} {actions : List α} {turns : List (List α)}
  (hServes : Serves done step guard base order mine) (h : base s)

include hServes h

omit [Fintype T] in
theorem Serves.run_keeps (hGuarded : Runs.Guarded step guard s actions) :
    base (Runs.run step s actions) ∧ Keeps done s (Runs.run step s actions) := by
  induction actions generalizing s with
  | nil => exact ⟨h, .refl s⟩
  | cons a actions ih =>
    obtain ⟨hBase, hKeeps⟩ := ih (hServes.invariant s a h hGuarded.1) hGuarded.2
    exact ⟨hBase, (hServes.keeps s a h hGuarded.1).trans hKeeps⟩

omit [Fintype T] in
theorem Serves.run_does (hGuarded : Runs.Guarded step guard s actions) {t : T} (hMine : ∃ a ∈ actions, mine t a)
    (hEarlier : ∀ u, order u < order t → done s u) : done (Runs.run step s actions) t := by
  induction actions generalizing s with
  | nil =>
    obtain ⟨_, hMem, _⟩ := hMine
    exact absurd hMem List.not_mem_nil
  | cons a actions ih =>
    have hBase := hServes.invariant s a h hGuarded.1
    obtain ⟨b, hMem, hb⟩ := hMine
    rcases List.mem_cons.mp hMem with rfl | hMem
    · exact (hServes.run_keeps hBase hGuarded.2).2 t (hServes.does s b t h hGuarded.1 hb hEarlier)
    · exact ih hBase hGuarded.2 ⟨b, hMem, hb⟩ fun u hu => hServes.keeps s a h hGuarded.1 u (hEarlier u hu)

theorem Serves.turn_left (hGuarded : Runs.Guarded step guard s actions) (hTurn : ∀ t, ∃ a ∈ actions, mine t a) :
    left done (Runs.run step s actions) ≤ left done s - 1 := by
  classical
  have hKeeps := (hServes.run_keeps h hGuarded).2
  by_cases hAll : ∀ t, done s t
  · have hStill : left done (Runs.run step s actions) = 0 := left_eq_zero_iff.mpr fun t => hKeeps t (hAll t)
    omega
  · obtain ⟨t₀, ht₀⟩ := not_forall.mp hAll
    have hNonempty : (Finset.univ.filter fun t => ¬ done s t).Nonempty :=
      ⟨t₀, (Finset.mem_filter_univ t₀).mpr ht₀⟩
    obtain ⟨t, ht, hFirst⟩ := Finset.exists_min_image _ order hNonempty
    have hEarlier : ∀ u, order u < order t → done s u := by
      intro u hu
      by_contra hNot
      have := hFirst u ((Finset.mem_filter_univ u).mpr hNot)
      omega
    have hDone := hServes.run_does h hGuarded (hTurn t) hEarlier
    have := (hKeeps.does ((Finset.mem_filter_univ t).mp ht) hDone).left_lt
    omega

theorem Serves.run_turns (hGuarded : Runs.Guarded step guard s turns.flatten)
    (hTurns : ∀ turn ∈ turns, ∀ t, ∃ a ∈ turn, mine t a) (hLeft : left done s ≤ turns.length) :
    base (Runs.run step s turns.flatten) ∧ ∀ t, done (Runs.run step s turns.flatten) t := by
  induction turns generalizing s with
  | nil => exact ⟨h, left_eq_zero_iff.mp (Nat.le_zero.mp hLeft)⟩
  | cons turn turns ih =>
    rw [List.flatten_cons] at hGuarded ⊢
    rw [Runs.run_append]
    obtain ⟨hFirst, hRest⟩ := Runs.guarded_append.mp hGuarded
    have hTurn := hServes.turn_left h hFirst (hTurns turn List.mem_cons_self)
    rw [List.length_cons] at hLeft
    exact ih (hServes.run_keeps h hFirst).1 hRest (fun later hMem => hTurns later (List.mem_cons_of_mem _ hMem))
      (by omega)

end turns

end Liteio.Tasks
