import Liteio.Library.Runs
import Mathlib.Data.List.Basic

/-! # State made of independent cells

Each action of a sharded system touches at most one cell, its site, and does
there what a function of that cell alone says. A run of the system is then, in
each cell, the run of the actions at that site, and a guard that looks at the
site only holds along the run when it holds along the run of every cell.
-/

namespace Liteio

structure Sharded {σ κ τ α : Type*} (get : σ → κ → τ) (step : σ → α → σ) (site : α → Option κ)
    (cell : κ → τ → α → τ) : Prop where
  at_site : ∀ s a k, site a = some k → get (step s a) k = cell k (get s k) a
  elsewhere : ∀ s a k, site a ≠ some k → get (step s a) k = get s k

namespace Sharded

variable {σ κ τ α : Type*} [DecidableEq κ] {get : σ → κ → τ} {step : σ → α → σ} {site : α → Option κ}
  {cell : κ → τ → α → τ}

theorem get_run (h : Sharded get step site cell) (s : σ) (actions : List α) (k : κ) :
    get (Runs.run step s actions) k =
      Runs.run (cell k) (get s k) (actions.filter fun a => site a = some k) := by
  induction actions generalizing s with
  | nil => rfl
  | cons a actions ih =>
    rw [Runs.run_cons, ih]
    by_cases hSite : site a = some k
    · rw [List.filter_cons_of_pos (by simpa using hSite), Runs.run_cons, h.at_site s a k hSite]
    · rw [List.filter_cons_of_neg (by simpa using hSite), h.elsewhere s a k hSite]

theorem guarded_iff (h : Sharded get step site cell) {guard : σ → α → Prop}
    (atCell : κ → τ → α → Prop)
    (hGuard : ∀ s a, guard s a ↔ ∀ k, site a = some k → atCell k (get s k) a) (s : σ)
    (actions : List α) :
    Runs.Guarded step guard s actions ↔ ∀ k, Runs.Guarded (cell k) (atCell k) (get s k)
      (actions.filter fun a => site a = some k) := by
  induction actions generalizing s with
  | nil => exact ⟨fun _ _ => trivial, fun _ => trivial⟩
  | cons a actions ih =>
    rw [Runs.Guarded, ih, hGuard]
    constructor
    · rintro ⟨hHead, hRest⟩ k
      by_cases hSite : site a = some k
      · rw [List.filter_cons_of_pos (by simpa using hSite)]
        refine ⟨hHead k hSite, ?_⟩
        rw [← h.at_site s a k hSite]
        exact hRest k
      · rw [List.filter_cons_of_neg (by simpa using hSite), ← h.elsewhere s a k hSite]
        exact hRest k
    · intro hAll
      refine ⟨?_, ?_⟩
      · intro k hSite
        have hk := hAll k
        rw [List.filter_cons_of_pos (by simpa using hSite)] at hk
        exact hk.1
      · intro k
        have hk := hAll k
        by_cases hSite : site a = some k
        · rw [List.filter_cons_of_pos (by simpa using hSite)] at hk
          rw [h.at_site s a k hSite]
          exact hk.2
        · rw [List.filter_cons_of_neg (by simpa using hSite)] at hk
          rw [h.elsewhere s a k hSite]
          exact hk

end Sharded

end Liteio
