import Mathlib.Data.Finset.Basic

/-! # Keys and their owners

A set of taken keys kept beside the threads that have taken them: a key is in the
set exactly while a thread has it, and no two threads have the same one.
-/

namespace Liteio

open Function

variable {κ ω : Type*} [DecidableEq κ] [DecidableEq ω]

structure Owned (taken : Finset κ) (owner : ω → Option κ) : Prop where
  taken_iff : ∀ k, k ∈ taken ↔ ∃ w, owner w = some k
  alone : ∀ w w' k, owner w = some k → owner w' = some k → w = w'

namespace Owned

variable {taken : Finset κ} {owner : ω → Option κ} {w : ω} {k : κ}

theorem take (h : Owned taken owner) (hFree : owner w = none) (hNew : k ∉ taken) :
    Owned (insert k taken) (update owner w (some k)) := by
  have hNobody : ∀ v, owner v ≠ some k := fun v hv => hNew ((h.taken_iff k).mpr ⟨v, hv⟩)
  constructor
  · intro j
    rw [Finset.mem_insert, h.taken_iff]
    constructor
    · rintro (rfl | ⟨v, hv⟩)
      · exact ⟨w, update_self ..⟩
      · have hNe : v ≠ w := fun hEq => by simp [hEq, hFree] at hv
        exact ⟨v, by rwa [update_of_ne hNe]⟩
    · rintro ⟨v, hv⟩
      by_cases hEq : v = w
      · rw [hEq, update_self, Option.some.injEq] at hv
        exact .inl hv.symm
      · rw [update_of_ne hEq] at hv
        exact .inr ⟨v, hv⟩
  · intro v v' j hv hv'
    by_cases hEq : v = w <;> by_cases hEq' : v' = w
    · rw [hEq, hEq']
    · rw [hEq, update_self, Option.some.injEq] at hv
      rw [update_of_ne hEq', ← hv] at hv'
      exact absurd hv' (hNobody v')
    · rw [hEq', update_self, Option.some.injEq] at hv'
      rw [update_of_ne hEq, ← hv'] at hv
      exact absurd hv (hNobody v)
    · rw [update_of_ne hEq] at hv
      rw [update_of_ne hEq'] at hv'
      exact h.alone v v' j hv hv'

theorem release (h : Owned taken owner) (hOwner : owner w = some k) :
    Owned (taken.erase k) (update owner w none) := by
  have hKept : ∀ v j, update owner w none v = some j ↔ v ≠ w ∧ owner v = some j := by
    intro v j
    by_cases hEq : v = w
    · simp [hEq]
    · simp [hEq]
  constructor
  · intro j
    simp only [Finset.mem_erase, h.taken_iff, hKept]
    constructor
    · rintro ⟨hNe, v, hv⟩
      refine ⟨v, ?_, hv⟩
      rintro rfl
      exact hNe (Option.some.inj (hv.symm.trans hOwner))
    · rintro ⟨v, hNe, hv⟩
      refine ⟨?_, v, hv⟩
      rintro rfl
      exact hNe (h.alone v w j hv hOwner)
  · intro v v' j hv hv'
    exact h.alone v v' j ((hKept v j).mp hv).2 ((hKept v' j).mp hv').2

end Owned

end Liteio
