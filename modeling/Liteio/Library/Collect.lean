import Mathlib.Data.List.Forall2
import Mathlib.Data.List.Induction

/-! # A loop that goes on after an error

The loop fills one place for every item. An item that fails leaves a default in
its place, and its error stands in the one error variable until the next item
overwrites it, so only the last item decides whether an error is returned.
-/

namespace Liteio.Collect

variable {α β ε : Type*}

def collect (default : β) (f : α → Except ε β) (items : List α) : List β × Option ε :=
  items.foldl (fun out item =>
    match f item with
    | .ok x => (out.1 ++ [x], none)
    | .error err => (out.1 ++ [default], some err)) ([], none)

variable {default : β} {f : α → Except ε β}

theorem collect_concat (items : List α) (item : α) :
    collect default f (items ++ [item]) =
      match f item with
      | .ok x => ((collect default f items).1 ++ [x], none)
      | .error err => ((collect default f items).1 ++ [default], some err) := by
  rw [collect, List.foldl_append]
  rfl

theorem collect_fst (items : List α) :
    (collect default f items).1 = items.map fun item => (f item).toOption.getD default := by
  induction items using List.reverseRecOn with
  | nil => rfl
  | append_singleton items item ih =>
    rw [collect_concat, List.map_append, ← ih]
    cases hItem : f item <;> simp [hItem, Except.toOption]

theorem collect_snd_eq_none_iff (items : List α) :
    (collect default f items).2 = none ↔ ∀ item ∈ items.getLast?, ∃ x, f item = .ok x := by
  rcases List.eq_nil_or_concat items with rfl | ⟨items, item, rfl⟩
  · simp [collect]
  · rw [List.concat_eq_append, collect_concat, List.getLast?_concat]
    cases hItem : f item <;> simp [hItem]

theorem forall₂_collect_iff (items : List α) :
    List.Forall₂ (fun item x => f item = .ok x) items (collect default f items).1 ↔
      ∀ item ∈ items, ∃ x, f item = .ok x := by
  rw [collect_fst, List.forall₂_map_right_iff, List.forall₂_same]
  refine forall₂_congr fun item _ => ?_
  cases f item <;> simp [Except.toOption]

/-- Of all items, those the loop sees and those it does not see, each has its result
when no error is returned, exactly if the last one seen fails or nothing is missing. -/
theorem collect_complete_iff (seen unseen : List α) :
    ((collect default f seen).2 = none →
        List.Forall₂ (fun item x => f item = .ok x) (seen ++ unseen) (collect default f seen).1) ↔
      (∃ item ∈ seen.getLast?, ∀ x, f item ≠ .ok x) ∨
        (∀ item ∈ seen, ∃ x, f item = .ok x) ∧ unseen = [] := by
  have hAll : List.Forall₂ (fun item x => f item = .ok x) (seen ++ unseen) (collect default f seen).1 ↔
      (∀ item ∈ seen, ∃ x, f item = .ok x) ∧ unseen = [] := by
    constructor
    · intro h
      have hLength := h.length_eq
      rw [collect_fst, List.length_append, List.length_map] at hLength
      have hUnseen : unseen = [] := List.length_eq_zero_iff.mp (by omega)
      rw [hUnseen, List.append_nil, forall₂_collect_iff] at h
      exact ⟨h, hUnseen⟩
    · rintro ⟨hSeen, rfl⟩
      rw [List.append_nil, forall₂_collect_iff]
      exact hSeen
  rw [hAll, collect_snd_eq_none_iff, imp_iff_not_or]
  push Not
  rfl

end Liteio.Collect
