import Mathlib.Data.List.Sort

/-! # A sort that need not be stable

A sorting routine is known only by its contract: the result is a permutation of
the input in which nothing stands before an element strictly less than it. How
equal elements are ordered is left open, as for a sort that is not stable.
-/

namespace Liteio

structure Sorter {α : Type*} (less : α → α → Bool) where
  sort : List α → List α
  perm : ∀ l, (sort l).Perm l
  sorted : ∀ l, (sort l).Pairwise fun a b => less b a = false

namespace Sorter

variable {α : Type*} {less : α → α → Bool}

theorem mem_sort (S : Sorter less) {a : α} {l : List α} : a ∈ S.sort l ↔ a ∈ l := (S.perm l).mem_iff

def insertion (hTrans : ∀ a b c, less b a = false → less c b = false → less c a = false)
    (hTotal : ∀ a b, less b a = false ∨ less a b = false) : Sorter less where
  sort l := l.insertionSort fun a b => less b a = false
  perm l := List.perm_insertionSort _ l
  sorted l := by
    have : Std.Total (fun a b => less b a = false) := ⟨hTotal⟩
    have : IsTrans α (fun a b => less b a = false) := ⟨hTrans⟩
    exact List.pairwise_insertionSort _ l

theorem not_less_head (S : Sorter less) (hIrrefl : ∀ a, less a a = false) {a : α} {l rest : List α}
    (h : S.sort l = a :: rest) : ∀ b ∈ l, less b a = false := by
  have hSorted := S.sorted l
  rw [h, List.pairwise_cons] at hSorted
  intro b hb
  have hMem : b ∈ a :: rest := h ▸ S.mem_sort.mpr hb
  rcases List.mem_cons.mp hMem with rfl | hMem
  · exact hIrrefl b
  · exact hSorted.1 b hMem

def preferring [DecidableEq α] (S : Sorter less) (a : α) : Sorter less where
  sort l := if a ∈ l ∧ ∀ b ∈ l, less b a = false then a :: S.sort (l.erase a) else S.sort l
  perm l := by
    split
    · rename_i h
      exact ((S.perm _).cons a).trans (List.perm_cons_erase h.1).symm
    · exact S.perm l
  sorted l := by
    split
    · rename_i h
      refine List.pairwise_cons.mpr ⟨?_, S.sorted _⟩
      intro b hb
      exact h.2 b (List.mem_of_mem_erase (S.mem_sort.mp hb))
    · exact S.sorted l

theorem sort_preferring [DecidableEq α] (S : Sorter less) {a : α} {l : List α} (ha : a ∈ l)
    (hFirst : ∀ b ∈ l, less b a = false) : (S.preferring a).sort l = a :: S.sort (l.erase a) :=
  if_pos ⟨ha, hFirst⟩

end Sorter

end Liteio
