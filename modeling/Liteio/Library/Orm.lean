import Mathlib.Data.Fintype.Basic
import Mathlib.Data.List.Basic

/-! # Rows under an object-relational mapper

A row gives each column a value. An update is told the columns it sets, the bean
it takes their values from and a condition, itself a bean, of which the fields
that are not zero count. It leaves the other rows, and the other columns of the
rows it meets.
-/

namespace Liteio.Orm

inductive Value where
  | text (s : String)
  | int (n : ℤ)
  deriving DecidableEq

def Value.zero : Value → Value
  | .text _ => .text ""
  | .int _ => .int 0

abbrev Row (κ : Type) := κ → Value

variable {κ : Type} [DecidableEq κ]

def set (row : Row κ) (col : κ) (value : Value) : Row κ := Function.update row col value

def only (cols : List κ) (bean : Row κ) : Row κ := fun c => if c ∈ cols then bean c else (bean c).zero

def Matches (cond row : Row κ) : Prop := ∀ c, cond c ≠ (cond c).zero → row c = cond c

instance [Fintype κ] (cond row : Row κ) : Decidable (Matches cond row) :=
  inferInstanceAs (Decidable (∀ c, cond c ≠ (cond c).zero → row c = cond c))

def overwrite (cols : List κ) (bean row : Row κ) : Row κ := fun c => if c ∈ cols then bean c else row c

def update [Fintype κ] (cols : List κ) (bean cond : Row κ) (rows : List (Row κ)) : List (Row κ) :=
  rows.map fun row => if Matches cond row then overwrite cols bean row else row

def nextID (id : κ) (rows : List (Row κ)) : ℤ :=
  rows.foldl (fun next row => match row id with
    | .int n => max next (n + 1)
    | .text _ => next) 1

def insertOne (id : κ) (bean : Row κ) (rows : List (Row κ)) : List (Row κ) :=
  rows ++ [set bean id (.int (nextID id rows))]

variable {cols : List κ} {bean cond row : Row κ} {rows : List (Row κ)}

theorem set_self (row : Row κ) (col : κ) (value : Value) : set row col value col = value :=
  Function.update_self ..

theorem set_of_ne {col other : κ} (h : other ≠ col) (row : Row κ) (value : Value) :
    set row col value other = row other :=
  Function.update_of_ne h ..

theorem overwrite_of_mem {c : κ} (h : c ∈ cols) : overwrite cols bean row c = bean c := if_pos h

theorem overwrite_of_notMem {c : κ} (h : c ∉ cols) : overwrite cols bean row c = row c := if_neg h

theorem overwrite_eq_self_iff : overwrite cols bean row = row ↔ ∀ c ∈ cols, row c = bean c := by
  constructor
  · intro h c hMem
    exact (congrFun h c).symm.trans (overwrite_of_mem hMem)
  · intro h
    funext c
    by_cases hMem : c ∈ cols
    · rw [overwrite_of_mem hMem, h c hMem]
    · exact overwrite_of_notMem hMem

/-- A row meets the condition made of some fields of a bean if it has those of
them that are not zero. -/
theorem matches_only_iff :
    Matches (only cols bean) row ↔ ∀ c ∈ cols, bean c ≠ (bean c).zero → row c = bean c := by
  constructor
  · intro h c hMem hZero
    have hRow := h c
    rw [only, if_pos hMem] at hRow
    exact hRow hZero
  · intro h c hZero
    by_cases hMem : c ∈ cols
    · rw [only, if_pos hMem] at hZero ⊢
      exact h c hMem hZero
    · rw [only, if_neg hMem] at hZero
      cases hValue : bean c <;> simp [hValue, Value.zero] at hZero

section

variable [Fintype κ]

/-- A test that does not depend on the columns set passes after an update where
it did before. -/
theorem forall_mem_update {test : Row κ → Prop} (hTest : ∀ row, test (overwrite cols bean row) ↔ test row) :
    (∀ row ∈ update cols bean cond rows, test row) ↔ ∀ row ∈ rows, test row := by
  rw [update, List.forall_mem_map]
  refine forall₂_congr fun row _ => ?_
  split
  · exact hTest row
  · rfl

/-- The rows that a test picks stay exactly if those that meet the condition have
the values of the bean already; the test does not depend on what is set. -/
theorem filter_update_iff {keep : Row κ → Bool} (hKeep : ∀ row, keep (overwrite cols bean row) = keep row) :
    (update cols bean cond rows).filter keep = rows.filter keep ↔
      ∀ row ∈ rows, keep row = true → Matches cond row → ∀ c ∈ cols, row c = bean c := by
  simp only [← overwrite_eq_self_iff]
  induction rows with
  | nil => simp [update]
  | cons row rows ih =>
    have hSame : keep (if Matches cond row then overwrite cols bean row else row) = keep row := by
      split
      · exact hKeep row
      · rfl
    rw [update, List.map_cons, List.filter_cons, List.filter_cons, hSame, List.forall_mem_cons, ← ih]
    split
    · rename_i hTest
      rw [List.cons.injEq]
      refine and_congr_left' ?_
      constructor
      · intro hEq _ hMatches
        rwa [if_pos hMatches] at hEq
      · intro hEq
        split
        · exact hEq hTest (by assumption)
        · rfl
    · rename_i hTest
      simp [hTest, update]

end

end Liteio.Orm
