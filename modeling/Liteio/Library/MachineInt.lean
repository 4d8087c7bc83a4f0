import Mathlib.Algebra.BigOperators.Group.Multiset.Basic
import Mathlib.Algebra.Order.Ring.Rat
import Mathlib.Data.Rat.Floor

/-! # Two's-complement integers over the integers

A 64-bit machine integer is read as an integer, and every place where the
machine wraps is an explicit reduction. The reductions are ring congruences,
so a whole loop of wrapped additions is one reduction of the exact sum; the
order of the summands is irrelevant.
-/

namespace Liteio.MachineInt

def int64 (x : ℤ) : ℤ := x.bmod (2 ^ 64)

def uint64 (x : ℤ) : ℕ := (x % 2 ^ 64).toNat

def InInt64 (x : ℤ) : Prop := -2 ^ 63 ≤ x ∧ x < 2 ^ 63

instance (x : ℤ) : Decidable (InInt64 x) := inferInstanceAs (Decidable (_ ∧ _))

theorem int64_of_inInt64 {x : ℤ} (h : InInt64 x) : int64 x = x := by
  obtain ⟨hLower, hUpper⟩ := h
  exact Int.bmod_eq_of_le (by norm_num; omega) (by norm_num; omega)

theorem int64_inInt64 (x : ℤ) : InInt64 (int64 x) := by
  have hLower := Int.le_bmod (x := x) (m := 2 ^ 64) (by norm_num)
  have hUpper := Int.bmod_lt (x := x) (m := 2 ^ 64) (by norm_num)
  norm_num at hLower hUpper
  exact ⟨by simpa [int64] using hLower, by simpa [int64] using hUpper⟩

theorem int64_of_nonneg_of_le {x bound : ℤ} (hNonneg : 0 ≤ x) (hLe : x ≤ bound)
    (hBound : bound < 2 ^ 63) : int64 x = x :=
  int64_of_inInt64 ⟨by omega, by omega⟩

theorem int64_le_of_nonneg {x : ℤ} (h : 0 ≤ x) : int64 x ≤ x := by
  by_cases hRange : InInt64 x
  · rw [int64_of_inInt64 hRange]
  · have hUpper := (int64_inInt64 x).2
    rw [InInt64, not_and_or] at hRange
    omega

theorem int64_of_overflow {x : ℤ} (hLower : 2 ^ 63 ≤ x) (hUpper : x < 2 ^ 64) : int64 x = x - 2 ^ 64 := by
  have hSame : int64 (x - 2 ^ 64) = int64 x := Int.sub_bmod_right x (2 ^ 64)
  rw [← hSame]
  exact int64_of_inInt64 ⟨by omega, by omega⟩

@[simp] theorem int64_zero : int64 0 = 0 := by decide

@[simp] theorem int64_add_int64 (x y : ℤ) : int64 (x + int64 y) = int64 (x + y) :=
  Int.add_bmod_bmod

@[simp] theorem int64_int64_add (x y : ℤ) : int64 (int64 x + y) = int64 (x + y) :=
  Int.bmod_add_bmod

@[simp] theorem int64_int64_sub (x y : ℤ) : int64 (int64 x - y) = int64 (x - y) :=
  Int.bmod_sub_bmod

@[simp] theorem int64_sub_int64 (x y : ℤ) : int64 (x - int64 y) = int64 (x - y) :=
  Int.sub_bmod_bmod

@[simp] theorem int64_uint64 (x : ℤ) : int64 (uint64 x) = int64 x := by
  have h : ((uint64 x : ℕ) : ℤ) = x % 2 ^ 64 := Int.toNat_of_nonneg (Int.emod_nonneg _ (by norm_num))
  rw [int64, int64, h]
  exact Int.emod_bmod x (2 ^ 64)

theorem uint64_of_nonneg {x : ℤ} (hNonneg : 0 ≤ x) (h : InInt64 x) : (uint64 x : ℤ) = x := by
  have hUpper := h.2
  rw [uint64]
  omega

def addInt64 (acc x : ℤ) : ℤ := int64 (acc + x)

instance : RightCommutative addInt64 where
  right_comm a b c := by
    unfold addInt64
    rw [int64_int64_add, int64_int64_add, add_right_comm]

@[simp] theorem addInt64_int64 (acc x : ℤ) : addInt64 acc (int64 x) = addInt64 acc x :=
  int64_add_int64 acc x

theorem foldl_addInt64 {α : Type*} (f : α → ℤ) (items : List α) (acc : ℤ) :
    items.foldl (fun acc item => addInt64 acc (f item)) (int64 acc) =
      int64 (acc + (items.map f).sum) := by
  induction items generalizing acc with
  | nil => simp
  | cons item items ih =>
    rw [List.foldl_cons, addInt64, int64_int64_add, ih, List.map_cons, List.sum_cons, add_assoc]

theorem multiset_foldl_addInt64 (items : Multiset ℤ) (acc : ℤ) :
    items.foldl addInt64 (int64 acc) = int64 (acc + items.sum) := by
  induction items using Multiset.induction_on generalizing acc with
  | empty => simp
  | cons item items ih =>
    rw [Multiset.foldl_cons, addInt64, int64_int64_add, ih, Multiset.sum_cons, add_assoc]

/-- Conversion of a floating-point value that is read as a rational: truncation
towards zero, and the indefinite integer outside the range of the target. -/
def ofFloat (x : ℚ) : ℤ :=
  let t := if 0 ≤ x then ⌊x⌋ else ⌈x⌉
  if InInt64 t then t else -2 ^ 63

def roundFloat (x : ℚ) : ℚ :=
  if 0 ≤ x then ⌊x + 1 / 2⌋ else ⌈x - 1 / 2⌉

end Liteio.MachineInt
