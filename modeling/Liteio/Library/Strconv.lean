import Mathlib.Data.Int.Notation
import Liteio.Library.MachineInt

/-! # Decimal integers in text

`atoi` reads an optionally signed decimal number. A malformed text gives zero,
and a number outside the range of a 64-bit integer gives the nearest value of
the range; both report the error next to the value, and callers are free to
use the value all the same.
-/

namespace Liteio.Strconv

open MachineInt

inductive NumError where
  | badDigits
  | outOfRange
  deriving DecidableEq, Repr

def digitValue (c : Char) : Option ℕ :=
  if '0' ≤ c ∧ c ≤ '9' then some (c.toNat - '0'.toNat) else none

def parseUint : List Char → ℕ → Except NumError ℕ
  | [], n => .ok n
  | c :: rest, n =>
    match digitValue c with
    | none => .error .badDigits
    | some d => if 2 ^ 64 ≤ 10 * n + d then .error .outOfRange else parseUint rest (10 * n + d)

/-- `ParseUint` in base ten, which takes no sign. -/
def parseUint64 (digits : List Char) : Except NumError ℕ :=
  if digits = [] then .error .badDigits else parseUint digits 0

def parseInt (negative : Bool) (digits : List Char) : ℤ × Option NumError :=
  if digits = [] then (0, some .badDigits)
  else
    match parseUint digits 0 with
    | .error .badDigits => (0, some .badDigits)
    | .error .outOfRange => (if negative then -2 ^ 63 else 2 ^ 63 - 1, some .outOfRange)
    | .ok n =>
      if negative then (if 2 ^ 63 < n then (-2 ^ 63, some .outOfRange) else (-(n : ℤ), none))
      else if 2 ^ 63 ≤ n then (2 ^ 63 - 1, some .outOfRange) else ((n : ℤ), none)

def atoi (text : String) : ℤ × Option NumError :=
  match text.toList with
  | '-' :: digits => parseInt true digits
  | '+' :: digits => parseInt false digits
  | digits => parseInt false digits

def itoa (x : ℤ) : String := x.repr

theorem digitValue_digitChar {d : ℕ} (h : d < 10) : digitValue (Nat.digitChar d) = some d := by
  revert d
  decide

theorem parseUint_toDigits {n : ℕ} (h : n < 2 ^ 64) (rest : List Char) :
    parseUint (Nat.toDigits 10 n ++ rest) 0 = parseUint rest n := by
  induction n using Nat.strong_induction_on generalizing rest with
  | _ n ih =>
    rw [Nat.toDigits_eq_if (by decide)]
    split
    · rename_i hSmall
      rw [List.singleton_append, parseUint, digitValue_digitChar hSmall]
      simp only [Nat.mul_zero, Nat.zero_add]
      rw [if_neg (by omega)]
    · rename_i hLarge
      rw [List.append_assoc, ih (n / 10) (by omega) (by omega), List.singleton_append, parseUint,
        digitValue_digitChar (Nat.mod_lt n (by decide))]
      simp only [Nat.div_add_mod]
      rw [if_neg (by omega)]

theorem parseInt_toDigits {n : ℕ} (h : n < 2 ^ 63) : parseInt false (Nat.toDigits 10 n) = ((n : ℤ), none) := by
  have hParse := parseUint_toDigits (n := n) (by omega) []
  rw [List.append_nil] at hParse
  rw [parseInt, if_neg Nat.toDigits_ne_nil, hParse]
  simp only [parseUint]
  rw [if_neg (by simp), if_neg (by omega)]

theorem atoi_itoa {n : ℕ} (h : n < 2 ^ 63) : atoi (itoa n) = ((n : ℤ), none) := by
  have hDigits : ∀ c ∈ Nat.toDigits 10 n, c.isDigit = true :=
    fun c hc => Nat.isDigit_of_mem_toDigits (by decide) (by decide) hc
  have hList : (itoa n).toList = Nat.toDigits 10 n := String.toList_ofList
  rw [atoi, hList]
  split
  · rename_i digits hMinus
    exact absurd (hDigits '-' (hMinus ▸ List.mem_cons_self)) (by decide)
  · rename_i digits hPlus
    exact absurd (hDigits '+' (hPlus ▸ List.mem_cons_self)) (by decide)
  · exact parseInt_toDigits h

example : atoi "-4096" = (-4096, none) := by decide

example : atoi "9999999999999999999999" = (2 ^ 63 - 1, some .outOfRange) := by decide

end Liteio.Strconv
