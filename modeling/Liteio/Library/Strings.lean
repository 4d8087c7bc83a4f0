import Mathlib.Data.List.Basic

/-! # Cutting texts at a separator

A text is a list of characters. `splitN` cuts at the first separators and leaves
the rest of the text in its last piece, separators included; `trim` drops one
character from both ends.
-/

namespace Liteio.Strings

variable {α : Type*} [DecidableEq α]

def cut (sep : α) : List α → Option (List α × List α)
  | [] => none
  | c :: text =>
    if c = sep then some ([], text)
    else (cut sep text).map fun (before, after) => (c :: before, after)

def splitN (sep : α) : ℕ → List α → List (List α)
  | 0, _ => []
  | 1, text => [text]
  | n + 2, text =>
    match cut sep text with
    | none => [text]
    | some (before, after) => before :: splitN sep (n + 1) after

def trim (c : α) (text : List α) : List α :=
  ((text.dropWhile (· = c)).reverse.dropWhile (· = c)).reverse

theorem cut_eq_some_iff {sep : α} {text before after : List α} :
    cut sep text = some (before, after) ↔ sep ∉ before ∧ text = before ++ sep :: after := by
  induction text generalizing before with
  | nil => simp [cut]
  | cons c text ih =>
    rw [cut]
    split
    · rename_i hSep
      subst hSep
      cases before with
      | nil => simp
      | cons b before =>
        constructor
        · intro h
          cases h
        · rintro ⟨hNot, hText⟩
          cases hText
          exact absurd List.mem_cons_self hNot
    · rename_i hSep
      rw [Option.map_eq_some_iff]
      constructor
      · rintro ⟨⟨found, rest⟩, hFound, hEq⟩
        cases hEq
        obtain ⟨hNot, rfl⟩ := ih.mp hFound
        exact ⟨by simp [hNot, Ne.symm hSep], rfl⟩
      · rintro ⟨hNot, hText⟩
        cases before with
        | nil =>
          cases hText
          exact absurd rfl hSep
        | cons b before =>
          cases hText
          exact ⟨(before, after), ih.mpr ⟨fun h => hNot (List.mem_cons_of_mem _ h), rfl⟩, rfl⟩

theorem splitN_three_eq_iff {sep : α} {text first second third : List α} :
    splitN sep 3 text = [first, second, third] ↔
      sep ∉ first ∧ sep ∉ second ∧ text = first ++ sep :: (second ++ sep :: third) := by
  have hTwo : ∀ rest, splitN sep 2 rest = [second, third] ↔ sep ∉ second ∧ rest = second ++ sep :: third := by
    intro rest
    rw [← cut_eq_some_iff, splitN]
    cases hCut : cut sep rest with
    | none => simp
    | some pieces => simp [splitN, Prod.ext_iff]
  rw [splitN]
  cases hCut : cut sep text with
  | none =>
    refine iff_of_false (by simp) ?_
    rintro ⟨hFirst, -, hText⟩
    rw [cut_eq_some_iff.mpr ⟨hFirst, hText⟩] at hCut
    cases hCut
  | some pieces =>
    obtain ⟨before, after⟩ := pieces
    have hPieces : before :: splitN sep 2 after = [first, second, third] ↔
        cut sep text = some (first, after) ∧ splitN sep 2 after = [second, third] := by
      rw [hCut]
      simp
    refine hPieces.trans ?_
    rw [cut_eq_some_iff, hTwo, and_assoc]
    refine and_congr_right fun hFirst => ?_
    constructor
    · rintro ⟨hText, hSecond, rfl⟩
      exact ⟨hSecond, hText⟩
    · rintro ⟨hSecond, hText⟩
      have hAfter := hCut.symm.trans (cut_eq_some_iff.mpr ⟨hFirst, hText⟩)
      cases hAfter
      exact ⟨hText, hSecond, rfl⟩

example : splitN '.' 3 "ob.c1.z1.x".toList = ["ob".toList, "c1".toList, "z1.x".toList] := by decide

end Liteio.Strings
