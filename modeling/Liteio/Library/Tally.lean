import Liteio.Library.FiniteMap
import Mathlib.Algebra.Order.BigOperators.Group.List
import Mathlib.Algebra.Order.Ring.Nat
import Mathlib.Data.List.Induction

/-! # Tables filled by a loop

A loop that reads the entry under the key of each item, or a default when there
is none, and writes it back changed. Under a key it leaves what the items of
this key make of the entry, whatever stands between them.
-/

namespace Liteio.Tally

variable {ι κ α : Type}

theorem map_eq_map_iff {s : Multiset κ} {f g : κ → α} (index : α → κ) (hf : ∀ k ∈ s, index (f k) = k)
    (hg : ∀ k ∈ s, index (g k) = k) : s.map f = s.map g ↔ ∀ k ∈ s, f k = g k := by
  constructor
  · intro h k hk
    have hMem : f k ∈ s.map g := h ▸ Multiset.mem_map_of_mem f hk
    obtain ⟨other, hOther, hSame⟩ := Multiset.mem_map.mp hMem
    have hIndex : other = k := by rw [← hg other hOther, hSame, hf k hk]
    rw [← hSame, hIndex]
  · exact Multiset.map_congr rfl

theorem last_eq_sum_iff (terms : List ℕ) :
    terms.getLast?.getD 0 = terms.sum ↔ terms.Pairwise fun earlier _ => earlier = 0 := by
  induction terms using List.reverseRecOn with
  | nil => simp
  | append_singleton terms last _ =>
    have hPairwise : (∀ term ∈ terms, term = 0) → terms.Pairwise fun earlier _ => earlier = 0 := by
      intro h
      exact List.Pairwise.imp_of_mem (fun hMem _ _ => h _ hMem) (List.pairwise_of_forall fun _ _ => trivial)
    rw [List.getLast?_concat, Option.getD_some, List.sum_append, List.sum_singleton, right_eq_add,
      List.sum_eq_zero_iff, List.pairwise_append]
    constructor
    · intro h
      exact ⟨hPairwise h, List.pairwise_singleton _ _, fun term hTerm _ _ => h term hTerm⟩
    · rintro ⟨_, _, h⟩ term hTerm
      exact h term hTerm last (List.mem_singleton_self last)

variable [DecidableEq κ] (key : ι → κ) (add : α → ι → α) (zero : α)

def record (table : FiniteMap κ α) (item : ι) : FiniteMap κ α :=
  table.insert (key item) (add ((table.lookup (key item)).getD zero) item)

def tally (items : List ι) : FiniteMap κ α := items.foldl (record key add zero) ∅

theorem lookup_record (table : FiniteMap κ α) (item : ι) (k : κ) : (record key add zero table item).lookup k =
    if k = key item then some (add ((table.lookup k).getD zero) item) else table.lookup k := by
  rw [record, FiniteMap.lookup_insert_eq]
  split
  · rename_i hKey
    rw [hKey]
  · rfl

theorem tally_concat (items : List ι) (item : ι) :
    tally key add zero (items ++ [item]) = record key add zero (tally key add zero items) item :=
  List.foldl_concat _ _ _ _

theorem mem_keys_tally (items : List ι) (k : κ) :
    k ∈ (tally key add zero items).keys ↔ ∃ item ∈ items, key item = k := by
  rw [Finmap.mem_keys, ← Finmap.lookup_isSome]
  induction items using List.reverseRecOn with
  | nil => simp [tally]
  | append_singleton items item ih =>
    rw [tally_concat, lookup_record]
    by_cases hKey : k = key item
    · simp [hKey]
    · rw [if_neg hKey, ih]
      simp [Ne.symm hKey]

theorem lookup_tally (items : List ι) (k : κ) : ((tally key add zero items).lookup k).getD zero =
    (items.filter fun item => key item = k).foldl add zero := by
  induction items using List.reverseRecOn with
  | nil => simp [tally]
  | append_singleton items item ih =>
    rw [tally_concat, lookup_record, List.filter_append, List.foldl_append, ← ih]
    by_cases hKey : k = key item
    · simp [hKey]
    · simp [hKey, Ne.symm hKey]

theorem values_tally (items : List ι) : (tally key add zero items).values =
    (items.map key).toFinset.val.map fun k => (items.filter fun item => key item = k).foldl add zero := by
  have hKeys : (items.map key).toFinset = (tally key add zero items).keys := by
    ext k
    rw [mem_keys_tally]
    simp
  rw [hKeys]
  apply FiniteMap.values_eq_map_keys
  intro k value hValue
  rw [← lookup_tally, hValue]
  rfl

end Liteio.Tally
