import Mathlib.Algebra.BigOperators.Group.Multiset.Basic
import Mathlib.Data.Finmap

/-! # Finite maps as unordered tables

A table keyed by an arbitrary type, with the operations a program performs on
one: lookup, overwriting insertion, deletion, deletion by a test on the key,
and a sum over all values. A missing table reads as an empty one: the first
insertion makes it, and a deletion leaves it missing. Iteration order is not observable, since the values
form a multiset. The last group of lemmas tracks one cell through an update.
-/

namespace Liteio

abbrev FiniteMap (κ α : Type) := Finmap (fun _ : κ => α)

namespace FiniteMap

variable {κ α : Type}

def values (m : FiniteMap κ α) : Multiset α := m.entries.map (fun e => e.2)

def filterKeys (keep : κ → Prop) [DecidablePred keep] (m : FiniteMap κ α) : FiniteMap κ α where
  entries := m.entries.filter (fun e => keep e.1)
  nodupKeys := by
    obtain ⟨entries, hEntries⟩ := m
    induction entries using Quotient.inductionOn with
    | h items => exact List.NodupKeys.sublist List.filter_sublist hEntries

variable [DecidableEq κ]

def find (m : Option (FiniteMap κ α)) (key : κ) : Option α := m.bind (Finmap.lookup key)

theorem lookup_getD (m : Option (FiniteMap κ α)) (key : κ) : (m.getD ∅).lookup key = find m key := by
  cases m <;> rfl

@[simp] theorem find_none (key : κ) : find (none : Option (FiniteMap κ α)) key = none := rfl

@[simp] theorem find_some (m : FiniteMap κ α) (key : κ) : find (some m) key = m.lookup key := rfl

theorem lookup_insert_eq (m : FiniteMap κ α) (key other : κ) (value : α) :
    Finmap.lookup other (m.insert key value) = if other = key then some value else m.lookup other := by
  split
  · rename_i h
    subst h
    exact Finmap.lookup_insert m
  · rename_i h
    exact Finmap.lookup_insert_of_ne m h

def put (m : Option (FiniteMap κ α)) (key : κ) (value : α) : Option (FiniteMap κ α) :=
  some ((m.getD ∅).insert key value)

def drop (m : Option (FiniteMap κ α)) (key : κ) : Option (FiniteMap κ α) :=
  m.map fun entries => entries.erase key

theorem find_put (m : Option (FiniteMap κ α)) (key other : κ) (value : α) :
    find (put m key value) other = if other = key then some value else find m other := by
  rw [put, find_some, lookup_insert_eq, lookup_getD]

@[simp] theorem find_put_self (m : Option (FiniteMap κ α)) (key : κ) (value : α) :
    find (put m key value) key = some value := by
  rw [find_put, if_pos rfl]

@[simp] theorem find_drop_self (m : Option (FiniteMap κ α)) (key : κ) : find (drop m key) key = none := by
  cases m with
  | none => rfl
  | some entries => exact Finmap.lookup_erase key entries

theorem find_foldl_put {m : Option (FiniteMap κ α)} {entries : List (κ × α)} {key : κ}
    (h : ∀ entry ∈ entries, entry.1 ≠ key) :
    find (entries.foldl (fun m entry => put m entry.1 entry.2) m) key = find m key := by
  induction entries generalizing m with
  | nil => rfl
  | cons entry entries ih =>
    rw [List.foldl_cons, ih fun other hOther => h other (List.mem_cons_of_mem _ hOther), find_put,
      if_neg (h entry List.mem_cons_self).symm]

theorem lookup_eq_ite {m : FiniteMap κ α} {k : κ} {o : Option α} (h : m.lookup k = o) (k' : κ) :
    m.lookup k' = if k' = k then o else m.lookup k' := by
  split
  · rename_i hKey
    rw [hKey, h]
  · rfl

theorem lookup_erase_eq (m : FiniteMap κ α) (key other : κ) :
    Finmap.lookup other (m.erase key) = if other = key then none else m.lookup other := by
  split
  · rename_i h
    subst h
    exact Finmap.lookup_erase other m
  · rename_i h
    exact Finmap.lookup_erase_ne h

theorem lookup_of_erase {m : FiniteMap κ α} {key other : κ} {value : α}
    (h : Finmap.lookup other (m.erase key) = some value) : m.lookup other = some value := by
  rw [lookup_erase_eq] at h
  split at h
  · cases h
  · exact h

theorem lookup_filterKeys (keep : κ → Prop) [DecidablePred keep] (m : FiniteMap κ α) (key : κ) :
    Finmap.lookup key (m.filterKeys keep) = if keep key then m.lookup key else none := by
  apply Option.ext
  intro value
  rw [Finmap.lookup_eq_some_iff, filterKeys, Multiset.mem_filter]
  split
  · rename_i h
    rw [Finmap.lookup_eq_some_iff]
    exact and_iff_left h
  · rename_i h
    simp [h]

theorem lookup_union_eq (m other : FiniteMap κ α) (key : κ) :
    Finmap.lookup key (m ∪ other) = (m.lookup key).or (other.lookup key) := by
  by_cases h : key ∈ m
  · rw [Finmap.lookup_union_left h]
    obtain ⟨value, hValue⟩ := Finmap.mem_iff.mp h
    rw [hValue]
    rfl
  · rw [Finmap.lookup_union_right h, Finmap.lookup_eq_none.mpr h]
    rfl

theorem mem_values {m : FiniteMap κ α} {value : α} :
    value ∈ m.values ↔ ∃ key, m.lookup key = some value := by
  simp only [values, Multiset.mem_map, Finmap.lookup_eq_some_iff]
  constructor
  · rintro ⟨⟨key, value⟩, hMem, rfl⟩
    exact ⟨key, hMem⟩
  · rintro ⟨key, hMem⟩
    exact ⟨⟨key, value⟩, hMem, rfl⟩

theorem values_eq_map_keys {m : FiniteMap κ α} {f : κ → α} (h : ∀ key value, m.lookup key = some value → value = f key) :
    m.values = m.keys.val.map f := by
  have hMap : m.values = m.entries.map fun e => f e.1 :=
    Multiset.map_congr rfl fun e he => h e.1 e.2 (Finmap.lookup_eq_some_iff.mpr he)
  rw [hMap]
  exact (Multiset.map_map f Sigma.fst m.entries).symm

theorem any_eq_true_iff {m : FiniteMap κ α} {test : κ → α → Bool} :
    m.any test = true ↔ ∃ key value, m.lookup key = some value ∧ test key value = true := by
  have hFold : ∀ (entries : List (Sigma fun _ : κ => α)) (found : Bool),
      entries.foldl (fun found e => found || test e.1 e.2) found =
        (found || entries.any fun e => test e.1 e.2) := by
    intro entries
    induction entries with
    | nil => simp
    | cons e entries ih =>
      intro found
      rw [List.foldl_cons, ih, List.any_cons, Bool.or_assoc]
  simp only [Finmap.lookup_eq_some_iff]
  obtain ⟨entries, hNodup⟩ := m
  induction entries using Quotient.inductionOn with
  | _ entries =>
    refine (iff_of_eq (congrArg (· = true) (hFold entries false))).trans ?_
    rw [Bool.false_or, List.any_eq_true]
    constructor
    · rintro ⟨⟨key, value⟩, hMem, hTrue⟩
      exact ⟨key, value, hMem, hTrue⟩
    · rintro ⟨key, value, hMem, hTrue⟩
      exact ⟨⟨key, value⟩, hMem, hTrue⟩

theorem insert_erase (m : FiniteMap κ α) (key : κ) (value : α) :
    (m.erase key).insert key value = m.insert key value := by
  apply Finmap.ext_lookup
  intro other
  rw [lookup_insert_eq, lookup_insert_eq, lookup_erase_eq]
  split <;> rfl

theorem values_insert_of_lookup_eq_none {m : FiniteMap κ α} {key : κ} (value : α)
    (h : m.lookup key = none) : values (m.insert key value) = value ::ₘ m.values := by
  rw [values, Finmap.entries_insert_of_notMem (Finmap.lookup_eq_none.mp h), Multiset.map_cons, values]

theorem values_insert (m : FiniteMap κ α) (key : κ) (value : α) :
    values (m.insert key value) = value ::ₘ values (m.erase key) := by
  rw [← insert_erase, values_insert_of_lookup_eq_none value (Finmap.lookup_erase key m)]

theorem insert_lookup {m : FiniteMap κ α} {key : κ} {value : α} (h : m.lookup key = some value) :
    m.insert key value = m := by
  apply Finmap.ext_lookup
  intro other
  rw [lookup_insert_eq]
  split
  · rename_i hKey
    rw [hKey, h]
  · rfl

theorem values_of_lookup {m : FiniteMap κ α} {key : κ} {value : α} (h : m.lookup key = some value) :
    m.values = value ::ₘ values (m.erase key) := by
  rw [← values_insert, insert_lookup h]

theorem erase_of_lookup_eq_none {m : FiniteMap κ α} {key : κ} (h : m.lookup key = none) :
    m.erase key = m := by
  apply Finmap.ext_lookup
  intro other
  rw [lookup_erase_eq]
  split
  · rename_i hKey
    rw [hKey, h]
  · rfl

end FiniteMap

end Liteio
