import Liteio.Library.Optimistic
import Mathlib.Order.Basic

/-! # Many versioned objects

A store keeps objects under keys, each with the version of its last change;
versions come from one clock, so that none is given twice. A change may be
guarded by the version its writer has read. `Seen` says of a copy that it was
read from the store, now or earlier: an object of its key and version is it.
-/

namespace Liteio.ObjectStore

open Optimistic

structure Store (α : Type*) where
  objects : List (Versioned α) := []
  clock : ℕ := 0

variable {α κ : Type*}

structure Store.Valid (key : α → κ) (s : Store α) : Prop where
  dated : ∀ o ∈ s.objects, o.version < s.clock
  keys : ∀ o ∈ s.objects, ∀ o' ∈ s.objects, key o.value = key o'.value → o = o'

structure Seen (key : α → κ) (s : Store α) (copy : Versioned α) : Prop where
  dated : copy.version < s.clock
  current : ∀ o ∈ s.objects, key o.value = key copy.value → o.version = copy.version → o = copy

theorem Store.Valid.seen {key : α → κ} {s : Store α} {o : Versioned α} (h : s.Valid key)
    (ho : o ∈ s.objects) : Seen key s o :=
  ⟨h.dated o ho, fun o' ho' hKey _ => h.keys o' ho' o ho hKey⟩

section

variable [DecidableEq κ] (key : α → κ)

def Store.find (s : Store α) (k : κ) : Option (Versioned α) := s.objects.find? fun o => key o.value = k

def Store.create (s : Store α) (value : α) : Store α :=
  if (s.find key (key value)).isSome then s
  else ⟨⟨value, s.clock⟩ :: s.objects, s.clock + 1⟩

variable {key} {s : Store α} {k : κ} {o copy : Versioned α} {value : α}

theorem Store.mem_of_find (h : s.find key k = some o) : o ∈ s.objects ∧ key o.value = k :=
  ⟨List.mem_of_find?_eq_some h, by simpa using List.find?_some h⟩

theorem Store.mem_create (h : o ∈ (s.create key value).objects) :
    o ∈ s.objects ∨ o = ⟨value, s.clock⟩ ∧ ∀ o' ∈ s.objects, key o'.value ≠ key value := by
  unfold create at h
  split at h
  · exact .inl h
  · rename_i hNone
    rcases List.mem_cons.mp h with rfl | h
    · refine .inr ⟨rfl, ?_⟩
      simpa [find] using hNone
    · exact .inl h

theorem Store.lt_clock_create {n : ℕ} (h : n < s.clock) (value : α) : n < (s.create key value).clock := by
  unfold create
  split
  · exact h
  · exact Nat.lt_succ_of_lt h

theorem Store.Valid.create (h : s.Valid key) (value : α) : (s.create key value).Valid key := by
  unfold Store.create
  split
  · exact h
  · rename_i hNone
    have hNew : ∀ o ∈ s.objects, key o.value ≠ key value := by simpa [find] using hNone
    constructor
    · intro o ho
      rcases List.mem_cons.mp ho with rfl | ho
      · exact Nat.lt_succ_self _
      · exact Nat.lt_succ_of_lt (h.dated o ho)
    · intro o ho o' ho' hKey
      rcases List.mem_cons.mp ho with rfl | ho <;> rcases List.mem_cons.mp ho' with rfl | ho'
      · rfl
      · exact absurd hKey.symm (hNew o' ho')
      · exact absurd hKey (hNew o ho)
      · exact h.keys o ho o' ho' hKey

theorem Seen.create (h : Seen key s copy) (value : α) : Seen key (s.create key value) copy := by
  refine ⟨Store.lt_clock_create h.dated value, ?_⟩
  intro o ho hKey hVersion
  rcases Store.mem_create ho with ho | ⟨rfl, -⟩
  · exact h.current o ho hKey hVersion
  · exact absurd hVersion (Nat.ne_of_gt h.dated)

end

section

variable [DecidableEq κ] [DecidableEq α] (key : α → κ)

/-- What a change makes of one object: nothing if it is not meant or stays the
same, and `none` if it is removed. -/
def Store.changed (s : Store α) (k : κ) (guard : Option ℕ) (f : α → Option α) (o : Versioned α) :
    Option (Versioned α) :=
  if key o.value = k ∧ (∀ version ∈ guard, o.version = version) then
    (f o.value).map fun value => if value = o.value then o else ⟨value, s.clock⟩
  else some o

def Store.modify (s : Store α) (k : κ) (guard : Option ℕ) (f : α → Option α) : Store α :=
  ⟨s.objects.filterMap (s.changed key k guard f), s.clock + 1⟩

variable {key} {s : Store α} {k : κ} {guard : Option ℕ} {f : α → Option α} {o o' copy : Versioned α}

theorem Store.changed_cases (h : s.changed key k guard f o = some o') :
    o' = o ∨ key o.value = k ∧ (∀ version ∈ guard, o.version = version) ∧
      f o.value = some o'.value ∧ o'.version = s.clock := by
  unfold changed at h
  split at h
  · rename_i hMeant
    obtain ⟨value, hValue, rfl⟩ := Option.map_eq_some_iff.mp h
    split
    · exact .inl rfl
    · exact .inr ⟨hMeant.1, hMeant.2, hValue, rfl⟩
  · exact .inl (Option.some.inj h).symm

theorem Store.mem_modify (h : o' ∈ (s.modify key k guard f).objects) :
    o' ∈ s.objects ∨ ∃ o ∈ s.objects, key o.value = k ∧ (∀ version ∈ guard, o.version = version) ∧
      f o.value = some o'.value ∧ o'.version = s.clock := by
  obtain ⟨o, ho, hChanged⟩ := List.mem_filterMap.mp h
  rcases changed_cases hChanged with rfl | hMeant
  · exact .inl ho
  · exact .inr ⟨o, ho, hMeant⟩

theorem Store.Valid.modify (h : s.Valid key) (k : κ) (guard : Option ℕ)
    (hKey : ∀ a b, f a = some b → key b = key a) : (s.modify key k guard f).Valid key := by
  have hKeep : ∀ o o', s.changed key k guard f o = some o' → key o'.value = key o.value := by
    intro o o' hChanged
    rcases Store.changed_cases hChanged with rfl | ⟨-, -, hValue, -⟩
    · rfl
    · exact hKey _ _ hValue
  constructor
  · intro o' ho'
    rcases Store.mem_modify ho' with ho' | ⟨-, -, -, -, -, hVersion⟩
    · exact Nat.lt_succ_of_lt (h.dated o' ho')
    · exact hVersion ▸ Nat.lt_succ_self _
  · intro o₁ ho₁ o₂ ho₂ hSame
    obtain ⟨p₁, hp₁, hChanged₁⟩ := List.mem_filterMap.mp ho₁
    obtain ⟨p₂, hp₂, hChanged₂⟩ := List.mem_filterMap.mp ho₂
    rw [hKeep p₁ o₁ hChanged₁, hKeep p₂ o₂ hChanged₂] at hSame
    obtain rfl := h.keys p₁ hp₁ p₂ hp₂ hSame
    exact Option.some.inj (hChanged₁.symm.trans hChanged₂)

theorem Seen.modify (h : Seen key s copy) (k : κ) (guard : Option ℕ) (f : α → Option α) :
    Seen key (s.modify key k guard f) copy := by
  refine ⟨Nat.lt_succ_of_lt h.dated, ?_⟩
  intro o ho hKey hVersion
  rcases Store.mem_modify ho with ho | ⟨-, -, -, -, -, hNew⟩
  · exact h.current o ho hKey hVersion
  · exact absurd (hVersion.symm.trans hNew) (Nat.ne_of_lt h.dated)

end

end Liteio.ObjectStore
