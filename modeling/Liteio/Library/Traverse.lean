import Mathlib.Data.List.Forall2

/-! # Lists through a partial function

Running a partial function over a list succeeds when it succeeds on every
element, and then relates the two lists pointwise.
-/

namespace Liteio.Traverse

variable {α β : Type*} {f : α → Option β}

theorem forall₂_of_mapM {l : List α} {l' : List β} (h : l.mapM f = some l') :
    List.Forall₂ (fun a b => f a = some b) l l' := by
  induction l generalizing l' with
  | nil =>
    simp only [List.mapM_nil, Option.pure_def, Option.some.injEq] at h
    subst h
    exact .nil
  | cons a l ih =>
    simp only [List.mapM_cons, Option.pure_def, Option.bind_eq_bind, Option.bind_eq_some_iff,
      Option.some.injEq] at h
    obtain ⟨b, hb, rest, hRest, rfl⟩ := h
    exact .cons hb (ih hRest)

theorem exists_of_mem_forall₂ {R : α → β → Prop} {l : List α} {l' : List β}
    (h : List.Forall₂ R l l') {b : β} (hb : b ∈ l') : ∃ a ∈ l, R a b := by
  induction h with
  | nil => cases hb
  | @cons a c l l' hac _ ih =>
    rcases List.mem_cons.mp hb with rfl | hb
    · exact ⟨a, List.mem_cons_self, hac⟩
    · obtain ⟨a', hMem, hR⟩ := ih hb
      exact ⟨a', List.mem_cons_of_mem _ hMem, hR⟩

theorem exists_of_mem_mapM {l : List α} {l' : List β} (h : l.mapM f = some l') {b : β} (hb : b ∈ l') :
    ∃ a ∈ l, f a = some b :=
  exists_of_mem_forall₂ (forall₂_of_mapM h) hb

theorem exists_of_mapM {l : List α} {l' : List β} (h : l.mapM f = some l') {a : α} (ha : a ∈ l) :
    ∃ b ∈ l', f a = some b := by
  obtain ⟨b, hb, hab⟩ := exists_of_mem_forall₂ (forall₂_of_mapM h).flip ha
  exact ⟨b, hb, hab⟩

theorem exists_of_mem_zip {κ : Type*} {R : α → β → Prop} {l : List (κ × α)} {l' : List β}
    (h : List.Forall₂ R (l.map Prod.snd) l') {key : κ} {b : β} (hb : (key, b) ∈ (l.map Prod.fst).zip l') :
    ∃ a, (key, a) ∈ l ∧ R a b := by
  induction l generalizing l' with
  | nil => cases hb
  | cons entry l ih =>
    obtain ⟨c, rest, hR, hRest, rfl⟩ := List.forall₂_cons_left_iff.mp h
    rcases List.mem_cons.mp hb with hHead | hTail
    · cases hHead
      exact ⟨entry.2, List.mem_cons_self, hR⟩
    · obtain ⟨a, hMem, ha⟩ := ih hRest hTail
      exact ⟨a, List.mem_cons_of_mem _ hMem, ha⟩

theorem mapM_isSome {l : List α} (h : ∀ a ∈ l, (f a).isSome) : (l.mapM f).isSome := by
  induction l with
  | nil => rfl
  | cons a l ih =>
    obtain ⟨b, hb⟩ := Option.isSome_iff_exists.mp (h a List.mem_cons_self)
    obtain ⟨rest, hRest⟩ := Option.isSome_iff_exists.mp (ih fun c hc => h c (List.mem_cons_of_mem a hc))
    simp [List.mapM_cons, hb, hRest]

theorem mapM_isSome_iff {l : List α} : (l.mapM f).isSome ↔ ∀ a ∈ l, (f a).isSome := by
  constructor
  · intro h a ha
    obtain ⟨l', hl'⟩ := Option.isSome_iff_exists.mp h
    obtain ⟨b, _, hb⟩ := exists_of_mapM hl' ha
    rw [hb]
    rfl
  · exact mapM_isSome

end Liteio.Traverse
