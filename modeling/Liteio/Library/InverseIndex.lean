import Mathlib.Data.List.Nodup
import Mathlib.Logic.Function.Basic

/-! # An index kept inverse to a placement

A placement gives every site the list of items on it; an index gives every item
its site. They are inverse when the index names exactly the sites that hold an
item and no site holds an item twice. The lemmas say exactly when an update of
both structures at once keeps them inverse.
-/

namespace Liteio

structure Inverse {ι κ : Type*} (index : ι → Option κ) (place : κ → List ι) : Prop where
  agrees : ∀ item site, index item = some site ↔ item ∈ place site
  nodup : ∀ site, (place site).Nodup

namespace Inverse

variable {ι κ : Type*} {index : ι → Option κ} {place : κ → List ι}

theorem site_unique (h : Inverse index place) {item : ι} {a b : κ} (ha : item ∈ place a)
    (hb : item ∈ place b) : a = b := by
  have hIndex := (h.agrees item a).mpr ha
  rw [(h.agrees item b).mpr hb] at hIndex
  exact (Option.some.inj hIndex).symm

variable [DecidableEq ι] [DecidableEq κ]

/-- An entry and a place change together: only this item may come to the place or
leave it, and its entry names where it is. -/
theorem update (h : Inverse index place) {item : ι} {entry : Option κ} {site : κ} {items : List ι}
    (hNodup : items.Nodup) (hOthers : ∀ other, other ≠ item → (other ∈ items ↔ other ∈ place site))
    (hHere : entry = some site ↔ item ∈ items)
    (hElsewhere : ∀ found, found ≠ site → (entry = some found ↔ item ∈ place found)) :
    Inverse (Function.update index item entry) (Function.update place site items) := by
  refine ⟨?_, ?_⟩
  · intro other found
    by_cases hItem : other = item <;> by_cases hSite : found = site
    · subst hItem hSite
      rw [Function.update_self, Function.update_self]
      exact hHere
    · subst hItem
      rw [Function.update_self, Function.update_of_ne hSite]
      exact hElsewhere found hSite
    · subst hSite
      rw [Function.update_of_ne hItem, Function.update_self, h.agrees]
      exact (hOthers other hItem).symm
    · rw [Function.update_of_ne hItem, Function.update_of_ne hSite]
      exact h.agrees other found
  · intro other
    by_cases hSite : other = site
    · subst hSite
      rw [Function.update_self]
      exact hNodup
    · rw [Function.update_of_ne hSite]
      exact h.nodup other

theorem append_iff (h : Inverse index place) (item : ι) (site : κ) :
    Inverse (Function.update index item (some site))
        (Function.update place site (place site ++ [item])) ↔ ∀ other, item ∉ place other := by
  constructor
  · intro hNew other hMem
    by_cases hSite : other = site
    · subst hSite
      have hNodup := hNew.nodup other
      rw [Function.update_self, List.nodup_append] at hNodup
      exact hNodup.2.2 item hMem item (List.mem_singleton.mpr rfl) rfl
    · have hIndex : Function.update index item (some site) item = some other := by
        rw [hNew.agrees, Function.update_of_ne hSite]
        exact hMem
      rw [Function.update_self] at hIndex
      exact hSite (Option.some.inj hIndex).symm
  · intro hFresh
    refine h.update ?_ ?_ (by simp) ?_
    · rw [List.nodup_append]
      refine ⟨h.nodup site, List.nodup_singleton item, ?_⟩
      intro a ha b hb hab
      rw [List.mem_singleton] at hb
      rw [hab, hb] at ha
      exact hFresh site ha
    · intro other hItem
      rw [List.mem_append, List.mem_singleton]
      exact ⟨fun hMem => hMem.resolve_right hItem, Or.inl⟩
    · intro found hSite
      exact ⟨fun hEq => absurd (Option.some.inj hEq).symm hSite, fun hMem => absurd hMem (hFresh found)⟩

theorem replace_iff (h : Inverse index place) {before after : List ι} {old : ι} {site : κ}
    (hPlace : place site = before ++ old :: after) (item : ι) :
    Inverse (Function.update index item (some site))
        (Function.update place site (before ++ item :: after)) ↔ old = item := by
  constructor
  · intro hNew
    by_contra hNe
    have hIndex : index old = some site := by
      rw [h.agrees, hPlace]
      simp
    have hMem : old ∈ before ++ item :: after := by
      rw [← Function.update_self site (before ++ item :: after) place, ← hNew.agrees,
        Function.update_of_ne hNe]
      exact hIndex
    have hNodup := h.nodup site
    rw [hPlace, List.nodup_middle, List.nodup_cons] at hNodup
    apply hNodup.1
    rcases List.mem_append.mp hMem with hBefore | hAfter
    · exact List.mem_append_left _ hBefore
    · rcases List.mem_cons.mp hAfter with hItem | hAfter
      · exact absurd hItem hNe
      · exact List.mem_append_right _ hAfter
  · rintro rfl
    have hIndex : Function.update index old (some site) = index := by
      have hOld : index old = some site := by
        rw [h.agrees, hPlace]
        simp
      rw [← hOld, Function.update_eq_self]
    rw [hIndex, ← hPlace, Function.update_eq_self]
    exact h

theorem erase (h : Inverse index place) {item : ι} {site : κ} (hIndex : index item = some site) :
    Inverse (Function.update index item none)
      (Function.update place site ((place site).erase item)) := by
  refine h.update ((h.nodup site).erase item) ?_ ?_ ?_
  · intro other hItem
    exact List.mem_erase_of_ne hItem
  · rw [(h.nodup site).mem_erase_iff]
    simp
  · intro found hSite
    rw [← h.agrees, hIndex]
    exact ⟨fun hEq => absurd hEq (by simp), fun hEq => absurd (Option.some.inj hEq).symm hSite⟩

end Inverse

end Liteio
