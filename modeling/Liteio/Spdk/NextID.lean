import Liteio.Spdk.Ports
import Mathlib.Order.Iterate

/-! # Which ports `NextID` can find

The loop of `NextID` goes once around the range. Its last round is the one that
comes back to the port it started from, and that round reports an error before
the port it found is looked at. So every free port can be handed out but the one
under the cursor, which is found only through the shortcut for an empty set.
-/

namespace Liteio.Spdk.SvcIdAllocator

open Strconv

def Free (a : SvcIdAllocator) (id : ℤ) : Prop := (a.minId ≤ id ∧ id ≤ a.maxId) ∧ itoa id ∉ a.inUse

instance (a : SvcIdAllocator) : DecidablePred a.Free :=
  fun id => inferInstanceAs (Decidable ((a.minId ≤ id ∧ id ≤ a.maxId) ∧ itoa id ∉ a.inUse))

/-- A port is handed out while one is free, and refused exactly when none is. -/
structure Exhaustive (a : SvcIdAllocator) : Prop where
  handsOut : (∃ id, a.Free id) → ∃ id cursor, a.Free id ∧
    a.nextID = ({ a with cursor := cursor, inUse := insert (itoa id) a.inUse }, some id)
  refuses : a.nextID.2 = none ∧ a.nextID.1.inUse = a.inUse ↔ ∀ id, ¬ a.Free id

theorem advance_iterate {a : SvcIdAllocator} (h : a.InRange) {rounds : ℕ}
    (hRounds : rounds ≤ a.maxId - a.minId + 1) :
    a.advance^[rounds] a.cursor =
      if a.cursor + rounds ≤ a.maxId then a.cursor + rounds
      else a.cursor + rounds - (a.maxId - a.minId + 1) := by
  have hMin := h.min_le
  have hMax := h.le_max
  induction rounds with
  | zero => simp [hMax]
  | succ rounds ih =>
    rw [Function.iterate_succ_apply', ih (by omega), advance]
    split_ifs <;> omega

theorem exists_advance_iterate {a : SvcIdAllocator} (h : a.InRange) (id : ℤ) :
    (∃ round < (a.maxId - a.minId).toNat, a.advance^[round + 1] a.cursor = id) ↔
      (a.minId ≤ id ∧ id ≤ a.maxId) ∧ id ≠ a.cursor := by
  have hMin := h.min_le
  have hMax := h.le_max
  constructor
  · rintro ⟨round, hRound, hId⟩
    rw [advance_iterate h (by omega)] at hId
    split_ifs at hId <;> omega
  · rintro ⟨hRange, hNe⟩
    rcases lt_or_gt_of_ne hNe with hBelow | hAbove
    · refine ⟨(id - a.cursor + (a.maxId - a.minId)).toNat, by omega, ?_⟩
      rw [advance_iterate h (by omega), if_neg (by omega)]
      omega
    · refine ⟨(id - a.cursor - 1).toNat, by omega, ?_⟩
      rw [advance_iterate h (by omega), if_pos (by omega)]
      omega

theorem search_eq_none_iff {a : SvcIdAllocator} {rounds : ℕ} {cursor : ℤ} :
    (a.search rounds cursor).2 = none ↔ ∀ round < rounds, itoa (a.advance^[round + 1] cursor) ∈ a.inUse := by
  induction rounds generalizing cursor with
  | zero => simp [search]
  | succ rounds ih =>
    have hSplit : (∀ round < rounds + 1, itoa (a.advance^[round + 1] cursor) ∈ a.inUse) ↔
        itoa (a.advance cursor) ∈ a.inUse ∧
          ∀ round < rounds, itoa (a.advance^[round + 1] (a.advance cursor)) ∈ a.inUse :=
      Nat.forall_lt_succ_left
    rw [search, hSplit]
    split
    · rename_i hUsed
      rw [ih, and_iff_right hUsed]
    · rename_i hFree
      simp [hFree]

theorem nextID_eq_none_iff {a : SvcIdAllocator} (h : a.InRange) :
    a.nextID.2 = none ↔ a.inUse ≠ ∅ ∧ ∀ id, a.Free id → id = a.cursor := by
  have hSearch : (a.search (a.maxId - a.minId).toNat a.cursor).2 = none ↔ ∀ id, a.Free id → id = a.cursor := by
    rw [search_eq_none_iff]
    constructor
    · intro hUsed id hFree
      by_contra hNe
      obtain ⟨round, hRound, rfl⟩ := (exists_advance_iterate h id).mpr ⟨hFree.1, hNe⟩
      exact hFree.2 (hUsed round hRound)
    · intro hOnly round hRound
      obtain ⟨hRange, hNe⟩ := (exists_advance_iterate h _).mp ⟨round, hRound, rfl⟩
      by_contra hFree
      exact hNe (hOnly _ ⟨hRange, hFree⟩)
  rw [nextID, ← hSearch]
  split
  · rename_i hEmpty
    simp [hEmpty]
  · rename_i hUsed
    split <;> rename_i hFound <;> simp [hFound, hUsed]

theorem nextID_cases {a : SvcIdAllocator} (h : a.InRange) :
    (a.nextID.2 = none ∧ a.nextID.1.inUse = a.inUse) ∨
      ∃ id cursor, a.Free id ∧
        a.nextID = ({ a with cursor := cursor, inUse := insert (itoa id) a.inUse }, some id) := by
  have hNext := nextID_spec h
  unfold nextID at hNext ⊢
  split at hNext
  · rename_i hEmpty
    obtain ⟨hFree, -, hRange⟩ := hNext.free _ rfl
    exact .inr ⟨a.minId, a.minId, ⟨hRange, hFree⟩, by simp [hEmpty]⟩
  · rename_i hUsed
    rw [if_neg hUsed]
    split at hNext
    · exact .inl ⟨rfl, rfl⟩
    · rename_i cursor id hFound
      obtain ⟨hFree, -, hRange⟩ := hNext.free _ rfl
      exact .inr ⟨id, cursor, ⟨hRange, hFree⟩, rfl⟩

/-- The port under the cursor is the one that is missed. -/
theorem exhaustive_iff (a : SvcIdAllocator) (h : a.InRange) :
    a.Exhaustive ↔ a.inUse = ∅ ∨ itoa a.cursor ∈ a.inUse ∨ ∃ id, id ≠ a.cursor ∧ a.Free id := by
  have hNone := nextID_eq_none_iff h
  constructor
  · intro hAll
    by_contra hNot
    push Not at hNot
    obtain ⟨hUsed, hCursor, hOthers⟩ := hNot
    have hRefused : a.nextID.2 = none :=
      hNone.mpr ⟨Finset.nonempty_iff_ne_empty.mp hUsed, fun id hFree => by_contra fun hNe => hOthers id hNe hFree⟩
    rcases nextID_cases h with hKept | ⟨id, cursor, -, hId⟩
    · exact hAll.refuses.mp hKept a.cursor ⟨⟨h.min_le, h.le_max⟩, hCursor⟩
    · rw [hId] at hRefused
      cases hRefused
  · intro hFound
    have hNoneFree : a.nextID.2 = none → ∀ id, ¬ a.Free id := by
      intro hRefused id hFree
      obtain ⟨hUsed, hOnly⟩ := hNone.mp hRefused
      rcases hFound with hEmpty | hCursor | ⟨other, hNe, hOther⟩
      · exact hUsed hEmpty
      · exact hFree.2 (hOnly id hFree ▸ hCursor)
      · exact hNe (hOnly other hOther)
    constructor
    · rintro ⟨id, hFree⟩
      rcases nextID_cases h with hKept | hHanded
      · exact absurd hFree (hNoneFree hKept.1 id)
      · exact hHanded
    · constructor
      · exact fun hRefused => hNoneFree hRefused.1
      · intro hFull
        rcases nextID_cases h with hKept | ⟨id, cursor, hFree, -⟩
        · exact hKept
        · exact absurd hFree (hFull id)

theorem exhaustive_of_two : ({ inUse := {"4510"}, maxId := 4511 } : SvcIdAllocator).Exhaustive :=
  (exhaustive_iff _ ⟨by decide, by decide⟩).mpr (.inr (.inl (by decide)))

/-- The second of two ports is in use and the cursor is on the first, which is free. -/
theorem not_exhaustive_of_two :
    ¬ ({ inUse := {"4511"}, maxId := 4511 } : SvcIdAllocator).Exhaustive := by
  intro h
  have hRefused : ({ inUse := {"4511"}, maxId := 4511 } : SvcIdAllocator).nextID.2 = none ∧
      ({ inUse := {"4511"}, maxId := 4511 } : SvcIdAllocator).nextID.1.inUse = {"4511"} := by decide
  exact h.refuses.mp hRefused 4510 (by decide)

end Liteio.Spdk.SvcIdAllocator
