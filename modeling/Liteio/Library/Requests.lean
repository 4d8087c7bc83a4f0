import Liteio.Library.FiniteMap

/-! # Requests that may fail

Requests to a table of objects over a line that can fail. A request that was not
answered may have taken effect, so a client that tries again looks first.
`ensure` is this look followed by the creation; what it answers is in the table
afterwards, and what was in the table stays.
-/

namespace Liteio.Requests

/-- What becomes of a request: a lost one takes effect and is not answered. -/
inductive Fate where
  | answered
  | lost
  | failed
  deriving DecidableEq

inductive Failure (ε : Type*) where
  | read
  | write
  | built (err : ε)
  deriving DecidableEq

variable {κ α : Type} {ε : Type*} [DecidableEq κ]

def ensure (read write : Fate) (m : FiniteMap κ α) (key : κ) (new : Except ε α) :
    FiniteMap κ α × Except (Failure ε) α :=
  if read ≠ .answered then (m, .error .read)
  else
    match m.lookup key with
    | some obj => (m, .ok obj)
    | none =>
      match new with
      | .error err => (m, .error (.built err))
      | .ok obj =>
        match write with
        | .answered => (m.insert key obj, .ok obj)
        | .lost => (m.insert key obj, .error .write)
        | .failed => (m, .error .write)

/-- The object under the key goes, or stays as `mark` leaves it; says whether
the request was acknowledged. -/
def delete (fate : Fate) (mark : α → Option α) (m : FiniteMap κ α) (key : κ) : FiniteMap κ α × Bool :=
  match m.lookup key with
  | none => (m, false)
  | some obj =>
    let rest := match mark obj with
      | some obj' => m.insert key obj'
      | none => m.erase key
    match fate with
    | .answered => (rest, true)
    | .lost => (rest, false)
    | .failed => (m, false)

variable {read write : Fate} {m : FiniteMap κ α} {key other : κ} {new : Except ε α} {obj : α}

theorem ensure_cases (read write : Fate) (m : FiniteMap κ α) (key : κ) (new : Except ε α) :
    ((ensure read write m key new).1 = m ∧
      ∀ obj, (ensure read write m key new).2 = .ok obj → m.lookup key = some obj) ∨
    (m.lookup key = none ∧ ∃ obj, new = .ok obj ∧ (ensure read write m key new).1 = m.insert key obj ∧
      ∀ obj', (ensure read write m key new).2 = .ok obj' → obj' = obj) := by
  unfold ensure
  split
  · exact .inl ⟨rfl, by simp⟩
  · split
    · rename_i obj hObj
      exact .inl ⟨rfl, by simp [hObj]⟩
    · rename_i hNone
      split
      · exact .inl ⟨rfl, by simp⟩
      · rename_i obj
        cases write with
        | answered => exact .inr ⟨hNone, obj, rfl, rfl, by simp⟩
        | lost => exact .inr ⟨hNone, obj, rfl, rfl, by simp⟩
        | failed => exact .inl ⟨rfl, by simp⟩

theorem ensure_lookup (h : (ensure read write m key new).2 = .ok obj) :
    (ensure read write m key new).1.lookup key = some obj := by
  rcases ensure_cases read write m key new with ⟨hSame, hOk⟩ | ⟨-, made, -, hInsert, hOk⟩
  · rw [hSame]
    exact hOk obj h
  · rw [hInsert, hOk obj h]
    exact Finmap.lookup_insert m

theorem ensure_of_lookup (h : m.lookup key = some obj) : (ensure read write m key new).1 = m := by
  rcases ensure_cases read write m key new with ⟨hSame, -⟩ | ⟨hNone, -⟩
  · exact hSame
  · rw [hNone] at h
    cases h

theorem ensure_lookup_ne (h : other ≠ key) :
    (ensure read write m key new).1.lookup other = m.lookup other := by
  rcases ensure_cases read write m key new with ⟨hSame, -⟩ | ⟨-, made, -, hInsert, -⟩
  · rw [hSame]
  · rw [hInsert]
    exact Finmap.lookup_insert_of_ne m h

theorem delete_lookup_ne {fate : Fate} {mark : α → Option α} (h : other ≠ key) :
    (delete fate mark m key).1.lookup other = m.lookup other := by
  unfold delete
  split
  · rfl
  next obj _ =>
    cases fate with
    | failed => rfl
    | answered | lost =>
      dsimp only
      split
      · exact Finmap.lookup_insert_of_ne m h
      · exact Finmap.lookup_erase_ne h

theorem marked_of_delete {fate : Fate} {mark : α → Option α} (h : (delete fate mark m key).2 = true)
    (hLookup : (delete fate mark m key).1.lookup key = some obj) : ∃ old, mark old = some obj := by
  unfold delete at h hLookup
  cases hOld : m.lookup key with
  | none =>
    rw [hOld] at h
    cases h
  | some old =>
    rw [hOld] at h hLookup
    cases fate with
    | lost | failed => cases h
    | answered =>
      dsimp only at hLookup
      split at hLookup
      next obj' hMark =>
        rw [Finmap.lookup_insert] at hLookup
        exact ⟨old, hMark.trans hLookup⟩
      · rw [Finmap.lookup_erase] at hLookup
        cases hLookup

theorem bind_eq_ok {β : Type*} {answer : Except ε α} {f : α → Except ε β} {b : β} (h : answer.bind f = .ok b) :
    ∃ a, answer = .ok a ∧ f a = .ok b := by
  cases answer with
  | error err => cases h
  | ok a => exact ⟨a, rfl, h⟩

theorem map_eq_ok {β : Type*} {answer : Except ε α} {f : α → β} {b : β} (h : answer.map f = .ok b) :
    ∃ a, answer = .ok a ∧ f a = b := by
  cases answer with
  | error err => cases h
  | ok a => exact ⟨a, rfl, Except.ok.inj h⟩

theorem eq_ok_of_toOption {answer : Except ε α} {a : α} (h : answer.toOption = some a) : answer = .ok a := by
  cases answer with
  | error err => cases h
  | ok a' => exact congrArg Except.ok (Option.some.inj h)

end Liteio.Requests
