import Liteio.Library.Runs
import Mathlib.Data.Nat.Notation
import Mathlib.Logic.Function.Basic

/-! # Processes that share one versioned object

Several processes work on one object. A pass of a process reads the object,
takes steps in which it changes the outside world, and writes; a guarded write
is refused when the object changed since the pass read it. Between any two
steps of a pass the other processes may move, and a pass may fail at any point.

An annotation gives an invariant and says what each process may assume of the
object and the world while it holds a copy or is about to write. The annotation
is sound when every step establishes what the process assumes next and keeps
what the others assume. `Sound.run` turns this into facts about all runs, and
`Good.step` serves runs in which only some events are looked at.
-/

namespace Liteio.Optimistic

structure Versioned (α : Type*) where
  value : α
  version : ℕ := 0

def Versioned.put {α : Type*} [DecidableEq α] (obj : Versioned α) (value : α) : Versioned α :=
  if value = obj.value then obj else ⟨value, obj.version + 1⟩

@[simp] theorem Versioned.put_value {α : Type*} [DecidableEq α] (obj : Versioned α) (value : α) :
    (obj.put value).value = value := by
  unfold put
  split
  · rename_i h
    exact h.symm
  · rfl

inductive Next (ω μ : Type*) where
  | stop
  | go (mem : μ)
  | write (w : ω) (rest : Option μ)

structure Protocol (ι α σ ε ω μ : Type*) where
  start : ι → μ
  /-- A step with the answers it gets, the copy, the memory and the world. -/
  act : ι → ε → α → μ → σ → σ × Next ω μ
  guarded : ω → Bool
  apply : ω → α → α

inductive Local (α ω μ : Type*) where
  | idle
  | holding (copy : Versioned α) (mem : μ)
  | writing (copy : Versioned α) (w : ω) (rest : Option μ)

structure System (ι α σ ω μ : Type*) where
  object : Versioned α
  world : σ
  procs : ι → Local α ω μ

inductive Event (ι ε : Type*) where
  | read (i : ι)
  | act (i : ι) (answers : ε)
  | write (i : ι)
  | fail (i : ι)

variable {ι α σ ε ω μ : Type*}

def System.init (value : α) (world : σ) : System ι α σ ω μ := ⟨⟨value, 0⟩, world, fun _ => .idle⟩

def Next.toLocal (copy : Versioned α) : Next ω μ → Local α ω μ
  | .stop => .idle
  | .go mem => .holding copy mem
  | .write w rest => .writing copy w rest

/-- A write goes through unless it is guarded and the object has moved on. -/
def Protocol.accepts (P : Protocol ι α σ ε ω μ) (obj copy : Versioned α) (w : ω) : Bool :=
  !P.guarded w || copy.version = obj.version

structure Annotation (ι α σ ω μ : Type*) where
  inv : α → σ → Prop
  held : ι → α → μ → α → σ → Prop
  pending : ι → α → ω → Option μ → α → σ → Prop

namespace Annotation

variable (A : Annotation ι α σ ω μ)

def after (i : ι) (copy : α) (obj : α) (world : σ) : Next ω μ → Prop
  | .stop => True
  | .go mem => A.held i copy mem obj world
  | .write w rest => A.pending i copy w rest obj world

structure Keeps (j : ι) (obj : α) (world : σ) (obj' : α) (world' : σ) : Prop where
  held : ∀ copy mem, A.held j copy mem obj world → A.held j copy mem obj' world'
  pending : ∀ copy w rest, A.pending j copy w rest obj world → A.pending j copy w rest obj' world'

theorem Keeps.refl (j : ι) (obj : α) (world : σ) : A.Keeps j obj world obj world :=
  ⟨fun _ _ h => h, fun _ _ _ h => h⟩

structure ReadFrom (copy obj : Versioned α) : Prop where
  version_le : copy.version ≤ obj.version
  current : copy.version = obj.version → copy.value = obj.value

def Knows (i : ι) (obj : Versioned α) (world : σ) : Local α ω μ → Prop
  | .idle => True
  | .holding copy mem => ReadFrom copy obj ∧ A.held i copy.value mem obj.value world
  | .writing copy w rest => ReadFrom copy obj ∧ A.pending i copy.value w rest obj.value world

structure Good (s : System ι α σ ω μ) : Prop where
  inv : A.inv s.object.value s.world
  knows : ∀ i, A.Knows i s.object s.world (s.procs i)

structure Sound (P : Protocol ι α σ ε ω μ) : Prop where
  read : ∀ i obj world, A.inv obj world → A.held i obj (P.start i) obj world
  act : ∀ i answers copy mem obj world, A.inv obj world → A.held i copy mem obj world →
    A.inv obj (P.act i answers copy mem world).1 ∧
      A.after i copy obj (P.act i answers copy mem world).1 (P.act i answers copy mem world).2 ∧
      ∀ j, j ≠ i → A.Keeps j obj world obj (P.act i answers copy mem world).1
  write : ∀ i copy w rest obj world, A.inv obj world → A.pending i copy w rest obj world →
    (P.guarded w = true → copy = obj) →
    A.inv (P.apply w obj) world ∧ (∀ mem, rest = some mem → A.held i copy mem (P.apply w obj) world) ∧
      ∀ j, j ≠ i → A.Keeps j obj world (P.apply w obj) world

end Annotation

variable {A : Annotation ι α σ ω μ} {P : Protocol ι α σ ε ω μ}

namespace Annotation

theorem ReadFrom.refl (obj : Versioned α) : ReadFrom obj obj := ⟨Nat.le_refl _, fun _ => rfl⟩

theorem ReadFrom.put [DecidableEq α] {copy obj : Versioned α} (h : ReadFrom copy obj) (value : α) :
    ReadFrom copy (obj.put value) := by
  unfold Versioned.put
  split
  · exact h
  · refine ⟨Nat.le_succ_of_le h.version_le, fun hVersion => ?_⟩
    have := h.version_le
    dsimp only at hVersion
    omega

theorem Keeps.knows {j : ι} {obj obj' : Versioned α} {world world' : σ} {state : Local α ω μ}
    (hKeeps : A.Keeps j obj.value world obj'.value world')
    (hRead : ∀ copy, ReadFrom copy obj → ReadFrom copy obj') (h : A.Knows j obj world state) :
    A.Knows j obj' world' state := by
  cases state with
  | idle => trivial
  | holding copy mem => exact ⟨hRead copy h.1, hKeeps.held _ _ h.2⟩
  | writing copy w rest => exact ⟨hRead copy h.1, hKeeps.pending _ _ _ h.2⟩

theorem after_knows {i : ι} {copy obj : Versioned α} {world : σ} {next : Next ω μ}
    (hRead : ReadFrom copy obj) (h : A.after i copy.value obj.value world next) :
    A.Knows i obj world (next.toLocal copy) := by
  cases next with
  | stop => trivial
  | go mem => exact ⟨hRead, h⟩
  | write w rest => exact ⟨hRead, h⟩

theorem accepted_current {obj copy : Versioned α} {w : ω} (hRead : ReadFrom copy obj)
    (hAccepts : P.accepts obj copy w = true) (hGuarded : P.guarded w = true) : copy.value = obj.value := by
  rw [Protocol.accepts, hGuarded] at hAccepts
  exact hRead.current (by simpa using hAccepts)

variable (A P) in
def Allows (s : System ι α σ ω μ) : Event ι ε → Prop
  | .read i => A.held i s.object.value (P.start i) s.object.value s.world
  | .act i answers => ∀ copy mem, s.procs i = .holding copy mem →
      let out := P.act i answers copy.value mem s.world
      A.inv s.object.value out.1 ∧ A.after i copy.value s.object.value out.1 out.2 ∧
        ∀ j, j ≠ i → A.Keeps j s.object.value s.world s.object.value out.1
  | .write i => ∀ copy w rest, s.procs i = .writing copy w rest →
      P.accepts s.object copy w = true →
      let obj := P.apply w s.object.value
      A.inv obj s.world ∧ (∀ mem, rest = some mem → A.held i copy.value mem obj s.world) ∧
        ∀ j, j ≠ i → A.Keeps j s.object.value s.world obj s.world
  | .fail _ => True

theorem Sound.allows (h : A.Sound P) {s : System ι α σ ω μ} (hs : A.Good s) (e : Event ι ε) :
    A.Allows P s e := by
  cases e with
  | read i => exact h.read i _ _ hs.inv
  | act i answers =>
    intro copy mem hProc
    have hKnows := hs.knows i
    rw [hProc] at hKnows
    exact h.act i answers copy.value mem _ _ hs.inv hKnows.2
  | write i =>
    intro copy w rest hProc hAccepts
    have hKnows := hs.knows i
    rw [hProc] at hKnows
    exact h.write i copy.value w rest _ _ hs.inv hKnows.2 (accepted_current hKnows.1 hAccepts)
  | fail i => trivial

end Annotation

variable [DecidableEq ι]

def System.become (s : System ι α σ ω μ) (i : ι) (state : Local α ω μ) : System ι α σ ω μ :=
  { s with procs := Function.update s.procs i state }

namespace Annotation

theorem Good.become {s t : System ι α σ ω μ} {i : ι} {state : Local α ω μ} (h : A.Good s)
    (hProcs : t.procs = s.procs) (hInv : A.inv t.object.value t.world)
    (hState : A.Knows i t.object t.world state)
    (hOthers : ∀ j, j ≠ i → A.Keeps j s.object.value s.world t.object.value t.world)
    (hRead : ∀ copy, ReadFrom copy s.object → ReadFrom copy t.object) :
    A.Good (t.become i state) := by
  refine ⟨hInv, fun j => ?_⟩
  change A.Knows j t.object t.world (Function.update t.procs i state j)
  by_cases hj : j = i
  · subst hj
    rw [Function.update_self]
    exact hState
  · rw [Function.update_of_ne hj, hProcs]
    exact (hOthers j hj).knows hRead (h.knows j)

end Annotation

variable [DecidableEq α]

namespace Protocol

variable (P)

def step (s : System ι α σ ω μ) : Event ι ε → System ι α σ ω μ
  | .read i =>
    match s.procs i with
    | .idle => s.become i (.holding s.object (P.start i))
    | _ => s
  | .act i answers =>
    match s.procs i with
    | .holding copy mem =>
      let out := P.act i answers copy.value mem s.world
      { s with world := out.1 }.become i (out.2.toLocal copy)
    | _ => s
  | .write i =>
    match s.procs i with
    | .writing copy w rest =>
      if P.accepts s.object copy w then
        { s with object := s.object.put (P.apply w s.object.value) }.become i
          (match rest with
            | some mem => .holding copy mem
            | none => .idle)
      else s.become i .idle
    | _ => s
  | .fail i => s.become i .idle

end Protocol

namespace Annotation

theorem Good.step {s : System ι α σ ω μ} (hs : A.Good s) {e : Event ι ε} (h : A.Allows P s e) :
    A.Good (P.step s e) := by
  have hRefl : ∀ i j, j ≠ i → A.Keeps j s.object.value s.world s.object.value s.world :=
    fun _ j _ => .refl A j _ _
  cases e with
  | read i =>
    rw [Protocol.step]
    split
    · exact hs.become rfl hs.inv ⟨.refl _, h⟩ (hRefl i) fun _ hRead => hRead
    · exact hs
  | act i answers =>
    rw [Protocol.step]
    split
    · rename_i copy mem hProc
      have hKnows := hs.knows i
      rw [hProc] at hKnows
      obtain ⟨hInv, hAfter, hOthers⟩ := h copy mem hProc
      exact hs.become rfl hInv (after_knows hKnows.1 hAfter) hOthers fun _ hRead => hRead
    · exact hs
  | write i =>
    rw [Protocol.step]
    split
    · rename_i copy w rest hProc
      have hKnows := hs.knows i
      rw [hProc] at hKnows
      split
      · rename_i hAccepts
        obtain ⟨hInv, hRest, hOthers⟩ := h copy w rest hProc hAccepts
        refine hs.become rfl ?_ ?_ ?_ fun _ hRead => hRead.put _
        · rw [Versioned.put_value]
          exact hInv
        · cases rest with
          | none => trivial
          | some mem =>
            refine ⟨hKnows.1.put _, ?_⟩
            rw [Versioned.put_value]
            exact hRest mem rfl
        · intro j hj
          rw [Versioned.put_value]
          exact hOthers j hj
      · exact hs.become rfl hs.inv trivial (hRefl i) fun _ hRead => hRead
    · exact hs
  | fail i =>
    exact hs.become rfl hs.inv trivial (hRefl i) fun _ hRead => hRead

theorem Sound.good_step (h : A.Sound P) {s : System ι α σ ω μ} (hs : A.Good s) (e : Event ι ε) :
    A.Good (P.step s e) :=
  hs.step (h.allows hs e)

theorem Sound.run (h : A.Sound P) {value : α} {world : σ} (hInit : A.inv value world)
    (events : List (Event ι ε)) : A.Good (Runs.run P.step (System.init value world) events) :=
  Runs.run_induction ⟨hInit, fun _ => trivial⟩ fun _ e hs => h.good_step hs e

end Annotation

theorem step_object {s : System ι α σ ω μ} (hs : A.Good s) (e : Event ι ε) :
    (P.step s e).object.value = s.object.value ∨
    ∃ i copy w rest, A.pending i copy w rest s.object.value s.world ∧
      (P.guarded w = true → copy = s.object.value) ∧
      (P.step s e).object.value = P.apply w s.object.value := by
  cases e with
  | read i =>
    rw [Protocol.step]
    split <;> exact .inl rfl
  | act i answers =>
    rw [Protocol.step]
    split <;> exact .inl rfl
  | fail i => exact .inl rfl
  | write i =>
    rw [Protocol.step]
    split
    · rename_i copy w rest hProc
      have hKnows := hs.knows i
      rw [hProc] at hKnows
      split
      · rename_i hAccepts
        exact .inr ⟨i, copy.value, w, rest, hKnows.2, Annotation.accepted_current hKnows.1 hAccepts,
          Versioned.put_value _ _⟩
      · exact .inl rfl
    · exact .inl rfl

end Liteio.Optimistic
