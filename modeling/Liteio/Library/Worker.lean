import Liteio.Library.Optimistic

/-! # A worker and writers on one object

A pass of the worker is a program: it makes calls that change the world, sends
guarded writes of the object it has read, and may stop anywhere. A pass of a
writer sends at most one write and leaves the world alone.

`Meets` is the precondition of a program: the calls it comes to are callable
there, and a write keeps the invariant if the object is still the copy. It is
computed along the program and composes with `bind`; `All` is the case in which
neither the world nor the order matters. `Valid.always` gives the invariant for
all runs whose calls and writes meet their guards.
-/

namespace Liteio.Worker

open Optimistic

universe u

inductive Prog (C : Type u) (R : C → Type u) (ω β : Type u) : Type u where
  | done (b : β)
  | stop
  | call (c : C) (k : R c → Prog C R ω β)
  | write (w : ω) (k : Prog C R ω β)

inductive Process where
  | worker
  | writer (pass : ℕ)
  deriving DecidableEq

structure Model (α σ ε : Type*) (C : Type u) (R : C → Type u) (ω : Type u) where
  program : α → Prog C R ω PUnit
  perform : (c : C) → ε → σ → R c × σ
  writer : ε → α → Option ω
  guarded : ω → Bool
  apply : ω → α → α

structure Guards (C ω : Type u) (α σ : Type*) where
  permitted : C → α → σ → Prop
  welcome : ω → α → σ → Prop

/-- An invariant, what a copy tells of the object until the worker writes, and
the calls a program comes to, with or without a write before. -/
structure Spec (C ω : Type u) (α σ : Type*) extends Guards C ω α σ where
  inv : α → σ → Prop
  rel : α → α → Prop
  callable : α → C → Bool → σ → Prop

variable {C : Type u} {R : C → Type u} {ω β γ : Type u} {α σ ε : Type*}

namespace Prog

def bind (p : Prog C R ω β) (f : β → Prog C R ω γ) : Prog C R ω γ :=
  match p with
  | .done b => f b
  | .stop => .stop
  | .call c k => .call c fun reply => (k reply).bind f
  | .write w k => .write w (k.bind f)

instance : Monad (Prog C R ω) where
  pure := .done
  bind := bind

def perform (c : C) : Prog C R ω (R c) := .call c .done

def send (w : ω) : Prog C R ω PUnit := .write w (.done ⟨⟩)

@[simp] theorem pure_eq (b : β) : (pure b : Prog C R ω β) = .done b := rfl

@[simp] theorem bind_eq (p : Prog C R ω β) (f : β → Prog C R ω γ) : p >>= f = p.bind f := rfl

@[simp] theorem done_bind (b : β) (f : β → Prog C R ω γ) : (done b).bind f = f b := rfl

@[simp] theorem stop_bind (f : β → Prog C R ω γ) : stop.bind f = (stop : Prog C R ω γ) := rfl

@[simp] theorem perform_bind (c : C) (f : R c → Prog C R ω γ) : (perform c).bind f = .call c f := rfl

@[simp] theorem send_bind (w : ω) (f : PUnit → Prog C R ω γ) : (send w).bind f = .write w (f ⟨⟩) := rfl

def All (calls : C → Prop) (writes : ω → Prop) (post : β → Prop) : Prog C R ω β → Prop
  | .done b => post b
  | .stop => True
  | .call c k => calls c ∧ ∀ reply, All calls writes post (k reply)
  | .write w k => writes w ∧ All calls writes post k

theorem All.bind {calls : C → Prop} {writes : ω → Prop} {mid : β → Prop} {post : γ → Prop}
    {p : Prog C R ω β} {f : β → Prog C R ω γ} (h : p.All calls writes mid)
    (hNext : ∀ b, mid b → (f b).All calls writes post) : (p.bind f).All calls writes post := by
  induction p with
  | done b => exact hNext b h
  | stop => trivial
  | call c k ih => exact ⟨h.1, fun reply => ih reply (h.2 reply)⟩
  | write w k ih => exact ⟨h.1, ih h.2⟩

theorem All.mono {calls calls' : C → Prop} {writes writes' : ω → Prop} {mid post : β → Prop} {p : Prog C R ω β}
    (h : p.All calls writes mid) (hCalls : ∀ c, calls c → calls' c) (hWrites : ∀ w, writes w → writes' w)
    (hPost : ∀ b, mid b → post b) : p.All calls' writes' post := by
  induction p with
  | done b => exact hPost b h
  | stop => trivial
  | call c k ih => exact ⟨hCalls c h.1, fun reply => ih reply (h.2 reply)⟩
  | write w k ih => exact ⟨hWrites w h.1, ih h.2⟩

end Prog

namespace Model

variable (M : Model α σ ε C R ω)

def act : Process → ε → α → Option (Prog C R ω PUnit) → σ → σ × Next ω (Option (Prog C R ω PUnit))
  | .worker, _, copy, none, s => (s, .go (some (M.program copy)))
  | .worker, _, _, some (.done _), s => (s, .stop)
  | .worker, _, _, some .stop, s => (s, .stop)
  | .worker, answers, _, some (.call c k), s =>
    ((M.perform c answers s).2, .go (some (k (M.perform c answers s).1)))
  | .worker, _, _, some (.write w k), s => (s, .write w (some (some k)))
  | .writer _, answers, copy, _, s =>
    (s, match M.writer answers copy with
      | some w => .write w none
      | none => .stop)

def protocol : Protocol Process α σ ε ω (Option (Prog C R ω PUnit)) where
  start _ := none
  act := M.act
  guarded := M.guarded
  apply := M.apply

/-- A pass that nobody interrupts. Its first write goes through; a second one
would carry the version from before the first, so it is refused. -/
def exec (answers : C → ε) : Prog C R ω β → Bool → α → σ → α × σ
  | .done _, _, obj, s => (obj, s)
  | .stop, _, obj, s => (obj, s)
  | .call c k, written, obj, s =>
    exec answers (k (M.perform c (answers c) s).1) written obj (M.perform c (answers c) s).2
  | .write w k, written, obj, s =>
    if written then (obj, s) else exec answers k true (M.apply w obj) s

theorem exec_written (answers : C → ε) (p : Prog C R ω β) (obj : α) (s : σ) :
    (M.exec answers p true obj s).1 = obj := by
  induction p generalizing s with
  | done b => rfl
  | stop => rfl
  | call c k ih => exact ih _ _
  | write w k ih => rfl

theorem exec_object {calls : C → Prop} {writes : ω → Prop} {post : β → Prop} {p : Prog C R ω β}
    (h : p.All calls writes post) (answers : C → ε) (obj : α) (s : σ) :
    (M.exec answers p false obj s).1 = obj ∨
      ∃ w, writes w ∧ (M.exec answers p false obj s).1 = M.apply w obj := by
  induction p generalizing s with
  | done b => exact .inl rfl
  | stop => exact .inl rfl
  | call c k ih => exact ih _ (h.2 _) _
  | write w k ih => exact .inr ⟨w, h.1, M.exec_written answers k (M.apply w obj) s⟩

end Model

def Guards.Met (G : Guards C ω α σ) (M : Model α σ ε C R ω)
    (s : System Process α σ ω (Option (Prog C R ω PUnit))) : Event Process ε → Prop
  | .act .worker _ =>
    match s.procs .worker with
    | .holding _ (some (.call c _)) => G.permitted c s.object.value s.world
    | _ => True
  | .write (.writer n) =>
    match s.procs (.writer n) with
    | .writing copy w _ =>
      M.protocol.accepts s.object copy w = true → G.welcome w s.object.value s.world
    | _ => True
  | _ => True

instance Guards.Met.decidable (G : Guards C ω α σ) (M : Model α σ ε C R ω)
    [∀ c obj s, Decidable (G.permitted c obj s)] [∀ w obj s, Decidable (G.welcome w obj s)]
    (s : System Process α σ ω (Option (Prog C R ω PUnit))) : ∀ e, Decidable (G.Met M s e)
  | .read _ | .fail _ | .act (.writer _) _ | .write .worker => isTrue trivial
  | .act .worker _ =>
    match h : s.procs .worker with
    | .holding _ (some (.call c _)) =>
      decidable_of_iff (G.permitted c s.object.value s.world) (by rw [Met, h])
    | .idle | .writing .. | .holding _ none | .holding _ (some (.done _)) | .holding _ (some .stop)
    | .holding _ (some (.write ..)) => isTrue (by rw [Met, h]; trivial)
  | .write (.writer n) =>
    match h : s.procs (.writer n) with
    | .writing copy w _ =>
      decidable_of_iff (M.protocol.accepts s.object copy w = true → G.welcome w s.object.value s.world)
        (by rw [Met, h])
    | .idle | .holding .. => isTrue (by rw [Met, h]; trivial)

namespace Spec

variable (S : Spec C ω α σ) (M : Model α σ ε C R ω)

def Meets (copy : α) (post : β → Bool → σ → Prop) : Prog C R ω β → Bool → σ → Prop
  | .done b, written, s => post b written s
  | .stop, _, _ => True
  | .call c k, written, s => S.callable copy c written s ∧ ∀ obj, S.permitted c obj s → ∀ answers,
      Meets copy post (k (M.perform c answers s).1) written (M.perform c answers s).2
  | .write w k, _, s => M.guarded w = true ∧ S.inv (M.apply w copy) s ∧ Meets copy post k true s

structure Valid : Prop where
  refl : ∀ obj, S.rel obj obj
  program : ∀ copy s, S.inv copy s → S.Meets M copy (fun _ _ _ => True) (M.program copy) false s
  call : ∀ copy c written answers obj s, S.inv obj s → (written = false → S.rel copy obj) →
    S.callable copy c written s → S.permitted c obj s → S.inv obj (M.perform c answers s).2
  writer : ∀ answers copy w obj s, M.writer answers copy = some w →
    (M.guarded w = true → copy = obj) → S.inv obj s → S.welcome w obj s →
    S.inv (M.apply w obj) s ∧ ∀ other, S.rel other obj → S.rel other (M.apply w obj)

def annotated : Annotation Process α σ ω (Option (Prog C R ω PUnit)) where
  inv := S.inv
  held
    | .worker, copy, none, obj, s => S.inv copy s ∧ S.rel copy obj
    | .worker, copy, some p, obj, s => ∃ written, (written = false → S.rel copy obj) ∧
        S.Meets M copy (fun _ _ _ => True) p written s
    | .writer _, _, _, _, _ => True
  pending
    | .worker, copy, w, rest, _, s => M.guarded w = true ∧ S.inv (M.apply w copy) s ∧
        ∃ k, rest = some (some k) ∧ S.Meets M copy (fun _ _ _ => True) k true s
    | .writer _, copy, w, _, _, _ => ∃ answers, M.writer answers copy = some w

end Spec

namespace Spec

variable {S : Spec C ω α σ} {M : Model α σ ε C R ω} {copy : α} {written : Bool} {s : σ}

theorem Meets.bind {p : Prog C R ω β} {f : β → Prog C R ω γ} {mid : β → Bool → σ → Prop}
    {post : γ → Bool → σ → Prop} (h : S.Meets M copy mid p written s)
    (hNext : ∀ b written s, mid b written s → S.Meets M copy post (f b) written s) :
    S.Meets M copy post (p.bind f) written s := by
  induction p generalizing written s with
  | done b => exact hNext b written s h
  | stop => trivial
  | call c k ih => exact ⟨h.1, fun obj hPermitted answers => ih _ (h.2 obj hPermitted answers)⟩
  | write w k ih => exact ⟨h.1, h.2.1, ih h.2.2⟩

theorem Meets.mono {p : Prog C R ω β} {mid post : β → Bool → σ → Prop} (h : S.Meets M copy mid p written s)
    (hPost : ∀ b written s, mid b written s → post b written s) : S.Meets M copy post p written s := by
  induction p generalizing written s with
  | done b => exact hPost b written s h
  | stop => trivial
  | call c k ih => exact ⟨h.1, fun obj hPermitted answers => ih _ (h.2 obj hPermitted answers)⟩
  | write w k ih => exact ⟨h.1, h.2.1, ih h.2.2⟩

theorem Meets.exec {p : Prog C R ω β} {post : β → Bool → σ → Prop} {obj : α} (h : S.Meets M copy post p written s)
    (hValid : S.Valid M) (hFree : ∀ c obj s, S.permitted c obj s) (hCopy : written = false → copy = obj)
    (hInv : S.inv obj s) (answers : C → ε) :
    S.inv (M.exec answers p written obj s).1 (M.exec answers p written obj s).2 := by
  induction p generalizing written obj s with
  | done b => exact hInv
  | stop => exact hInv
  | call c k ih =>
    have hNext := hValid.call copy c written (answers c) obj s hInv
      (fun hWritten => hCopy hWritten ▸ hValid.refl copy) h.1 (hFree c obj s)
    exact ih _ (h.2 obj (hFree c obj s) (answers c)) hCopy hNext
  | write w k ih =>
    rw [Model.exec]
    split
    · exact hInv
    · rename_i hWritten
      cases hCopy (Bool.not_eq_true _ ▸ hWritten)
      exact ih h.2.2 (fun hTrue => by cases hTrue) h.2.1

theorem meets_of_all {calls : C → Prop} {writes : ω → Prop} {post : β → Prop} (world : σ → Prop)
    {p : Prog C R ω β} (h : p.All calls writes post) (hWorld : world s)
    (hCall : ∀ c, calls c → ∀ written s, world s → S.callable copy c written s ∧
      ∀ answers, world (M.perform c answers s).2)
    (hWrite : ∀ w, writes w → ∀ s, world s → M.guarded w = true ∧ S.inv (M.apply w copy) s) :
    S.Meets M copy (fun b _ s => post b ∧ world s) p written s := by
  induction p generalizing written s with
  | done b => exact ⟨h, hWorld⟩
  | stop => trivial
  | call c k ih =>
    obtain ⟨hCallable, hKeeps⟩ := hCall c h.1 written s hWorld
    exact ⟨hCallable, fun _ _ answers => ih _ (h.2 _) (hKeeps answers)⟩
  | write w k ih =>
    obtain ⟨hGuarded, hInv⟩ := hWrite w h.1 s hWorld
    exact ⟨hGuarded, hInv, ih h.2 hWorld⟩

variable {obj : α} {world : σ} {i : Process}

theorem keeps_of_ne_worker (hWorker : i ≠ .worker) (obj' : α) (world' : σ) :
    (S.annotated M).Keeps i obj world obj' world' := by
  cases i with
  | worker => exact absurd rfl hWorker
  | writer n => exact ⟨fun _ _ h => h, fun _ _ _ h => h⟩

theorem worker_keeps {obj' : α} (h : ∀ copy, S.rel copy obj → S.rel copy obj') :
    (S.annotated M).Keeps .worker obj world obj' world := by
  refine ⟨fun copy mem hHeld => ?_, fun _ _ _ hPending => hPending⟩
  cases mem with
  | none => exact ⟨hHeld.1, h copy hHeld.2⟩
  | some p =>
    obtain ⟨written, hRel, hMeets⟩ := hHeld
    exact ⟨written, fun hWritten => h copy (hRel hWritten), hMeets⟩

theorem Valid.act_worker (hValid : S.Valid M) (answers : ε) {mem : Option (Prog C R ω PUnit)}
    (hInv : S.inv obj world) (hHeld : (S.annotated M).held .worker copy mem obj world)
    (hPermitted : ∀ c k, mem = some (.call c k) → S.permitted c obj world) :
    S.inv obj (M.act .worker answers copy mem world).1 ∧
      (S.annotated M).after .worker copy obj (M.act .worker answers copy mem world).1
        (M.act .worker answers copy mem world).2 := by
  cases mem with
  | none => exact ⟨hInv, false, fun _ => hHeld.2, hValid.program copy world hHeld.1⟩
  | some p =>
    obtain ⟨written, hRel, hMeets⟩ := hHeld
    cases p with
    | done b => exact ⟨hInv, trivial⟩
    | stop => exact ⟨hInv, trivial⟩
    | call c k =>
      have hCall := hPermitted c k rfl
      exact ⟨hValid.call copy c written answers obj world hInv hRel hMeets.1 hCall,
        written, hRel, hMeets.2 obj hCall answers⟩
    | write w k => exact ⟨hInv, hMeets.1, hMeets.2.1, k, rfl, hMeets.2.2⟩

variable [DecidableEq α]

theorem Valid.good_step (hValid : S.Valid M) {t : System Process α σ ω (Option (Prog C R ω PUnit))}
    {e : Event Process ε} (ht : (S.annotated M).Good t) (hGuard : S.Met M t e) :
    (S.annotated M).Good (M.protocol.step t e) := by
  apply ht.step
  cases e with
  | fail i => trivial
  | read i =>
    cases i with
    | worker => exact ⟨ht.inv, hValid.refl _⟩
    | writer n => trivial
  | act i answers =>
    intro copy mem hProc
    have hKnows := ht.knows i
    rw [hProc] at hKnows
    cases i with
    | worker =>
      obtain ⟨hInv, hAfter⟩ := hValid.act_worker answers ht.inv hKnows.2 <| by
        rintro c k rfl
        rw [Guards.Met, hProc] at hGuard
        exact hGuard
      exact ⟨hInv, hAfter, fun j hj => keeps_of_ne_worker hj _ _⟩
    | writer n =>
      refine ⟨ht.inv, ?_, fun j _ => .refl _ j _ _⟩
      change (S.annotated M).after _ _ _ _ (match M.writer answers copy.value with
        | some w => .write w none
        | none => .stop)
      split
      · rename_i w hWriter
        exact ⟨answers, hWriter⟩
      · trivial
  | write i =>
    intro copy w rest hProc hAccepts
    have hKnows := ht.knows i
    rw [hProc] at hKnows
    have hCurrent := Annotation.accepted_current hKnows.1 hAccepts
    cases i with
    | worker =>
      obtain ⟨hGuarded, hInv, k, rfl, hMeets⟩ := hKnows.2
      rw [hCurrent hGuarded] at hInv
      refine ⟨hInv, ?_, fun j hj => keeps_of_ne_worker hj _ _⟩
      rintro mem ⟨⟩
      exact ⟨true, fun h => (by cases h), hMeets⟩
    | writer n =>
      obtain ⟨answers, hWriter⟩ := hKnows.2
      rw [Guards.Met, hProc] at hGuard
      obtain ⟨hInv, hRel⟩ := hValid.writer answers _ w _ _ hWriter hCurrent ht.inv (hGuard hAccepts)
      refine ⟨hInv, fun _ _ => trivial, fun j _ => ?_⟩
      cases j with
      | worker => exact worker_keeps hRel
      | writer m => exact keeps_of_ne_worker (by simp) _ _

/-- In a run whose calls and writes meet their guards the invariant holds throughout. -/
theorem Valid.always (hValid : S.Valid M) {value : α} (hInit : S.inv value world)
    {events : List (Event Process ε)}
    (hGuarded : Runs.Guarded M.protocol.step (S.Met M) (System.init value world) events) :
    Runs.Always M.protocol.step (fun t => S.inv t.object.value t.world) (System.init value world) events :=
  (hGuarded.always (⟨hInit, fun _ => trivial⟩ : (S.annotated M).Good (System.init value world))
    fun _ _ ht hGuard => hValid.good_step ht hGuard).mono fun _ ht => ht.inv

theorem Valid.always_free (hValid : S.Valid M) (hPermitted : ∀ c obj s, S.permitted c obj s)
    (hWelcome : ∀ w obj s, S.welcome w obj s) {value : α} (hInit : S.inv value world)
    (events : List (Event Process ε)) :
    Runs.Always M.protocol.step (fun t => S.inv t.object.value t.world) (System.init value world) events := by
  refine hValid.always hInit (Runs.guarded_of_forall fun e _ t => ?_)
  unfold Guards.Met
  split
  · split
    · exact hPermitted _ _ _
    · trivial
  · split
    · exact fun _ => hWelcome _ _ _
    · trivial
  · trivial

end Spec

end Liteio.Worker
