import Liteio.Library.Worker

/-! # Programs that run to their end

`eval` runs a program against a world. A program whose calls are all related
steps of the world is such a step itself, and `Wp` is the precondition of a
program each of whose calls may act in several ways. `AllIf` looks only at the
calls a program comes to after certain replies, and `trace` lists the calls of an
uninterrupted pass with the replies they got.
-/

namespace Liteio.Worker

universe u

variable {C : Type u} {R : C → Type u} {ω β γ : Type u} {α σ ε : Type*}

namespace Prog

def attempt (c : C) (ok : R c → Bool) : Prog C R ω PUnit :=
  .call c fun reply => if ok reply then .done ⟨⟩ else .stop

def fetch (c : C) (value : R c → Option β) : Prog C R ω β :=
  .call c fun reply => match value reply with
    | some b => .done b
    | none => .stop

def when (cond : Prop) [Decidable cond] (p : Prog C R ω PUnit) : Prog C R ω PUnit :=
  if cond then p else .done ⟨⟩

def eval (perform : (c : C) → σ → R c × σ) : Prog C R ω β → σ → Option β × σ
  | .done b, s => (some b, s)
  | .stop, s => (none, s)
  | .call c k, s => eval perform (k (perform c s).1) (perform c s).2
  | .write _ k, s => eval perform k s

def AllIf (allows : (c : C) → R c → Prop) (calls : C → Prop) (post : β → Prop) : Prog C R ω β → Prop
  | .done b => post b
  | .stop => True
  | .call c k => calls c ∧ ∀ reply, allows c reply → AllIf allows calls post (k reply)
  | .write _ k => AllIf allows calls post k

def Wp (acts : (c : C) → σ → R c × σ → Prop) (post : β → σ → Prop) : Prog C R ω β → σ → Prop
  | .done b, s => post b s
  | .stop, _ => True
  | .call c k, s => ∀ reply s', acts c s (reply, s') → Wp acts post (k reply) s'
  | .write _ k, s => Wp acts post k s

section

variable {allows : (c : C) → R c → Prop} {calls : C → Prop} {writes : ω → Prop} {p : Prog C R ω β}
  {f : β → Prog C R ω γ}

theorem All.allIf {post : β → Prop} (h : p.All calls writes post) : p.AllIf allows calls post := by
  induction p with
  | done b => exact h
  | stop => trivial
  | call c k ih => exact ⟨h.1, fun reply _ => ih reply (h.2 reply)⟩
  | write w k ih => exact ih h.2

theorem AllIf.bind {mid : β → Prop} {post : γ → Prop} (h : p.AllIf allows calls mid)
    (hNext : ∀ b, mid b → (f b).AllIf allows calls post) : (p.bind f).AllIf allows calls post := by
  induction p with
  | done b => exact hNext b h
  | stop => trivial
  | call c k ih => exact ⟨h.1, fun reply hReply => ih reply (h.2 reply hReply)⟩
  | write w k ih => exact ih h

theorem all_attempt {c : C} {ok : R c → Bool} (hCall : calls c) :
    (attempt c ok : Prog C R ω PUnit).All calls writes fun _ => True := by
  refine ⟨hCall, fun reply => ?_⟩
  dsimp only
  split <;> trivial

theorem all_fetch {c : C} {value : R c → Option β} (hCall : calls c) :
    (fetch c value : Prog C R ω β).All calls writes fun _ => True := by
  refine ⟨hCall, fun reply => ?_⟩
  dsimp only
  split <;> trivial

theorem allIf_fetch {c : C} {value : R c → Option β} {post : β → Prop} (hCall : calls c)
    (hPost : ∀ reply b, allows c reply → value reply = some b → post b) :
    (fetch c value : Prog C R ω β).AllIf allows calls post := by
  refine ⟨hCall, fun reply hReply => ?_⟩
  dsimp only
  split
  · exact hPost reply _ hReply ‹_›
  · trivial

theorem all_when {cond : Prop} [Decidable cond] {p : Prog C R ω PUnit}
    (h : cond → p.All calls writes fun _ => True) : (when cond p).All calls writes fun _ => True := by
  unfold when
  split
  · exact h ‹_›
  · trivial

theorem eval_step {perform : (c : C) → σ → R c × σ} {r : σ → σ → Prop} {post : β → Prop}
    (h : p.All calls writes post) (hRefl : ∀ s, r s s) (hTrans : ∀ s t v, r s t → r t v → r s v)
    (hCall : ∀ c, calls c → ∀ s, r s (perform c s).2) (s : σ) : r s (eval perform p s).2 := by
  induction p generalizing s with
  | done b => exact hRefl s
  | stop => exact hRefl s
  | call c k ih => exact hTrans _ _ _ (hCall c h.1 s) (ih _ (h.2 _) _)
  | write w k ih => exact ih h.2 s

theorem eval_keeps {perform : (c : C) → σ → R c × σ} {keeps : σ → Prop} {post : β → Prop}
    (h : p.All calls writes post) (hCall : ∀ c, calls c → ∀ s, keeps s → keeps (perform c s).2) {s : σ}
    (hs : keeps s) : keeps (eval perform p s).2 := by
  induction p generalizing s with
  | done b => exact hs
  | stop => exact hs
  | call c k ih => exact ih _ (h.2 _) (hCall c h.1 s hs)
  | write w k ih => exact ih h.2 hs

theorem eval_bind_cases {mid : β → Prop} (h : p.All calls writes mid) (perform : (c : C) → σ → R c × σ)
    (f : β → Prog C R ω γ) (s : σ) :
    (p.bind f).eval perform s = (none, (p.eval perform s).2) ∨
      ∃ b, mid b ∧ (p.bind f).eval perform s = (f b).eval perform (p.eval perform s).2 := by
  induction p generalizing s with
  | done b => exact .inr ⟨b, h, rfl⟩
  | stop => exact .inl rfl
  | call c k ih => exact ih _ (h.2 _) _
  | write w k ih => exact ih h.2 s

variable {acts : (c : C) → σ → R c × σ → Prop} {s : σ}

theorem Wp.bind {mid : β → σ → Prop} {post : γ → σ → Prop} (h : p.Wp acts mid s)
    (hNext : ∀ b s, mid b s → (f b).Wp acts post s) : (p.bind f).Wp acts post s := by
  induction p generalizing s with
  | done b => exact hNext b s h
  | stop => trivial
  | call c k ih => exact fun reply s' hActs => ih reply (h reply s' hActs)
  | write w k ih => exact ih h

theorem wp_attempt {c : C} {ok : R c → Bool} {post : PUnit → σ → Prop}
    (h : ∀ reply s', acts c s (reply, s') → ok reply = true → post ⟨⟩ s') :
    (attempt c ok : Prog C R ω PUnit).Wp acts post s := by
  intro reply s' hActs
  dsimp only
  split
  · exact h reply s' hActs ‹_›
  · trivial

theorem wp_fetch {c : C} {value : R c → Option β} {post : β → σ → Prop}
    (h : ∀ reply s' b, acts c s (reply, s') → value reply = some b → post b s') :
    (fetch c value : Prog C R ω β).Wp acts post s := by
  intro reply s' hActs
  dsimp only
  split
  · exact h reply s' _ hActs ‹_›
  · trivial

theorem wp_of_all {keeps : σ → Prop} {post : β → Prop} (h : p.All calls writes post) (hs : keeps s)
    (hCall : ∀ c, calls c → ∀ s reply s', acts c s (reply, s') → keeps s → keeps s') :
    p.Wp acts (fun _ s => keeps s) s := by
  induction p generalizing s with
  | done b => exact hs
  | stop => trivial
  | call c k ih => exact fun reply s' hActs => ih reply (h.2 reply) (hCall c h.1 s reply s' hActs hs)
  | write w k ih => exact ih h.2 hs

theorem wp_when {cond : Prop} [Decidable cond] {p : Prog C R ω PUnit} {post : PUnit → σ → Prop}
    (h : cond → p.Wp acts post s) (hSkip : ¬ cond → post ⟨⟩ s) : (when cond p).Wp acts post s := by
  unfold when
  split
  · exact h ‹_›
  · exact hSkip ‹_›

theorem Wp.and_all {post : β → σ → Prop} {result : β → Prop} (h : p.Wp acts post s)
    (hAll : p.All calls writes result) : p.Wp acts (fun b s => post b s ∧ result b) s := by
  induction p generalizing s with
  | done b => exact ⟨h, hAll⟩
  | stop => trivial
  | call c k ih => exact fun reply s' hActs => ih reply (h reply s' hActs) (hAll.2 reply)
  | write w k ih => exact ih h hAll.2

theorem Wp.eval {perform : (c : C) → σ → R c × σ} {post : β → σ → Prop} {b : β} (h : p.Wp acts post s)
    (hActs : ∀ c s, acts c s (perform c s)) (hDone : (p.eval perform s).1 = some b) :
    post b (p.eval perform s).2 := by
  induction p generalizing s with
  | done b =>
    cases hDone
    exact h
  | stop => cases hDone
  | call c k ih => exact ih _ (h _ _ (hActs c s)) hDone
  | write w k ih => exact ih h hDone

end

end Prog

namespace Model

variable (M : Model α σ ε C R ω)

def trace (answers : C → ε) : Prog C R ω β → Bool → σ → List (Sigma R)
  | .done _, _, _ => []
  | .stop, _, _ => []
  | .call c k, written, s =>
    ⟨c, (M.perform c (answers c) s).1⟩ ::
      trace answers (k (M.perform c (answers c) s).1) written (M.perform c (answers c) s).2
  | .write _ k, written, s => if written then [] else trace answers k true s

variable {M} {answers : C → ε} {allows : (c : C) → R c → Prop} {calls : C → Prop} {post : β → Prop}
  {p : Prog C R ω β}

theorem exec_trace {r : List (Sigma R) → σ → σ → Prop} (h : p.AllIf allows calls post)
    (hAllows : ∀ c s, allows c (M.perform c (answers c) s).1) (hRefl : ∀ s, r [] s s)
    (hTrans : ∀ entry entries s t v, r [entry] s t → r entries t v → r (entry :: entries) s v)
    (hCall : ∀ c, calls c → ∀ s, r [⟨c, (M.perform c (answers c) s).1⟩] s (M.perform c (answers c) s).2)
    (written : Bool) (obj : α) (s : σ) :
    r (M.trace answers p written s) s (M.exec answers p written obj s).2 := by
  induction p generalizing written obj s with
  | done b => exact hRefl s
  | stop => exact hRefl s
  | call c k ih => exact hTrans _ _ _ _ _ (hCall c h.1 s) (ih _ (h.2 _ (hAllows c s)) _ _ _)
  | write w k ih =>
    rw [exec, trace]
    split
    · exact hRefl s
    · exact ih h _ _ _

end Model

end Liteio.Worker
