import Liteio.Library.Programs

/-! # Specifications of the small programs

How `attempt`, `fetch` and `when` meet a specification, and a program that sends
nothing. `Completes` says that a part of an uninterrupted pass comes to its end
without a write, and `exec_bind` puts such parts together. `Sends` says that the
pass comes to a write, and which.
-/

namespace Liteio.Worker

universe u

variable {C : Type u} {R : C → Type u} {ω β γ : Type u} {α σ ε : Type*}

namespace Spec

variable {S : Spec C ω α σ} {M : Model α σ ε C R ω} {copy : α} {written : Bool} {s : σ}

theorem meets_attempt {c : C} {ok : R c → Bool} {post : PUnit → Bool → σ → Prop}
    (hCallable : S.callable copy c written s)
    (h : ∀ obj, S.permitted c obj s → ∀ answers, ok (M.perform c answers s).1 = true →
      post ⟨⟩ written (M.perform c answers s).2) :
    S.Meets M copy post (.attempt c ok) written s := by
  refine ⟨hCallable, fun obj hPermitted answers => ?_⟩
  dsimp only
  split
  · exact h obj hPermitted answers ‹_›
  · trivial

theorem meets_fetch {c : C} {value : R c → Option β} {post : β → Bool → σ → Prop}
    (hCallable : S.callable copy c written s)
    (h : ∀ obj, S.permitted c obj s → ∀ answers b, value (M.perform c answers s).1 = some b →
      post b written (M.perform c answers s).2) :
    S.Meets M copy post (.fetch c value) written s := by
  refine ⟨hCallable, fun obj hPermitted answers => ?_⟩
  dsimp only
  split
  · exact h obj hPermitted answers _ ‹_›
  · trivial

theorem meets_when {cond : Prop} [Decidable cond] {p : Prog C R ω PUnit} {post : PUnit → Bool → σ → Prop}
    (h : cond → S.Meets M copy post p written s) (hSkip : ¬ cond → post ⟨⟩ written s) :
    S.Meets M copy post (.when cond p) written s := by
  unfold Prog.when
  split
  · exact h ‹_›
  · exact hSkip ‹_›

theorem meets_of_calls {calls : C → Prop} {post : β → Prop} (world : σ → Prop) {p : Prog C R ω β}
    (h : p.All calls (fun _ => False) post) (hWorld : world s)
    (hCall : ∀ c, calls c → ∀ s, world s → S.callable copy c written s ∧
      ∀ answers, world (M.perform c answers s).2) :
    S.Meets M copy (fun b now s => now = written ∧ post b ∧ world s) p written s := by
  induction p generalizing s with
  | done b => exact ⟨rfl, h, hWorld⟩
  | stop => trivial
  | call c k ih =>
    obtain ⟨hCallable, hKeeps⟩ := hCall c h.1 s hWorld
    exact ⟨hCallable, fun _ _ answers => ih _ (h.2 _) (hKeeps answers)⟩
  | write w k ih => exact h.1.elim

theorem Meets.exec_of_all {calls : C → Prop} {writes : ω → Prop} {post : β → Bool → σ → Prop} {result : β → Prop}
    {p : Prog C R ω β} {obj : α} (h : S.Meets M copy post p written s) (hAll : p.All calls writes result)
    (hFree : ∀ c, calls c → ∀ obj s, S.permitted c obj s) (hValid : S.Valid M) (hCopy : written = false → copy = obj)
    (hInv : S.inv obj s) (answers : C → ε) :
    S.inv (M.exec answers p written obj s).1 (M.exec answers p written obj s).2 := by
  induction p generalizing written obj s with
  | done b => exact hInv
  | stop => exact hInv
  | call c k ih =>
    have hPermitted := hFree c hAll.1 obj s
    have hNext := hValid.call copy c written (answers c) obj s hInv
      (fun hWritten => hCopy hWritten ▸ hValid.refl copy) h.1 hPermitted
    exact ih _ (h.2 obj hPermitted (answers c)) (hAll.2 _) hCopy hNext
  | write w k ih =>
    rw [Model.exec]
    split
    · exact hInv
    next hWritten =>
      cases hCopy (Bool.not_eq_true _ ▸ hWritten)
      exact ih h.2.2 hAll.2 (fun hTrue => by cases hTrue) h.2.1

end Spec

namespace Model

variable {M : Model α σ ε C R ω} {answers : C → ε} {s : σ}

variable (M answers) in
def Completes (post : β → σ → Prop) : Prog C R ω β → σ → Prop
  | .done b, s => post b s
  | .stop, _ => False
  | .call c k, s => Completes post (k (M.perform c (answers c) s).1) (M.perform c (answers c) s).2
  | .write _ _, _ => False

theorem Completes.bind {p : Prog C R ω β} {f : β → Prog C R ω γ} {mid : β → σ → Prop} {post : γ → σ → Prop}
    (h : M.Completes answers mid p s) (hNext : ∀ b s, mid b s → M.Completes answers post (f b) s) :
    M.Completes answers post (p.bind f) s := by
  induction p generalizing s with
  | done b => exact hNext b s h
  | stop => exact h.elim
  | call c k ih => exact ih _ h
  | write w k ih => exact h.elim

theorem completes_attempt {c : C} {ok : R c → Bool} {post : PUnit → σ → Prop}
    (hOk : ok (M.perform c (answers c) s).1 = true) (h : post ⟨⟩ (M.perform c (answers c) s).2) :
    M.Completes answers post (.attempt c ok) s := by
  rw [Prog.attempt, Completes, if_pos hOk]
  exact h

theorem completes_fetch {c : C} {value : R c → Option β} {post : β → σ → Prop} {b : β}
    (hValue : value (M.perform c (answers c) s).1 = some b) (h : post b (M.perform c (answers c) s).2) :
    M.Completes answers post (.fetch c value) s := by
  rw [Prog.fetch, Completes, hValue]
  exact h

theorem completes_when {cond : Prop} [Decidable cond] {p : Prog C R ω PUnit} {post : PUnit → σ → Prop}
    (h : cond → M.Completes answers post p s) (hSkip : ¬ cond → post ⟨⟩ s) :
    M.Completes answers post (.when cond p) s := by
  unfold Prog.when
  split
  · exact h ‹_›
  · exact hSkip ‹_›

theorem Completes.exec_bind {p : Prog C R ω β} {f : β → Prog C R ω γ} {mid : β → σ → Prop} {written : Bool} {obj : α}
    (h : M.Completes answers mid p s) (post : α × σ → Prop)
    (hNext : ∀ b s, mid b s → post (M.exec answers (f b) written obj s)) :
    post (M.exec answers (p.bind f) written obj s) := by
  induction p generalizing s with
  | done b => exact hNext b s h
  | stop => exact h.elim
  | call c k ih => exact ih _ h
  | write w k ih => exact h.elim

variable (M answers) in
def Sends (writes : ω → Prop) : Prog C R ω β → σ → Prop
  | .done _, _ => False
  | .stop, _ => False
  | .call c k, s => Sends writes (k (M.perform c (answers c) s).1) (M.perform c (answers c) s).2
  | .write w _, _ => writes w

theorem Sends.bind {p : Prog C R ω β} {writes : ω → Prop} (h : M.Sends answers writes p s) (f : β → Prog C R ω γ) :
    M.Sends answers writes (p.bind f) s := by
  induction p generalizing s with
  | done b => exact h.elim
  | stop => exact h.elim
  | call c k ih => exact ih _ h
  | write w k ih => exact h

theorem Completes.sends {p : Prog C R ω β} {f : β → Prog C R ω γ} {mid : β → σ → Prop} {writes : ω → Prop}
    (h : M.Completes answers mid p s) (hNext : ∀ b s, mid b s → M.Sends answers writes (f b) s) :
    M.Sends answers writes (p.bind f) s := by
  induction p generalizing s with
  | done b => exact hNext b s h
  | stop => exact h.elim
  | call c k ih => exact ih _ h
  | write w k ih => exact h.elim

theorem Sends.exec {p : Prog C R ω β} {writes : ω → Prop} (h : M.Sends answers writes p s) (obj : α) :
    ∃ w, writes w ∧ (M.exec answers p false obj s).1 = M.apply w obj := by
  induction p generalizing s with
  | done b => exact h.elim
  | stop => exact h.elim
  | call c k ih => exact ih _ h
  | write w k ih => exact ⟨w, h, M.exec_written answers k (M.apply w obj) s⟩

end Model

end Liteio.Worker
