import Liteio.Library.FiniteMap
import Liteio.Library.Runs

/-! # The watcher of SPDK

`SpdkWatcher` of pkg/agent/pool. A tick of `Watch` asks for the status, compares it
with the stored one, sends a payload if their errors differ, and stores it;
`ReadStatus` asks and stores. The calls run side by side and move one of these
parts at a time, on one stored status. What is asked and sent goes into a log.
-/

namespace Liteio.Watcher

variable {ε : Type}

structure SpdkStatus (ε : Type) where
  spdkVersion : String := ""
  error : Option ε := none

structure ChangedStatusPayload (ε : Type) where
  last : SpdkStatus ε
  current : SpdkStatus ε

inductive Tick (ε : Type) where
  | idle
  | sampled (status : SpdkStatus ε)
  | compared (status : SpdkStatus ε)

structure SpdkWatcher (ε : Type) where
  current : SpdkStatus ε
  tick : Tick ε := .idle
  reads : FiniteMap ℕ (SpdkStatus ε) := ∅

def newSpdkWatcher (errTgtUnknown : ε) : SpdkWatcher ε where
  current := { error := some errTgtUnknown }

/-- `done` stands where a tick has sent what it sends. -/
inductive Event (ε : Type) where
  | seen (byWatch : Bool) (status : SpdkStatus ε)
  | sent (payload : ChangedStatusPayload ε)
  | done

inductive Action (ε : Type) where
  | sample (status : SpdkStatus ε)
  | compare
  | assign
  | read (id : ℕ) (status : SpdkStatus ε)
  | store (id : ℕ)

def changed [DecidableEq ε] (last status : SpdkStatus ε) : List (Event ε) :=
  if status.error ≠ last.error then [.sent { last := last, current := status }] else []

def SpdkWatcher.step [DecidableEq ε] (w : SpdkWatcher ε) : Action ε → SpdkWatcher ε × List (Event ε)
  | .sample status =>
    match w.tick with
    | .idle => ({ w with tick := .sampled status }, [.seen true status])
    | _ => (w, [])
  | .compare =>
    match w.tick with
    | .sampled status => ({ w with tick := .compared status }, changed w.current status ++ [.done])
    | _ => (w, [])
  | .assign =>
    match w.tick with
    | .compared status => ({ w with current := status, tick := .idle }, [])
    | _ => (w, [])
  | .read id status =>
    match w.reads.lookup id with
    | none => ({ w with reads := w.reads.insert id status }, [.seen false status])
    | some _ => (w, [])
  | .store id =>
    match w.reads.lookup id with
    | some status => ({ w with current := status, reads := w.reads.erase id }, [])
    | none => (w, [])

structure Watched (ε : Type) where
  watcher : SpdkWatcher ε
  log : List (Event ε) := []

def Watched.step [DecidableEq ε] (s : Watched ε) (a : Action ε) : Watched ε where
  watcher := (s.watcher.step a).1
  log := s.log ++ (s.watcher.step a).2

def Event.IsError : Event ε → Prop
  | .seen _ status => status.error ≠ none
  | _ => False

def Event.IsAlive : Event ε → Prop
  | .seen true status => status.error = none
  | _ => False

def Event.IsRecovery : Event ε → Prop
  | .sent payload => payload.last.error ≠ none ∧ payload.current.error = none
  | _ => False

/-- From any error that is seen to the next tick that sees none, the end of the tick included,
a recovery is sent. -/
def Announces (log : List (Event ε)) : Prop :=
  ∀ before err between alive after rest,
    log = before ++ err :: (between ++ alive :: (after ++ .done :: rest)) →
    err.IsError → alive.IsAlive → (∀ e ∈ between, ¬ e.IsAlive) → .done ∉ after →
    ∃ e ∈ between ++ after, e.IsRecovery

/-- The tick under way has seen no error, and the recovery it has to announce is not sent yet. -/
def Owes (log : List (Event ε)) : Prop :=
  ∃ before err between alive after, log = before ++ err :: (between ++ alive :: after) ∧
    err.IsError ∧ alive.IsAlive ∧ (∀ e ∈ between, ¬ e.IsAlive) ∧ .done ∉ after ∧
    ∀ e ∈ between ++ after, ¬ e.IsRecovery

/-- The stored status is an error when a recovery that is owed is to be noticed. -/
def Noticed (s : Watched ε) : Action ε → Prop
  | .compare => ∀ status, s.watcher.tick = .sampled status → status.error = none → Owes s.log →
      s.watcher.current.error ≠ none
  | _ => True

theorem announces_iff_forall_done {log : List (Event ε)} :
    Announces log ↔ ∀ before rest, log = before ++ .done :: rest → ¬ Owes before := by
  constructor
  · rintro h _ rest rfl ⟨before, err, between, alive, after, rfl, hErr, hAlive, hBetween, hDone, hNone⟩
    obtain ⟨e, hMem, hRecovery⟩ := h before err between alive after rest (by simp) hErr hAlive hBetween hDone
    exact hNone e hMem hRecovery
  · rintro h before err between alive after rest rfl hErr hAlive hBetween hDone
    by_contra hNone
    push Not at hNone
    exact h _ rest (by simp) ⟨before, err, between, alive, after, rfl, hErr, hAlive, hBetween, hDone, hNone⟩

theorem announces_nil : Announces ([] : List (Event ε)) := by
  rw [announces_iff_forall_done]
  intro before rest hLog
  simp at hLog

theorem concat_eq_append_cons_iff {log before after : List (Event ε)} {e cut : Event ε} :
    log ++ [e] = before ++ cut :: after ↔
      after = [] ∧ cut = e ∧ before = log ∨ ∃ rest, after = rest ++ [e] ∧ log = before ++ cut :: rest := by
  rcases List.eq_nil_or_concat after with rfl | ⟨rest, last, rfl⟩
  · constructor
    · intro h
      obtain ⟨rfl, hCut⟩ := List.append_inj' h rfl
      exact .inl ⟨rfl, (List.singleton_inj.mp hCut).symm, rfl⟩
    · rintro (⟨-, rfl, rfl⟩ | ⟨rest, hRest, -⟩)
      · rfl
      · simp at hRest
  · rw [List.concat_eq_append]
    constructor
    · intro h
      rw [← List.cons_append, ← List.append_assoc] at h
      obtain ⟨rfl, hLast⟩ := List.append_inj' h rfl
      exact .inr ⟨rest, by rw [hLast], rfl⟩
    · rintro (⟨hNil, -⟩ | ⟨rest', hRest, rfl⟩)
      · simp at hNil
      · rw [hRest]
        simp

theorem announces_concat {log : List (Event ε)} {e : Event ε} :
    Announces (log ++ [e]) ↔ Announces log ∧ (e = .done → ¬ Owes log) := by
  simp only [announces_iff_forall_done, concat_eq_append_cons_iff]
  constructor
  · intro h
    refine ⟨fun before rest hLog => h before (rest ++ [e]) (.inr ⟨rest, rfl, hLog⟩), fun hDone => ?_⟩
    exact h log [] (.inl ⟨rfl, hDone.symm, rfl⟩)
  · rintro ⟨hLog, hLast⟩ before rest (⟨-, hDone, rfl⟩ | ⟨rest, -, hSplit⟩)
    · exact hLast hDone.symm
    · exact hLog before rest hSplit

theorem owes_sent {log : List (Event ε)} {payload : ChangedStatusPayload ε} :
    Owes (log ++ [.sent payload]) ↔ Owes log ∧ ¬ (Event.sent payload).IsRecovery := by
  constructor
  · rintro ⟨before, err, between, alive, after, hSplit, hErr, hAlive, hBetween, hDone, hNone⟩
    rw [← List.cons_append, ← List.append_assoc, concat_eq_append_cons_iff] at hSplit
    rcases hSplit with ⟨-, rfl, -⟩ | ⟨rest, rfl, rfl⟩
    · exact hAlive.elim
    · rw [← List.append_assoc] at hNone
      refine ⟨⟨before, err, between, alive, rest, by simp, hErr, hAlive, hBetween, ?_, ?_⟩, ?_⟩
      · exact fun hMem => hDone (List.mem_append_left _ hMem)
      · exact fun e hMem => hNone e (List.mem_append_left _ hMem)
      · exact hNone _ (List.mem_append_right _ List.mem_cons_self)
  · rintro ⟨⟨before, err, between, alive, after, rfl, hErr, hAlive, hBetween, hDone, hNone⟩, hNot⟩
    refine ⟨before, err, between, alive, after ++ [.sent payload], by simp, hErr, hAlive, hBetween, ?_, ?_⟩
    · simp [hDone]
    · intro e hMem
      rw [← List.append_assoc, List.mem_append, List.mem_singleton] at hMem
      rcases hMem with hMem | rfl
      · exact hNone e hMem
      · exact hNot

/-- Ticks come one after another: a sample that no end follows belongs to the tick under way. -/
def Sequential (s : Watched ε) : Prop :=
  ∀ before status after, s.log = before ++ .seen true status :: after → .done ∉ after →
    s.watcher.tick = .sampled status

theorem Sequential.of_nil {s : Watched ε} (h : s.log = []) : Sequential s := by
  intro before status after hLog
  simp [h] at hLog

theorem Sequential.alive {s : Watched ε} (h : Sequential s) (hOwes : Owes s.log) :
    ∃ status, s.watcher.tick = .sampled status ∧ status.error = none := by
  obtain ⟨before, err, between, alive, after, hLog, -, hAlive, -, hDone, -⟩ := hOwes
  rw [← List.cons_append, ← List.append_assoc] at hLog
  match alive, hAlive with
  | .seen true status, hAlive => exact ⟨status, h _ _ _ hLog hDone, hAlive⟩

def Unsettled (log : List (Event ε)) : Prop :=
  ∃ before err between, log = before ++ err :: between ∧ err.IsError ∧ ∀ e ∈ between, ¬ e.IsAlive

theorem unsettled_concat {log : List (Event ε)} {e : Event ε} :
    Unsettled (log ++ [e]) ↔ e.IsError ∨ Unsettled log ∧ ¬ e.IsAlive := by
  simp only [Unsettled, concat_eq_append_cons_iff]
  constructor
  · rintro ⟨before, err, between, ⟨rfl, rfl, rfl⟩ | ⟨rest, rfl, rfl⟩, hErr, hBetween⟩
    · exact .inl hErr
    · refine .inr ⟨⟨before, err, rest, rfl, hErr, fun e hMem => hBetween e (List.mem_append_left _ hMem)⟩, ?_⟩
      exact hBetween e (List.mem_append_right _ List.mem_cons_self)
  · rintro (hErr | ⟨⟨before, err, rest, rfl, hErr, hRest⟩, hNot⟩)
    · exact ⟨log, e, [], .inl ⟨rfl, rfl, rfl⟩, hErr, by simp⟩
    · refine ⟨before, err, rest ++ [e], .inr ⟨rest, rfl, rfl⟩, hErr, ?_⟩
      simpa [or_imp, forall_and] using ⟨hRest, hNot⟩

theorem Sequential.unsettled_of_sample {s : Watched ε} (h : Sequential s) (hIdle : s.watcher.tick = .idle)
    {status : SpdkStatus ε} (hOwes : Owes (s.log ++ [.seen true status])) : Unsettled s.log := by
  obtain ⟨before, err, between, alive, after, hLog, hErr, hAlive, hBetween, hDone, -⟩ := hOwes
  rw [← List.cons_append, ← List.append_assoc] at hLog
  rcases concat_eq_append_cons_iff.mp hLog with ⟨-, -, hSame⟩ | ⟨rest, rfl, hRest⟩
  · exact ⟨before, err, between, hSame.symm, hErr, hBetween⟩
  · match alive, hAlive with
    | .seen true other, _ =>
      have hTick := h _ _ _ hRest fun hMem => hDone (List.mem_append_left _ hMem)
      cases hIdle.symm.trans hTick

variable [DecidableEq ε]

theorem announces_changed {log : List (Event ε)} {last status : SpdkStatus ε} :
    Announces (log ++ changed last status) ↔ Announces log := by
  unfold changed
  split
  · simp [announces_concat]
  · rw [List.append_nil]

theorem owes_changed {log : List (Event ε)} {last status : SpdkStatus ε} :
    Owes (log ++ changed last status) ↔ Owes log ∧ ¬ (last.error ≠ none ∧ status.error = none) := by
  unfold changed
  split
  · exact owes_sent
  · rename_i hSame
    rw [List.append_nil, not_not.mp hSame]
    exact (and_iff_left fun h => h.1 h.2).symm

inductive Moves (s : Watched ε) : Action ε → Watched ε → Prop where
  | stay {a : Action ε} (h : a = .compare → ∀ status, s.watcher.tick ≠ .sampled status) : Moves s a s
  | sample {status : SpdkStatus ε} (h : s.watcher.tick = .idle) : Moves s (.sample status)
      { watcher := { s.watcher with tick := .sampled status }, log := s.log ++ [.seen true status] }
  | compare {status : SpdkStatus ε} (h : s.watcher.tick = .sampled status) : Moves s .compare
      { watcher := { s.watcher with tick := .compared status },
        log := s.log ++ changed s.watcher.current status ++ [.done] }
  | assign {status : SpdkStatus ε} (h : s.watcher.tick = .compared status) : Moves s .assign
      { watcher := { s.watcher with current := status, tick := .idle }, log := s.log }
  | read {id : ℕ} {status : SpdkStatus ε} (h : s.watcher.reads.lookup id = none) : Moves s (.read id status)
      { watcher := { s.watcher with reads := s.watcher.reads.insert id status },
        log := s.log ++ [.seen false status] }
  | store {id : ℕ} {status : SpdkStatus ε} (h : s.watcher.reads.lookup id = some status) : Moves s (.store id)
      { watcher := { s.watcher with current := status, reads := s.watcher.reads.erase id }, log := s.log }

theorem Watched.step_moves (s : Watched ε) (a : Action ε) : Moves s a (s.step a) := by
  have hSame : ({ watcher := s.watcher, log := s.log ++ [] } : Watched ε) = s := by rw [List.append_nil]
  rw [Watched.step]
  cases a with
  | sample status =>
    rw [SpdkWatcher.step]
    split
    · rename_i hIdle
      exact .sample hIdle
    · rw [hSame]
      exact .stay nofun
  | compare =>
    rw [SpdkWatcher.step]
    split
    · rename_i status hSampled
      rw [← List.append_assoc]
      exact .compare hSampled
    · rename_i hOther
      rw [hSame]
      exact .stay fun _ => hOther
  | assign =>
    rw [SpdkWatcher.step]
    split
    · rename_i status hCompared
      rw [List.append_nil]
      exact .assign hCompared
    · rw [hSame]
      exact .stay nofun
  | read id status =>
    rw [SpdkWatcher.step]
    split
    · rename_i hNone
      exact .read hNone
    · rw [hSame]
      exact .stay nofun
  | store id =>
    rw [SpdkWatcher.step]
    split
    · rename_i hStatus
      rw [List.append_nil]
      exact .store hStatus
    · rw [hSame]
      exact .stay nofun

theorem announces_step_iff {s : Watched ε} (h : Sequential s) (a : Action ε) :
    Announces (s.step a).log ↔ Announces s.log ∧ Noticed s a := by
  have hMoves := s.step_moves a
  generalize s.step a = next at hMoves ⊢
  cases hMoves with
  | stay hNot =>
    refine (and_iff_left ?_).symm
    cases a with
    | compare => exact fun status hTick => absurd hTick (hNot rfl status)
    | _ => trivial
  | sample => simp [announces_concat, Noticed]
  | @compare status hTick =>
    dsimp only [Noticed]
    rw [announces_concat, announces_changed, owes_changed]
    refine and_congr_right fun _ => ?_
    constructor
    · rintro hSent other hOther hAlive hOwes hCurrent
      cases hTick.symm.trans hOther
      exact hSent rfl ⟨hOwes, fun hBoth => hBoth.1 hCurrent⟩
    · rintro hNoticed - ⟨hOwes, hNot⟩
      obtain ⟨other, hOther, hAlive⟩ := h.alive hOwes
      cases hTick.symm.trans hOther
      exact hNot ⟨hNoticed status hTick hAlive hOwes, hAlive⟩
  | assign => simp [Noticed]
  | read => simp [announces_concat, Noticed]
  | store => simp [Noticed]

theorem Sequential.step {s : Watched ε} (h : Sequential s) (a : Action ε) : Sequential (s.step a) := by
  have hMoves := s.step_moves a
  generalize s.step a = next at hMoves ⊢
  intro before status after hLog hDone
  cases hMoves with
  | stay => exact h before status after hLog hDone
  | sample hTick =>
    rcases concat_eq_append_cons_iff.mp hLog with ⟨-, hCut, -⟩ | ⟨rest, rfl, hRest⟩
    · cases hCut
      rfl
    · have hOld := h before status rest hRest fun hMem => hDone (List.mem_append_left _ hMem)
      cases hTick.symm.trans hOld
  | compare =>
    rcases concat_eq_append_cons_iff.mp hLog with ⟨-, hCut, -⟩ | ⟨rest, rfl, -⟩
    · cases hCut
    · exact absurd (List.mem_append_right _ List.mem_cons_self) hDone
  | assign hTick => cases hTick.symm.trans (h before status after hLog hDone)
  | read =>
    rcases concat_eq_append_cons_iff.mp hLog with ⟨-, hCut, -⟩ | ⟨rest, rfl, hRest⟩
    · cases hCut
    · exact h before status rest hRest fun hMem => hDone (List.mem_append_left _ hMem)
  | store => exact h before status after hLog hDone

theorem announces_run {s : Watched ε} (h : Sequential s) (actions : List (Action ε)) :
    Announces (Runs.run Watched.step s actions).log ↔
      Announces s.log ∧ Runs.Guarded Watched.step Noticed s actions := by
  induction actions generalizing s with
  | nil => exact (and_iff_left trivial).symm
  | cons a actions ih =>
    rw [Runs.run_cons, ih (h.step a), announces_step_iff h, Runs.Guarded, and_assoc]

/-- Every recovery is announced in exactly the runs in which each recovery that is owed finds an
error stored: no `ReadStatus` has stored the recovery before the tick compares. -/
theorem announces_run_iff (w : SpdkWatcher ε) (actions : List (Action ε)) :
    Announces (Runs.run Watched.step { watcher := w } actions).log ↔
      Runs.Guarded Watched.step Noticed { watcher := w } actions := by
  rw [announces_run (.of_nil rfl), and_iff_right announces_nil]

/-- The first tick sees an error, `ReadStatus` sees SPDK back, and so does the next tick. -/
theorem not_announces_of_read :
    ¬ Announces (Runs.run Watched.step { watcher := newSpdkWatcher "unknown status" }
      [.sample { error := some "connection refused" }, .compare, .assign, .read 0 { spdkVersion := "22.05" },
        .store 0, .sample { spdkVersion := "22.05" }, .compare, .assign]).log := by
  intro h
  obtain ⟨e, hMem, hRecovery⟩ := h [] (.seen true { error := some "connection refused" })
    [.sent { last := { error := some "unknown status" }, current := { error := some "connection refused" } },
      .done, .seen false { spdkVersion := "22.05" }]
    (.seen true { spdkVersion := "22.05" }) [] [] rfl (by simp [Event.IsError]) rfl
    (by simp [Event.IsAlive]) (by simp)
  simp only [List.append_nil, List.mem_cons, List.not_mem_nil, or_false] at hMem
  rcases hMem with rfl | rfl | rfl
  · exact absurd hRecovery.2 (by simp)
  · exact hRecovery
  · exact hRecovery

/-- Calls of `ReadStatus` come between two ticks, and none stores that SPDK is alive
over an error. -/
def Harmless (s : Watched ε) : Action ε → Prop
  | .sample _ => s.watcher.reads = ∅
  | .read _ _ => s.watcher.tick = .idle
  | .store id => ∀ status, s.watcher.reads.lookup id = some status →
      status.error ≠ none ∨ s.watcher.current.error = none
  | _ => True

/-- An error that was seen last is stored, or is about to be; a tick under way stores
its own status. -/
def Kept (s : Watched ε) : Prop :=
  match s.watcher.tick with
  | .idle => Unsettled s.log → s.watcher.current.error ≠ none ∨
      ∃ id status, s.watcher.reads.lookup id = some status ∧ status.error ≠ none
  | .sampled status => s.watcher.reads = ∅ ∧ (Owes s.log → s.watcher.current.error ≠ none) ∧
      (Unsettled s.log → status.error ≠ none)
  | .compared status => s.watcher.reads = ∅ ∧ (Unsettled s.log → status.error ≠ none)

theorem unsettled_changed {log : List (Event ε)} {last status : SpdkStatus ε} :
    Unsettled (log ++ changed last status) ↔ Unsettled log := by
  unfold changed
  split
  · simp [unsettled_concat, Event.IsError, Event.IsAlive]
  · rw [List.append_nil]

omit [DecidableEq ε] in
theorem Kept.idle_of_read {s : Watched ε} (h : Kept s) {id : ℕ} {status : SpdkStatus ε}
    (hRead : s.watcher.reads.lookup id = some status) : s.watcher.tick = .idle := by
  unfold Kept at h
  split at h
  · assumption
  · simp [h.1] at hRead
  · simp [h.1] at hRead

theorem Kept.step {s : Watched ε} (hSequential : Sequential s) (h : Kept s) {a : Action ε} (ha : Harmless s a) :
    Kept (s.step a) := by
  have hMoves := s.step_moves a
  generalize s.step a = next at hMoves ⊢
  cases hMoves with
  | stay => exact h
  | @sample status hTick =>
    rw [Kept, hTick] at h
    have hNone : s.watcher.reads = ∅ := ha
    refine ⟨hNone, fun hOwes => ?_, ?_⟩
    · rcases h (hSequential.unsettled_of_sample hTick hOwes) with hStored | ⟨id, read, hRead, -⟩
      · exact hStored
      · simp [hNone] at hRead
    · rw [unsettled_concat]
      rintro (hErr | ⟨-, hNot⟩)
      · exact hErr
      · exact hNot
  | compare hTick =>
    rw [Kept, hTick] at h
    refine ⟨h.1, ?_⟩
    dsimp only
    rw [unsettled_concat, unsettled_changed]
    rintro (hErr | ⟨hOld, -⟩)
    · exact hErr.elim
    · exact h.2.2 hOld
  | assign hTick =>
    rw [Kept, hTick] at h
    exact fun hUnsettled => .inl (h.2 hUnsettled)
  | @read id status hFree =>
    have hTick : s.watcher.tick = .idle := ha
    rw [Kept, hTick] at h
    dsimp only [Kept]
    rw [hTick, unsettled_concat]
    rintro (hErr | ⟨hOld, -⟩)
    · exact .inr ⟨id, status, Finmap.lookup_insert _, hErr⟩
    · refine (h hOld).imp_right ?_
      rintro ⟨other, read, hRead, hErr⟩
      have hNe : other ≠ id := fun hEq => by cases hFree.symm.trans (hEq ▸ hRead)
      exact ⟨other, read, by rw [Finmap.lookup_insert_of_ne _ hNe, hRead], hErr⟩
  | @store id status hStatus =>
    have hTick := h.idle_of_read hStatus
    rw [Kept, hTick] at h
    dsimp only [Kept]
    rw [hTick]
    intro hUnsettled
    rcases h hUnsettled with hStored | ⟨other, read, hRead, hErr⟩
    · exact .inl ((ha status hStatus).resolve_right hStored)
    · by_cases hEq : other = id
      · cases (hEq ▸ hRead).symm.trans hStatus
        exact .inl hErr
      · exact .inr ⟨other, read, by rw [Finmap.lookup_erase_ne hEq, hRead], hErr⟩

/-- The watcher announces every recovery beside harmless calls of `ReadStatus`. -/
theorem harmless_announces (errTgtUnknown : ε) {actions : List (Action ε)}
    (h : Runs.Guarded Watched.step Harmless { watcher := newSpdkWatcher errTgtUnknown } actions) :
    Announces (Runs.run Watched.step { watcher := newSpdkWatcher errTgtUnknown } actions).log := by
  have hSequential : Sequential ({ watcher := newSpdkWatcher errTgtUnknown } : Watched ε) := .of_nil rfl
  have hKept : Kept ({ watcher := newSpdkWatcher errTgtUnknown } : Watched ε) := by
    rintro -
    simp [newSpdkWatcher]
  refine (announces_run hSequential actions).mpr ⟨announces_nil, ?_⟩
  refine @Runs.Guarded.imp _ _ _ _ (fun s => Sequential s ∧ Kept s) _ _ _ h ⟨hSequential, hKept⟩ ?_ ?_
  · exact fun s a hs ha => ⟨hs.1.step a, hs.2.step hs.1 ha⟩
  · rintro s a ⟨-, hs⟩ -
    cases a with
    | compare =>
      intro status hTick _ hOwes
      unfold Kept at hs
      rw [hTick] at hs
      exact hs.2.1 hOwes
    | _ => trivial

def Action.IsWatch : Action ε → Prop
  | .read .. | .store _ => False
  | _ => True

/-- Without `ReadStatus` the watcher announces every recovery. -/
theorem watch_announces (errTgtUnknown : ε) {actions : List (Action ε)} (h : ∀ a ∈ actions, a.IsWatch) :
    Announces (Runs.run Watched.step { watcher := newSpdkWatcher errTgtUnknown } actions).log := by
  have hGuarded : Runs.Guarded Watched.step (fun _ a => Action.IsWatch a)
      { watcher := newSpdkWatcher errTgtUnknown } actions :=
    Runs.guarded_of_forall fun a ha _ => h a ha
  refine harmless_announces errTgtUnknown ?_
  refine @Runs.Guarded.imp _ _ _ _ (fun s => s.watcher.reads = ∅) _ _ _ hGuarded rfl ?_ ?_
  · intro s a hs ha
    have hMoves := s.step_moves a
    generalize s.step a = next at hMoves ⊢
    cases hMoves with
    | read | store => exact ha.elim
    | _ => exact hs
  · intro s a hs ha
    cases a with
    | sample => exact hs
    | read | store => exact ha.elim
    | _ => trivial

end Liteio.Watcher
