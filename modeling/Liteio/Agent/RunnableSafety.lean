import Liteio.Agent.Runnables
import Mathlib.Data.List.Count
import Mathlib.Data.List.Nodup

/-! # Starting and stopping the runnable group

What holds in every interleaving of the goroutines of a runnable group. `Start`
returns with all it was given launched and signalled, and a check that fails keeps
it for good. After `StopAndWait` has seen the group done nothing runs any more. An
`Add` that is on its way while the group stops sends on a closed channel.
-/

namespace Liteio.RunnableGroup

open Function

/-! ## What every interleaving keeps -/

/-- Where `Start` and `StopAndWait` are agrees with the flags of the group. -/
structure Ordered (g : RunnableGroup) : Prop where
  stopped : g.stopped = true ↔ g.stopPhase ≠ .idle ∧ g.stopPhase ≠ .starting
  returned : g.stopped = true → g.startPhase = .returned
  started : g.started = false ↔ g.startPhase = .idle ∨ g.startPhase = .locking
  absent : g.startPhase = .idle → g.loop = .absent

/-- A runnable is in one place at a time, and is launched once. -/
structure Placed (g : RunnableGroup) : Prop where
  nodup : g.startQueue.Nodup
  queued : ∀ i, g.place i = .queued → i ∈ g.startQueue
  waits : g.started = false → ∀ i ∈ g.startQueue, g.place i = .queued
  rest : ∀ rest, g.startPhase = .sending rest → rest.Nodup ∧ ∀ i ∈ rest, g.place i = .queued
  listed : ∀ i, i ∈ g.launched ↔ g.place i = .launched
  once : g.launched.Nodup

/-- What `reconcile` holds is nowhere else, and only a launched runnable has its
two goroutines. -/
structure Held (g : RunnableGroup) : Prop where
  held : ∀ i, g.loop = .holding i ∨ g.loop = .admitted i → g.place i = .held
  unchecked : ∀ i, g.place i ≠ .launched → g.checks i = .none
  unlaunched : ∀ i, g.place i ≠ .launched → g.runs i = .none

/-- A queued runnable leaves the queue with its signal, and `Start` returns when
the queue is empty. -/
structure Signalled (g : RunnableGroup) : Prop where
  emptied : g.startPhase = .returned → g.startQueue = []
  signals : ∀ i, g.signalReady i = true → i ∈ g.startQueue ∨ g.checks i = .signalled
  signalling : ∀ i, g.checks i = .signalling → g.signalReady i = true
  intact : ∀ i, g.checks i ≠ .crashed

structure Counted (g : RunnableGroup) : Prop where
  wg : g.wg = g.launched.countP (fun i => (g.runs i).active) + g.loop.admits
  drained : g.stopPhase = .drained → g.wg = 0

variable {g g' : RunnableGroup}

theorem Ordered.not_closed (h : g.Ordered) {rest : List ℕ} (hPhase : g.startPhase = .sending rest) :
    g.stopPhase.closed = false := by
  by_contra hClosed
  have hStopped : g.stopped = true := by
    rw [h.stopped]
    cases hStop : g.stopPhase <;> simp_all [StopPhase.closed]
  rw [h.returned hStopped] at hPhase
  cases hPhase

theorem Ordered.step (h : g.Ordered) (hStep : Step g g') : g'.Ordered := by
  cases hStep with
  | refuse | accept | queue | bypass | crash | crashStart | expire | check | signalClosed | report | done =>
    exact { h with }
  | hold i _ hLoop | drop i hLoop | enter i hLoop | launch i hLoop | readRefusal i hLoop | exit hLoop =>
    exact { h with absent := fun hIdle => by simp [h.absent hIdle] at hLoop }
  | start hIdle =>
    refine ⟨h.stopped, fun hStopped => ?_, ?_, by simp⟩
    · simp [h.returned hStopped] at hIdle
    · simpa using h.started.mpr (.inl hIdle)
  | lock hLocking =>
    refine ⟨h.stopped, fun hStopped => ?_, by simp, by simp⟩
    simp [h.returned hStopped] at hLocking
  | handOver i rest hPhase hLoop =>
    refine ⟨h.stopped, fun hStopped => ?_, ?_, fun hIdle => ?_⟩
    · simp [h.returned hStopped] at hPhase
    · simpa [hPhase, RunnableGroup.move] using h.started
    · cases hIdle
  | unlock hPhase | receive _ hPhase =>
    refine ⟨h.stopped, fun hStopped => ?_, ?_, ?_⟩
    · simp [h.returned hStopped] at hPhase
    · have := h.started
      grind [await]
    · grind [await]
  | stop hIdle => exact { h with stopped := by simpa [hIdle] using h.stopped }
  | halt hStarting hReturned => exact ⟨by simp, fun _ => hReturned, h.started, h.absent⟩
  | drain hWaiting | giveUp hWaiting =>
    exact { h with stopped := by simpa [hWaiting] using h.stopped }

theorem Placed.move (h : g.Placed) {i : ℕ} {p : Place} (hQueued : g.place i ≠ .queued ∧ p ≠ .queued)
    (hLaunched : g.place i ≠ .launched ∧ p ≠ .launched) : (g.move i p).Placed where
  nodup := h.nodup
  queued j hj := h.queued j (by grind [place_move])
  waits hStarted j hj := by
    have hWaits := h.waits hStarted j hj
    grind [place_move]
  rest rest hRest := by
    have hKept := h.rest rest hRest
    exact ⟨hKept.1, fun j hj => by grind [place_move]⟩
  listed j := by
    have hListed := h.listed j
    change j ∈ g.launched ↔ _
    grind [place_move]
  once := h.once

theorem Held.move (h : g.Held) {i : ℕ} {p : Place} (hHeld : g.place i ≠ .held)
    (hLaunched : g.place i ≠ .launched ∧ p ≠ .launched) : (g.move i p).Held where
  held j hj := by
    have hPlace := h.held j hj
    grind [place_move]
  unchecked j hj := h.unchecked j (by grind [place_move])
  unlaunched j hj := h.unlaunched j (by grind [place_move])

theorem Held.hold (h : g.Held) {i : ℕ} {loop : LoopPhase} {p : Place}
    (hLoop : loop = .holding i ∧ p = .held ∨ ∀ j, loop ≠ .holding j ∧ loop ≠ .admitted j)
    (hLaunched : g.place i ≠ .launched ∧ p ≠ .launched) : ({ g with loop := loop }.move i p).Held where
  held j hj := by
    change loop = _ ∨ loop = _ at hj
    grind [place_move]
  unchecked j hj := h.unchecked j (by grind [place_move])
  unlaunched j hj := h.unlaunched j (by grind [place_move])

theorem Held.check (h : g.Held) {i : ℕ} {next : CheckPhase} (hOld : g.checks i ≠ .none) :
    { g with checks := update g.checks i next }.Held where
  held := h.held
  unchecked j hj := by
    have hNone := h.unchecked j hj
    grind
  unlaunched := h.unlaunched

theorem Held.run (h : g.Held) {i : ℕ} {next : RunPhase} (hOld : g.runs i ≠ .none) :
    { g with runs := update g.runs i next }.Held where
  held := h.held
  unchecked := h.unchecked
  unlaunched j hj := by
    have hNone := h.unlaunched j hj
    grind

theorem Held.mem_launched (h : g.Held) (hPlaced : g.Placed) {i : ℕ} (hRuns : g.runs i ≠ .none) :
    i ∈ g.launched := by
  by_contra hNot
  exact hRuns (h.unlaunched i fun hPlace => hNot ((hPlaced.listed i).mpr hPlace))

theorem Held.step (h : g.Held) (hPlaced : g.Placed) (hStep : Step g g') : g'.Held := by
  cases hStep with
  | refuse i hFresh | accept i hFresh => exact h.move (by simp [hFresh]) (by simp [hFresh])
  | bypass i hChecked => exact h.move (by simp [hChecked]) (by simp [hChecked])
  | queue i hChecked =>
    have hMoved : (g.move i .queued).Held := h.move (by simp [hChecked]) (by simp [hChecked])
    exact { hMoved with }
  | crash i hSending => exact h.move (by simp [hSending]) (by simp [hSending])
  | crashStart i rest hPhase =>
    have hQueued := (hPlaced.rest _ hPhase).2 i List.mem_cons_self
    exact h.move (by simp [hQueued]) (by simp [hQueued])
  | expire | lock | unlock | stop | halt | drain | giveUp => exact { h with }
  | hold i hSending => exact h.hold (.inl ⟨rfl, rfl⟩) (by simp [hSending])
  | handOver i rest hPhase =>
    have hQueued := (hPlaced.rest _ hPhase).2 i List.mem_cons_self
    have hHeld : ({ g with loop := .holding i }.move i .held).Held :=
      h.hold (.inl ⟨rfl, rfl⟩) (by simp [hQueued])
    exact { hHeld with }
  | drop i hLoop => exact h.hold (.inr (by simp)) (by simp [h.held i (.inl hLoop)])
  | start | readRefusal | exit => exact { h with held := by simp }
  | enter i hLoop =>
    refine { h with held := fun j hj => h.held j ?_ }
    simp only [reduceCtorEq, LoopPhase.admitted.injEq, false_or] at hj
    exact .inl (hj ▸ hLoop)
  | launch i hLoop =>
    refine ⟨fun j hj => by simp [RunnableGroup.move] at hj, fun j hj => ?_, fun j hj => ?_⟩
    · have hNone := h.unchecked j
      change update g.checks i _ j = _
      grind [place_move]
    · have hNone := h.unlaunched j
      change update g.runs i _ j = _
      grind [place_move]
  | receive i _ hSignal =>
    have hChecked : { g with checks := update g.checks i .signalled }.Held := h.check (by simp [hSignal])
    exact { hChecked with }
  | check i next hChecking => exact h.check (by simp [hChecking])
  | signalClosed i _ hSignal => exact h.check (by simp [hSignal])
  | report i hRunning => exact h.run (by simp [hRunning])
  | done i hActive =>
    have hRun : { g with runs := update g.runs i .finished }.Held :=
      h.run fun hNone => by simp [hNone, RunPhase.active] at hActive
    exact { hRun with }

theorem Placed.step (h : g.Placed) (hOrdered : g.Ordered) (hHeld : g.Held) (hStep : Step g g') :
    g'.Placed := by
  cases hStep with
  | refuse i hFresh | accept i hFresh => exact h.move (by simp [hFresh]) (by simp [hFresh])
  | bypass i hChecked => exact h.move (by simp [hChecked]) (by simp [hChecked])
  | crash i hSending => exact h.move (by simp [hSending]) (by simp [hSending])
  | crashStart i rest hPhase hClosed => simp [hOrdered.not_closed hPhase] at hClosed
  | start => exact { h with rest := by simp }
  | expire | check | signalClosed | report | done | stop | halt | drain | giveUp | enter | readRefusal | exit =>
    exact { h with }
  | queue i hChecked hStarted =>
    have hWaits := h.waits hStarted
    have hNew : i ∉ g.startQueue := fun hMem => by simp [hWaits i hMem] at hChecked
    refine ⟨List.concat_eq_append ▸ h.nodup.concat hNew, fun j hj => ?_, fun _ j hj => ?_,
      fun rest hRest => ?_, fun j => ?_, h.once⟩
    · have hQueued := h.queued j
      change j ∈ g.startQueue ++ [i]
      grind [place_move]
    · change j ∈ g.startQueue ++ [i] at hj
      grind [place_move]
    · have hPhase := hOrdered.started.mp hStarted
      change g.startPhase = _ at hRest
      grind
    · have hListed := h.listed j
      change j ∈ g.launched ↔ _
      grind [place_move]
  | hold i hSending hLoop =>
    have hMoved : (g.move i .held).Placed := h.move (by simp [hSending]) (by simp [hSending])
    exact { hMoved with }
  | drop i hLoop =>
    have hPlace := hHeld.held i (.inl hLoop)
    have hMoved : (g.move i .dropped).Placed := h.move (by simp [hPlace]) (by simp [hPlace])
    exact { hMoved with }
  | lock hLocking =>
    have hWaits := h.waits (hOrdered.started.mpr (.inr hLocking))
    refine { h with waits := by simp, rest := ?_ }
    rintro rest ⟨⟩
    exact ⟨h.nodup, hWaits⟩
  | handOver i rest hPhase hLoop =>
    obtain ⟨hNodup, hQueued⟩ := h.rest _ hPhase
    obtain ⟨hNew, hNodup⟩ := List.nodup_cons.mp hNodup
    have hPlace := hQueued i List.mem_cons_self
    have hStarted : g.started ≠ false := by simp [hOrdered.started, hPhase]
    refine ⟨h.nodup, fun j hj => h.queued j (by grind [place_move]), fun hNot => absurd hNot hStarted,
      ?_, fun j => ?_, h.once⟩
    · rintro rest ⟨⟩
      refine ⟨hNodup, fun j hj => ?_⟩
      have hNe : j ≠ i := fun hEq => hNew (hEq ▸ hj)
      grind [place_move]
    · have hListed := h.listed j
      change j ∈ g.launched ↔ _
      grind [place_move]
  | unlock hPhase =>
    refine { h with rest := fun rest hRest => ?_ }
    grind [await]
  | receive i hWaiting hSignal =>
    have hPlace : g.place i = .launched := by
      by_contra hNot
      simp [hHeld.unchecked i hNot] at hSignal
    refine ⟨h.nodup.erase i, fun j hj => ?_, fun hStarted j hj => ?_, fun rest hRest => ?_, h.listed, h.once⟩
    · have hNe : j ≠ i := fun hEq => by simp [await, hEq, hPlace] at hj
      exact (List.mem_erase_of_ne hNe).mpr (h.queued j hj)
    · exact h.waits hStarted j (List.mem_of_mem_erase hj)
    · grind [await]
  | launch i hLoop =>
    have hPlace := hHeld.held i (.inr hLoop)
    have hNew : i ∉ g.launched := fun hMem => by simp [(h.listed i).mp hMem] at hPlace
    refine ⟨h.nodup, fun j hj => h.queued j (by grind [place_move]), fun hStarted j hj => ?_,
      fun rest hRest => ?_, fun j => ?_, List.concat_eq_append ▸ h.once.concat hNew⟩
    · have hQueued := h.waits hStarted j hj
      grind [place_move]
    · have hKept := h.rest rest hRest
      exact ⟨hKept.1, fun j hj => by grind [place_move]⟩
    · have hListed := h.listed j
      change j ∈ g.launched ++ [i] ↔ _
      grind [place_move]

theorem Signalled.check (h : g.Signalled) {i : ℕ} {next : CheckPhase} (hOld : g.checks i ≠ .signalled)
    (hNext : next = .signalling → g.signalReady i = true) (hIntact : next ≠ .crashed) :
    { g with checks := update g.checks i next }.Signalled where
  emptied := h.emptied
  signals j hj := by
    have hSignals := h.signals j hj
    change j ∈ g.startQueue ∨ update g.checks i next j = _
    grind
  signalling j hj := by
    have hSignalling := h.signalling j
    change update g.checks i next j = _ at hj
    grind
  intact j := by
    have hIntactOld := h.intact j
    change update g.checks i next j ≠ _
    grind

theorem Signalled.step (h : g.Signalled) (hOrdered : g.Ordered) (hPlaced : g.Placed) (hHeld : g.Held)
    (hStep : Step g g') : g'.Signalled := by
  cases hStep with
  | refuse | accept | bypass | crash | crashStart | hold | expire | drop | enter | readRefusal | report | done |
      stop | halt | drain | giveUp | exit =>
    exact { h with }
  | queue i hChecked hStarted =>
    refine ⟨fun hReturned => ?_, fun j hj => ?_, h.signalling, h.intact⟩
    · have hPhase := hOrdered.started.mp hStarted
      change g.startPhase = _ at hReturned
      grind
    · exact (h.signals j hj).imp_left (List.mem_append_left [i])
  | start | lock => exact { h with emptied := by simp }
  | handOver i rest hPhase =>
    have hQueue := hPlaced.queued i ((hPlaced.rest _ hPhase).2 i List.mem_cons_self)
    refine ⟨fun hReturned => ?_, fun j hj => ?_, fun j hj => ?_, h.intact⟩
    · cases hReturned
    · have hSignals := h.signals j
      change update g.signalReady i true j = true at hj
      change j ∈ g.startQueue ∨ g.checks j = _
      grind
    · have hSignalling := h.signalling j hj
      change update g.signalReady i true j = true
      grind
  | unlock hPhase =>
    refine { h with emptied := fun hReturned => ?_ }
    grind [await]
  | receive i hWaiting hSignal =>
    have hChecked : { g with checks := update g.checks i .signalled }.Signalled :=
      h.check (by simp [hSignal]) (by simp) (by simp)
    refine ⟨fun hReturned => by grind [await], fun j hj => ?_, hChecked.signalling, hChecked.intact⟩
    have hSignals := h.signals j hj
    change j ∈ g.startQueue.erase i ∨ update g.checks i .signalled j = _
    by_cases hEq : j = i
    · exact .inr (hEq ▸ update_self ..)
    · rwa [List.mem_erase_of_ne hEq, update_of_ne hEq]
  | launch i hLoop =>
    have hPlace := hHeld.held i (.inr hLoop)
    have hNone := hHeld.unchecked i (by simp [hPlace])
    have hChecked : { g with checks := update g.checks i .checking }.Signalled :=
      h.check (by simp [hNone]) (by simp) (by simp)
    exact { hChecked with }
  | check i next hChecking hNext =>
    refine h.check (by simp [hChecking]) ?_ ?_ <;> rcases hNext with rfl | rfl | ⟨rfl, hReady⟩ <;> simp_all
  | signalClosed i hReturned hSignal =>
    -- the queue is empty, so that every signal has been received
    rcases h.signals i (h.signalling i hSignal) with hQueue | hSignalled
    · simp [h.emptied hReturned] at hQueue
    · simp [hSignal] at hSignalled

theorem countP_erase_update {l : List ℕ} (hNodup : l.Nodup) (runs : ℕ → RunPhase) (i : ℕ) (next : RunPhase) :
    (l.erase i).countP (fun j => (update runs i next j).active) = (l.erase i).countP fun j => (runs j).active := by
  refine List.countP_congr fun j hj => ?_
  rw [update_of_ne (hNodup.mem_erase_iff.mp hj).1]

theorem countP_update {l : List ℕ} (hNodup : l.Nodup) {i : ℕ} (hMem : i ∈ l) (runs : ℕ → RunPhase)
    (next : RunPhase) :
    l.countP (fun j => (update runs i next j).active) + (if (runs i).active then 1 else 0) =
      l.countP (fun j => (runs j).active) + if next.active then 1 else 0 := by
  have hPerm := List.perm_cons_erase hMem
  rw [hPerm.countP_eq, hPerm.countP_eq, List.countP_cons, List.countP_cons,
    countP_erase_update hNodup, update_self]
  omega

theorem Counted.step (h : g.Counted) (hOrdered : g.Ordered) (hPlaced : g.Placed) (hHeld : g.Held)
    (hStep : Step g g') : g'.Counted := by
  cases hStep with
  | refuse | accept | queue | bypass | crash | crashStart | lock | unlock | receive | expire | check |
      signalClosed =>
    exact ⟨h.wg, h.drained⟩
  | hold i _ hLoop | handOver i _ _ hLoop | drop i hLoop =>
    exact ⟨by simpa [hLoop, RunnableGroup.move, LoopPhase.admits] using h.wg, h.drained⟩
  | start hIdle => exact ⟨by simpa [hOrdered.absent hIdle, LoopPhase.admits] using h.wg, h.drained⟩
  | readRefusal i hLoop | exit hLoop => exact ⟨by simpa [hLoop, LoopPhase.admits] using h.wg, h.drained⟩
  | enter i hLoop hStopped =>
    refine ⟨?_, fun hDrained => ?_⟩
    · have hWg := h.wg
      simp only [hLoop, LoopPhase.admits] at hWg ⊢
      omega
    · have hNot := hOrdered.stopped.not.mp (by simp [hStopped])
      simp_all
  | launch i hLoop =>
    have hNew : i ∉ g.launched := fun hMem => by
      have hPlace := hHeld.held i (.inr hLoop)
      simp [(hPlaced.listed i).mp hMem] at hPlace
    refine ⟨?_, h.drained⟩
    have hSame := countP_erase_update hPlaced.once g.runs i .running
    rw [List.erase_of_not_mem hNew] at hSame
    have hWg := h.wg
    change g.wg = (g.launched ++ [i]).countP (fun j => (update g.runs i .running j).active) + _
    rw [List.countP_append, hSame, hWg, hLoop]
    simp [RunnableGroup.move, RunPhase.active, LoopPhase.admits]
  | report i hRunning =>
    have hMem := hHeld.mem_launched hPlaced (i := i) (by simp [hRunning])
    have hActive : (g.runs i).active = true := hRunning ▸ rfl
    have hCount := countP_update hPlaced.once hMem g.runs .reporting
    rw [if_pos hActive, if_pos (by decide), Nat.add_right_cancel_iff] at hCount
    exact ⟨hCount ▸ h.wg, h.drained⟩
  | done i hActive =>
    have hMem := hHeld.mem_launched hPlaced (i := i) fun hNone => by simp [hNone, RunPhase.active] at hActive
    have hCount := countP_update hPlaced.once hMem g.runs .finished
    rw [if_pos hActive, if_neg (by decide)] at hCount
    have hWg := h.wg
    refine ⟨?_, fun hDrained => ?_⟩
    · change g.wg - 1 = g.launched.countP (fun j => (update g.runs i .finished j).active) + g.loop.admits
      omega
    · simp [RunnableGroup.done, h.drained hDrained]
  | stop hIdle | halt hStarting hReturned | giveUp => exact ⟨h.wg, by simp⟩
  | drain _ hNone => exact ⟨h.wg, fun _ => hNone⟩

structure Sound (g : RunnableGroup) : Prop where
  ordered : g.Ordered
  placed : g.Placed
  held : g.Held
  signalled : g.Signalled
  counted : g.Counted

theorem sound_new : ({} : RunnableGroup).Sound where
  ordered := ⟨by decide, by decide, by decide, fun _ => rfl⟩
  placed := ⟨List.nodup_nil, by simp, by simp, by simp, by simp, List.nodup_nil⟩
  held := ⟨by simp, by simp, by simp⟩
  signalled := ⟨by simp, by simp, by simp, by simp⟩
  counted := ⟨rfl, by simp⟩

theorem Sound.step (h : g.Sound) (hStep : Step g g') : g'.Sound where
  ordered := h.ordered.step hStep
  placed := h.placed.step h.ordered h.held hStep
  held := h.held.step h.placed hStep
  signalled := h.signalled.step h.ordered h.placed h.held hStep
  counted := h.counted.step h.ordered h.placed h.held hStep

theorem run_keeps (property : RunnableGroup → Prop) (hSound : g.Sound) (h : property g)
    (hStep : ∀ g g' : RunnableGroup, g.Sound → property g → Step g g' → property g') (moves : List Move) :
    (Runs.run RunnableGroup.step g moves).Sound ∧ property (Runs.run RunnableGroup.step g moves) := by
  induction moves generalizing g with
  | nil => exact ⟨hSound, h⟩
  | cons m moves ih =>
    rw [Runs.run_cons]
    rcases step_cases g m with hEq | hNext
    · rw [hEq]
      exact ih hSound h
    · exact ih (hSound.step hNext) (hStep _ _ hSound h hNext)

theorem sound_run (moves : List Move) : (Runs.run RunnableGroup.step {} moves).Sound :=
  (run_keeps (fun _ => True) sound_new trivial (fun _ _ _ _ _ => trivial) moves).1

/-! ## Stopping -/

theorem Sound.quiet (h : g.Sound) (hDrained : g.stopPhase = .drained) (i : ℕ) : (g.runs i).active = false := by
  have hWg := h.counted.wg
  rw [h.counted.drained hDrained] at hWg
  have hNone : g.launched.countP (fun j => (g.runs j).active) = 0 := by omega
  by_cases hMem : i ∈ g.launched
  · simpa using List.countP_eq_zero.mp hNone i hMem
  · have hPlace : g.place i ≠ .launched := fun hPlace => hMem ((h.placed.listed i).mpr hPlace)
    rw [h.held.unlaunched i hPlace]
    rfl

theorem drained_step (h : g.Sound) (hDrained : g.stopPhase = .drained) (hStep : Step g g') :
    g'.stopPhase = .drained ∧ g'.launched = g.launched := by
  cases hStep with
  | launch i hLoop =>
    have hWg := h.counted.wg
    rw [h.counted.drained hDrained, hLoop] at hWg
    simp [LoopPhase.admits] at hWg
  | stop hIdle => simp [hIdle] at hDrained
  | halt hStarting => simp [hStarting] at hDrained
  | drain hWaiting | giveUp hWaiting => simp [hWaiting] at hDrained
  | _ => exact ⟨hDrained, rfl⟩

/-- Once `StopAndWait` has returned because the group was done, none of the
runnables is running and none is started by anything that happens later. -/
theorem stopAndWait_is_final (moves later : List Move)
    (hDrained : (Runs.run RunnableGroup.step {} moves).stopPhase = .drained) :
    let g := Runs.run RunnableGroup.step {} (moves ++ later)
    g.launched = (Runs.run RunnableGroup.step {} moves).launched ∧ g.launched.Nodup ∧
      ∀ i, (g.runs i).active = false := by
  rw [Runs.run_append]
  have hRun := sound_run moves
  generalize Runs.run RunnableGroup.step {} moves = stopped at hRun hDrained ⊢
  obtain ⟨hSound, hStop, hSame⟩ := run_keeps (fun g => g.stopPhase = .drained ∧ g.launched = stopped.launched)
    hRun ⟨hDrained, rfl⟩ (fun g g' hg hKept hStep => by
      obtain ⟨hStop, hSame⟩ := drained_step hg hKept.1 hStep
      exact ⟨hStop, hSame.trans hKept.2⟩) later
  exact ⟨hSame, hSound.placed.once, hSound.quiet hStop⟩

/-- A runnable is added and run, and the group is stopped once it has ended. -/
def wholeLife : List Move :=
  [.add 0, .enroll 0, .start, .lock, .handOver, .unlock, .test, .launch, .check 0 true, .receive 0,
    .finish 0 false, .stop, .halt, .drain]

theorem stopAndWait_is_final_after_life :
    let g := Runs.run RunnableGroup.step {} (wholeLife ++ [.add 1, .exit])
    g.launched = [0] ∧ g.launched.Nodup ∧ ∀ i, (g.runs i).active = false :=
  stopAndWait_is_final wholeLife [.add 1, .exit] (by decide)

/-- The call of `Add` is past its test of `stopped` and has not handed over. -/
def InFlight (g : RunnableGroup) (i : ℕ) : Prop := g.place i = .checked ∨ g.place i = .sending

def Clear (g : RunnableGroup) (i : ℕ) : Prop :=
  g.stopped = true ∧ g.place i ≠ .checked ∧ g.place i ≠ .sending ∧ g.place i ≠ .crashed

theorem Clear.move {i j : ℕ} {p : Place} (h : g.Clear i)
    (hPlace : j = i → p ≠ .checked ∧ p ≠ .sending ∧ p ≠ .crashed) : (g.move j p).Clear i := by
  have hMove := place_move g j i p
  refine ⟨h.1, ?_⟩
  grind [Clear]

theorem Clear.step {i : ℕ} (hSound : g.Sound) (h : g.Clear i) (hStep : Step g g') : g'.Clear i := by
  obtain ⟨hStopped, hChecked, hSending, hIntact⟩ := id h
  cases hStep with
  | refuse j | queue j | hold j | handOver j | drop j | launch j => exact h.move fun _ => by decide
  | accept j _ hNot => simp [hStopped] at hNot
  | bypass j hPlace | crash j hPlace => exact h.move fun hEq => by simp_all
  | crashStart j rest hPhase hClosed => simp [hSound.ordered.not_closed hPhase] at hClosed
  | halt => exact ⟨rfl, h.2⟩
  | _ => exact h

theorem Sound.closed_giveUp (h : g.Sound) (hStopped : g.stopped = true) : g.giveUp.stopPhase.closed = true := by
  have hPhase := h.ordered.stopped.mp hStopped
  unfold giveUp
  cases hStop : g.stopPhase <;> simp_all [StopPhase.closed]

theorem Sound.started_of_stopped (h : g.Sound) (hStopped : g.stopped = true) : g.started = true := by
  by_contra hNot
  have hReturned := h.ordered.returned hStopped
  rcases h.ordered.started.mp (Bool.eq_false_iff.mpr hNot) with hPhase | hPhase <;> simp [hReturned] at hPhase

theorem crash_of_inFlight (h : g.Sound) (hStopped : g.stopped = true) {i : ℕ} (hFlight : g.InFlight i) :
    (Runs.run RunnableGroup.step g [.giveUp, .enroll i, .send i]).place i = .crashed := by
  have hFlags : g.giveUp.startPhase = .returned ∧ g.giveUp.started = true ∧ g.giveUp.place = g.place := by
    have hReturned := h.ordered.returned hStopped
    have hStarted := h.started_of_stopped hStopped
    unfold giveUp
    split <;> exact ⟨hReturned, hStarted, rfl⟩
  have hClosed := h.closed_giveUp hStopped
  change ((g.giveUp.enroll i).send i).place i = .crashed
  generalize g.giveUp = g' at hFlags hClosed ⊢
  have hEnrolled : (g'.enroll i).place i = .sending ∧ (g'.enroll i).stopPhase = g'.stopPhase := by
    rcases hFlight with hPlace | hPlace <;> simp [enroll, hFlags, hPlace, RunnableGroup.move]
  rw [RunnableGroup.send, if_pos hEnrolled.1, hEnrolled.2, if_pos hClosed, place_move, if_pos rfl]

/-- A send on the closed channel, which takes the process down, is ahead of a
stopped group exactly as long as a call of `Add` is on its way. -/
theorem crash_ahead_iff_inFlight (moves : List Move)
    (hStopped : (Runs.run RunnableGroup.step {} moves).stopped = true)
    (hIntact : ∀ i, (Runs.run RunnableGroup.step {} moves).place i ≠ .crashed) :
    (∃ later i, (Runs.run RunnableGroup.step {} (moves ++ later)).place i = .crashed) ↔
      ∃ i, (Runs.run RunnableGroup.step {} moves).InFlight i := by
  simp only [Runs.run_append]
  have hRun := sound_run moves
  generalize Runs.run RunnableGroup.step {} moves = g at hRun hStopped hIntact ⊢
  constructor
  · rintro ⟨later, i, hCrashed⟩
    refine ⟨i, ?_⟩
    by_contra hNot
    have hClear : g.Clear i := ⟨hStopped, fun h => hNot (.inl h), fun h => hNot (.inr h), hIntact i⟩
    exact (run_keeps (Clear · i) hRun hClear (fun _ _ => Clear.step) later).2.2.2.2 hCrashed
  · rintro ⟨i, hFlight⟩
    exact ⟨_, i, crash_of_inFlight hRun hStopped hFlight⟩

/-- One call passes its test just before the group is stopped. -/
theorem crash_ahead_of_late_add :
    ∃ later i, (Runs.run RunnableGroup.step {} ([.start, .lock, .unlock, .add 0, .stop, .halt] ++ later)).place i
      = .crashed :=
  (crash_ahead_iff_inFlight [.start, .lock, .unlock, .add 0, .stop, .halt] (by decide)
    (fun i => by
      change update (fun _ => Place.fresh) 0 Place.checked i ≠ .crashed
      rw [update_apply]
      split <;> decide)).mpr ⟨0, .inl (by decide)⟩

/-! ## Starting -/

/-- The check of a runnable that `Start` waits for has returned false. -/
def Stuck (g : RunnableGroup) (i : ℕ) : Prop := g.signalReady i = true ∧ g.checks i = .failed

theorem Stuck.step {i : ℕ} (hSound : g.Sound) (h : g.Stuck i) (hStep : Step g g') : g'.Stuck i := by
  obtain ⟨hReady, hFailed⟩ := id h
  have hCheck {j : ℕ} (next : CheckPhase) (hOld : g.checks j ≠ .failed) : update g.checks j next i = .failed := by
    have hNe : i ≠ j := fun hEq => hOld (hEq ▸ hFailed)
    rwa [update_of_ne hNe]
  cases hStep with
  | handOver j =>
    refine ⟨?_, hFailed⟩
    change update g.signalReady j true i = true
    rw [update_apply, hReady, ite_self]
  | receive j _ hSignal | signalClosed j _ hSignal => exact ⟨hReady, hCheck _ (by simp [hSignal])⟩
  | check j next hChecking => exact ⟨hReady, hCheck next (by simp [hChecking])⟩
  | launch j hLoop =>
    have hNone := hSound.held.unchecked j (by simp [hSound.held.held j (.inr hLoop)])
    exact ⟨hReady, hCheck _ (by simp [hNone])⟩
  | _ => exact h

theorem Sound.waits_for_stuck (h : g.Sound) {i : ℕ} (hStuck : g.Stuck i) :
    g.startPhase ≠ .returned ∧ g.stopped = false := by
  have hReturned : g.startPhase ≠ .returned := fun hReturned => by
    rcases h.signalled.signals i hStuck.1 with hQueue | hSignalled
    · simp [h.signalled.emptied hReturned] at hQueue
    · simp [hStuck.2] at hSignalled
  exact ⟨hReturned, Bool.eq_false_iff.mpr fun hStopped => hReturned (h.ordered.returned hStopped)⟩

/-- `Start` has been given the runnable, and keeps it until it has signalled. -/
def Given (g : RunnableGroup) (i : ℕ) : Prop := i ∈ g.startQueue ∨ g.checks i = .signalled

theorem Given.check {i j : ℕ} (h : g.Given i) (next : CheckPhase) (hOld : g.checks j ≠ .signalled) :
    { g with checks := update g.checks j next }.Given i := by
  refine h.imp_right fun hSignalled => ?_
  have hNe : i ≠ j := fun hEq => hOld (hEq ▸ hSignalled)
  change update g.checks j next i = _
  rwa [update_of_ne hNe]

theorem Given.step {i : ℕ} (hSound : g.Sound) (h : g.Given i) (hStep : Step g g') : g'.Given i := by
  cases hStep with
  | queue j => exact h.imp_left (List.mem_append_left [j])
  | receive j _ hSignal =>
    change i ∈ g.startQueue.erase j ∨ update g.checks j .signalled i = _
    by_cases hEq : i = j
    · exact .inr (hEq ▸ update_self ..)
    · rw [List.mem_erase_of_ne hEq, update_of_ne hEq]
      exact h
  | signalClosed j _ hSignal => exact h.check _ (by simp [hSignal])
  | check j next hChecking => exact h.check next (by simp [hChecking])
  | launch j hLoop =>
    have hNone := hSound.held.unchecked j (by simp [hSound.held.held j (.inr hLoop)])
    exact h.check .checking (by simp [hNone])
  | _ => exact h

theorem Sound.launched_of_given (h : g.Sound) (hReturned : g.startPhase = .returned) {i : ℕ} (hGiven : g.Given i) :
    i ∈ g.launched ∧ g.checks i = .signalled := by
  have hSignalled := hGiven.resolve_left (by simp [h.signalled.emptied hReturned])
  refine ⟨(h.placed.listed i).mpr ?_, hSignalled⟩
  by_contra hNot
  simp [h.held.unchecked i hNot] at hSignalled

/-- `Start` returns only when each runnable that was in its queue, as at the lock,
has been launched and has signalled; one check that fails keeps it, and with it
`StopAndWait`, for good. No signal comes after the channel for it is closed. -/
theorem start_returns_after_signals (before after : List Move) :
    let g := Runs.run RunnableGroup.step {} (before ++ after)
    (g.startPhase = .returned → ∀ i ∈ (Runs.run RunnableGroup.step {} before).startQueue,
        i ∈ g.launched ∧ g.checks i = .signalled) ∧
      (∀ i, g.checks i ≠ .crashed) ∧
      ∀ i, g.Stuck i → ∀ later, (Runs.run RunnableGroup.step g later).startPhase ≠ .returned ∧
        (Runs.run RunnableGroup.step g later).stopped = false := by
  intro g
  have h : g.Sound := sound_run (before ++ after)
  refine ⟨fun hReturned i hQueue => ?_, h.signalled.intact, fun i hStuck later => ?_⟩
  · have hGiven := (run_keeps (Given · i) (sound_run before) (.inl hQueue) (fun _ _ => Given.step) after).2
    rw [← Runs.run_append] at hGiven
    exact h.launched_of_given hReturned hGiven
  · obtain ⟨hSound, hKept⟩ := run_keeps (Stuck · i) h hStuck (fun _ _ => Stuck.step) later
    exact hSound.waits_for_stuck hKept

end Liteio.RunnableGroup
