import Liteio.Library.Runs
import Mathlib.Data.Nat.Notation
import Mathlib.Logic.Function.Basic

/-! # The runnable group of the agent

`RunnableGroup` with every goroutine that touches it: the callers of `Add`, the
one body of `Start`, the `reconcile` loop, the goroutines of each runnable and of
its check, and `StopAndWait`. A step is what one of them does between two points
where another may come in. The channels are not buffered, so that a send and its
receive are one step. A runnable is named by the call of `Add` that brought it.
-/

namespace Liteio

inductive CtxErr where
  | canceled
  | deadlineExceeded
  deriving DecidableEq

namespace RunnableGroup

inductive Place where
  | fresh
  | checked
  | refused
  | queued
  | sending
  | crashed
  | held
  | dropped
  | launched
  deriving DecidableEq

inductive StartPhase where
  | idle
  | locking
  | sending (rest : List ℕ)
  | waiting
  | returned
  deriving DecidableEq

inductive LoopPhase where
  | absent
  | receiving
  | holding (i : ℕ)
  | refusing (i : ℕ)
  | admitted (i : ℕ)
  | ended
  deriving DecidableEq

inductive StopPhase where
  | idle
  | starting
  | waiting
  | drained
  | gaveUp
  deriving DecidableEq

inductive CheckPhase where
  | none
  | checking
  | signalling
  | signalled
  | passed
  | failed
  | crashed
  deriving DecidableEq

inductive RunPhase where
  | none
  | running
  | reporting
  | finished
  deriving DecidableEq

/-- The goroutine has not come to `wg.Done` yet. -/
def RunPhase.active : RunPhase → Bool
  | .running | .reporting => true
  | _ => false

def StopPhase.closed : StopPhase → Bool
  | .drained | .gaveUp => true
  | _ => false

def LoopPhase.admits : LoopPhase → ℕ
  | .admitted _ => 1
  | _ => 0

inductive Move where
  | add (i : ℕ)
  | enroll (i : ℕ)
  | send (i : ℕ)
  | start
  | lock
  | handOver
  | unlock
  | receive (i : ℕ)
  | expire (err : CtxErr)
  | test
  | launch
  | readRefusal
  | check (i : ℕ) (ready : Bool)
  | signalClosed (i : ℕ)
  | finish (i : ℕ) (failed : Bool)
  | readError (i : ℕ)
  | stop
  | halt
  | drain
  | giveUp
  | exit
  deriving DecidableEq

end RunnableGroup

open RunnableGroup in
structure RunnableGroup where
  started : Bool := false
  stopped : Bool := false
  startQueue : List ℕ := []
  wg : ℕ := 0
  retErr : Option CtxErr := none
  startPhase : StartPhase := .idle
  stopPhase : StopPhase := .idle
  loop : LoopPhase := .absent
  place : ℕ → Place := fun _ => .fresh
  signalReady : ℕ → Bool := fun _ => false
  checks : ℕ → CheckPhase := fun _ => .none
  runs : ℕ → RunPhase := fun _ => .none
  launched : List ℕ := []

namespace RunnableGroup

open Function

def move (g : RunnableGroup) (i : ℕ) (place : Place) : RunnableGroup :=
  { g with place := update g.place i place }

theorem place_move (g : RunnableGroup) (i j : ℕ) (p : Place) :
    (g.move i p).place j = if j = i then p else g.place j := update_apply g.place i p j

def add (g : RunnableGroup) (i : ℕ) : RunnableGroup :=
  if g.place i = .fresh then
    if g.stopped then g.move i .refused else g.move i .checked
  else g

/-- The block of `Add` under `start`, which `Start` holds while it sends. -/
def enroll (g : RunnableGroup) (i : ℕ) : RunnableGroup :=
  match g.startPhase with
  | .sending _ => g
  | _ =>
    if g.place i = .checked then
      if g.started then g.move i .sending
      else { g with startQueue := g.startQueue ++ [i] }.move i .queued
    else g

/-- `r.ch <- readyRunnable` in `Add`. -/
def send (g : RunnableGroup) (i : ℕ) : RunnableGroup :=
  if g.place i = .sending then
    if g.stopPhase.closed then g.move i .crashed
    else if g.loop = .receiving then { g with loop := .holding i }.move i .held
    else g
  else g

def start (g : RunnableGroup) : RunnableGroup :=
  if g.startPhase = .idle then { g with startPhase := .locking, loop := .receiving } else g

def lock (g : RunnableGroup) : RunnableGroup :=
  if g.startPhase = .locking then { g with started := true, startPhase := .sending g.startQueue } else g

/-- `rn.signalReady = true` and `r.ch <- rn` in `Start`. -/
def handOver (g : RunnableGroup) : RunnableGroup :=
  match g.startPhase with
  | .sending (i :: rest) =>
    if g.stopPhase.closed then g.move i .crashed
    else if g.loop = .receiving then
      { g with
        loop := .holding i, signalReady := update g.signalReady i true, startPhase := .sending rest }.move i .held
    else g
  | _ => g

/-- `Start` has sent its queue; it waits for the signals if there are any to come. -/
def await (g : RunnableGroup) (queue : List ℕ) : RunnableGroup :=
  { g with startQueue := queue, startPhase := if queue = [] then .returned else .waiting }

def unlock (g : RunnableGroup) : RunnableGroup :=
  match g.startPhase with
  | .sending [] => g.await g.startQueue
  | _ => g

/-- `case rn := <-r.startReadyCh` in `Start`. -/
def receive (g : RunnableGroup) (i : ℕ) : RunnableGroup :=
  if g.startPhase = .waiting ∧ g.checks i = .signalling then
    { g with checks := update g.checks i .signalled }.await (g.startQueue.erase i)
  else g

/-- `case <-ctx.Done()` in `Start`, which goes on waiting. -/
def expire (g : RunnableGroup) (err : CtxErr) : RunnableGroup :=
  if g.startPhase = .waiting ∧ err ≠ .canceled then { g with retErr := some err } else g

def test (g : RunnableGroup) : RunnableGroup :=
  match g.loop with
  | .holding i =>
    if g.stopped then { g with loop := .refusing i }.move i .dropped
    else { g with wg := g.wg + 1, loop := .admitted i }
  | _ => g

def launch (g : RunnableGroup) : RunnableGroup :=
  match g.loop with
  | .admitted i =>
    { g with
      loop := .receiving, checks := update g.checks i .checking, runs := update g.runs i .running,
      launched := g.launched ++ [i] }.move i .launched
  | _ => g

def readRefusal (g : RunnableGroup) : RunnableGroup :=
  match g.loop with
  | .refusing _ => { g with loop := .receiving }
  | _ => g

def check (g : RunnableGroup) (i : ℕ) (ready : Bool) : RunnableGroup :=
  if g.checks i = .checking then
    let next : CheckPhase :=
      if ready then (if g.signalReady i then .signalling else .passed) else .failed
    { g with checks := update g.checks i next }
  else g

/-- `r.startReadyCh <- rn` once `Start` has closed the channel. -/
def signalClosed (g : RunnableGroup) (i : ℕ) : RunnableGroup :=
  if g.startPhase = .returned ∧ g.checks i = .signalling then
    { g with checks := update g.checks i .crashed }
  else g

def done (g : RunnableGroup) (i : ℕ) : RunnableGroup :=
  { g with runs := update g.runs i .finished, wg := g.wg - 1 }

def finish (g : RunnableGroup) (i : ℕ) (failed : Bool) : RunnableGroup :=
  if g.runs i = .running then
    if failed then { g with runs := update g.runs i .reporting } else g.done i
  else g

def readError (g : RunnableGroup) (i : ℕ) : RunnableGroup :=
  if g.runs i = .reporting then g.done i else g

/-- `StopAndWait` is called and calls `Start`. -/
def stop (g : RunnableGroup) : RunnableGroup :=
  if g.stopPhase = .idle then { g with stopPhase := .starting } else g

def halt (g : RunnableGroup) : RunnableGroup :=
  if g.stopPhase = .starting ∧ g.startPhase = .returned then
    { g with stopped := true, stopPhase := .waiting }
  else g

def drain (g : RunnableGroup) : RunnableGroup :=
  if g.stopPhase = .waiting ∧ g.wg = 0 then { g with stopPhase := .drained } else g

def giveUp (g : RunnableGroup) : RunnableGroup :=
  if g.stopPhase = .waiting then { g with stopPhase := .gaveUp } else g

def exit (g : RunnableGroup) : RunnableGroup :=
  if g.loop = .receiving ∧ g.stopPhase.closed then { g with loop := .ended } else g

def step (g : RunnableGroup) : Move → RunnableGroup
  | .add i => g.add i
  | .enroll i => g.enroll i
  | .send i => g.send i
  | .start => g.start
  | .lock => g.lock
  | .handOver => g.handOver
  | .unlock => g.unlock
  | .receive i => g.receive i
  | .expire err => g.expire err
  | .test => g.test
  | .launch => g.launch
  | .readRefusal => g.readRefusal
  | .check i ready => g.check i ready
  | .signalClosed i => g.signalClosed i
  | .finish i failed => g.finish i failed
  | .readError i => g.readError i
  | .stop => g.stop
  | .halt => g.halt
  | .drain => g.drain
  | .giveUp => g.giveUp
  | .exit => g.exit

/-! ## What a step can do -/

inductive Step (g : RunnableGroup) : RunnableGroup → Prop where
  | refuse (i : ℕ) (hFresh : g.place i = .fresh) (hStopped : g.stopped = true) : Step g (g.move i .refused)
  | accept (i : ℕ) (hFresh : g.place i = .fresh) (hStopped : g.stopped = false) : Step g (g.move i .checked)
  | queue (i : ℕ) (hChecked : g.place i = .checked) (hStarted : g.started = false) :
    Step g ({ g with startQueue := g.startQueue ++ [i] }.move i .queued)
  | bypass (i : ℕ) (hChecked : g.place i = .checked) : Step g (g.move i .sending)
  | crash (i : ℕ) (hSending : g.place i = .sending) (hClosed : g.stopPhase.closed = true) :
    Step g (g.move i .crashed)
  | hold (i : ℕ) (hSending : g.place i = .sending) (hLoop : g.loop = .receiving) :
    Step g ({ g with loop := .holding i }.move i .held)
  | start (hIdle : g.startPhase = .idle) : Step g { g with startPhase := .locking, loop := .receiving }
  | lock (hLocking : g.startPhase = .locking) :
    Step g { g with started := true, startPhase := .sending g.startQueue }
  | crashStart (i : ℕ) (rest : List ℕ) (hPhase : g.startPhase = .sending (i :: rest))
    (hClosed : g.stopPhase.closed = true) : Step g (g.move i .crashed)
  | handOver (i : ℕ) (rest : List ℕ) (hPhase : g.startPhase = .sending (i :: rest))
    (hLoop : g.loop = .receiving) :
    Step g ({ g with
      loop := .holding i, signalReady := update g.signalReady i true, startPhase := .sending rest }.move i .held)
  | unlock (hPhase : g.startPhase = .sending []) : Step g (g.await g.startQueue)
  | receive (i : ℕ) (hWaiting : g.startPhase = .waiting) (hSignal : g.checks i = .signalling) :
    Step g ({ g with checks := update g.checks i .signalled }.await (g.startQueue.erase i))
  | expire (err : CtxErr) : Step g { g with retErr := some err }
  | drop (i : ℕ) (hLoop : g.loop = .holding i) (hStopped : g.stopped = true) :
    Step g ({ g with loop := .refusing i }.move i .dropped)
  | enter (i : ℕ) (hLoop : g.loop = .holding i) (hStopped : g.stopped = false) :
    Step g { g with wg := g.wg + 1, loop := .admitted i }
  | launch (i : ℕ) (hLoop : g.loop = .admitted i) :
    Step g ({ g with
      loop := .receiving, checks := update g.checks i .checking, runs := update g.runs i .running,
      launched := g.launched ++ [i] }.move i .launched)
  | readRefusal (i : ℕ) (hLoop : g.loop = .refusing i) : Step g { g with loop := .receiving }
  | check (i : ℕ) (next : CheckPhase) (hChecking : g.checks i = .checking)
    (hNext : next = .failed ∨ next = .passed ∨ next = .signalling ∧ g.signalReady i = true) :
    Step g { g with checks := update g.checks i next }
  | signalClosed (i : ℕ) (hReturned : g.startPhase = .returned) (hSignal : g.checks i = .signalling) :
    Step g { g with checks := update g.checks i .crashed }
  | report (i : ℕ) (hRunning : g.runs i = .running) : Step g { g with runs := update g.runs i .reporting }
  | done (i : ℕ) (hActive : (g.runs i).active = true) : Step g (g.done i)
  | stop (hIdle : g.stopPhase = .idle) : Step g { g with stopPhase := .starting }
  | halt (hStarting : g.stopPhase = .starting) (hReturned : g.startPhase = .returned) :
    Step g { g with stopped := true, stopPhase := .waiting }
  | drain (hWaiting : g.stopPhase = .waiting) (hNone : g.wg = 0) : Step g { g with stopPhase := .drained }
  | giveUp (hWaiting : g.stopPhase = .waiting) : Step g { g with stopPhase := .gaveUp }
  | exit (hLoop : g.loop = .receiving) : Step g { g with loop := .ended }

theorem step_cases (g : RunnableGroup) (m : Move) : g.step m = g ∨ Step g (g.step m) := by
  cases m with
  | add i =>
    dsimp only [step, add]
    split
    next hFresh =>
      split
      next hStopped => exact .inr (.refuse i hFresh hStopped)
      next hStopped => exact .inr (.accept i hFresh (Bool.eq_false_iff.mpr hStopped))
    · exact .inl rfl
  | enroll i =>
    dsimp only [step, enroll]
    split
    · exact .inl rfl
    · split
      next hChecked =>
        split
        · exact .inr (.bypass i hChecked)
        next hStarted => exact .inr (.queue i hChecked (Bool.eq_false_iff.mpr hStarted))
      · exact .inl rfl
  | send i =>
    dsimp only [step, send]
    split
    next hSending =>
      split
      next hClosed => exact .inr (.crash i hSending hClosed)
      · split
        next hLoop => exact .inr (.hold i hSending hLoop)
        · exact .inl rfl
    · exact .inl rfl
  | start =>
    dsimp only [step, start]
    split
    next hIdle => exact .inr (.start hIdle)
    · exact .inl rfl
  | lock =>
    dsimp only [step, lock]
    split
    next hLocking => exact .inr (.lock hLocking)
    · exact .inl rfl
  | handOver =>
    dsimp only [step, handOver]
    split
    next i rest hPhase =>
      split
      next hClosed => exact .inr (.crashStart i rest hPhase hClosed)
      · split
        next hLoop => exact .inr (.handOver i rest hPhase hLoop)
        · exact .inl rfl
    · exact .inl rfl
  | unlock =>
    dsimp only [step, unlock]
    split
    next hPhase => exact .inr (.unlock hPhase)
    · exact .inl rfl
  | receive i =>
    dsimp only [step, receive]
    split
    next h => exact .inr (.receive i h.1 h.2)
    · exact .inl rfl
  | expire err =>
    dsimp only [step, expire]
    split
    · exact .inr (.expire err)
    · exact .inl rfl
  | test =>
    dsimp only [step, test]
    split
    next i hLoop =>
      split
      next hStopped => exact .inr (.drop i hLoop hStopped)
      next hStopped => exact .inr (.enter i hLoop (Bool.eq_false_iff.mpr hStopped))
    · exact .inl rfl
  | launch =>
    dsimp only [step, launch]
    split
    next i hLoop => exact .inr (.launch i hLoop)
    · exact .inl rfl
  | readRefusal =>
    dsimp only [step, readRefusal]
    split
    next i hLoop => exact .inr (.readRefusal i hLoop)
    · exact .inl rfl
  | check i ready =>
    dsimp only [step, check]
    split
    next hChecking =>
      refine .inr (.check i _ hChecking ?_)
      cases ready <;> cases hReady : g.signalReady i <;> simp
    · exact .inl rfl
  | signalClosed i =>
    dsimp only [step, signalClosed]
    split
    next h => exact .inr (.signalClosed i h.1 h.2)
    · exact .inl rfl
  | finish i failed =>
    dsimp only [step, finish]
    split
    next hRunning =>
      split
      · exact .inr (.report i hRunning)
      · exact .inr (.done i (hRunning ▸ rfl))
    · exact .inl rfl
  | readError i =>
    dsimp only [step, readError]
    split
    next hReporting => exact .inr (.done i (hReporting ▸ rfl))
    · exact .inl rfl
  | stop =>
    dsimp only [step, stop]
    split
    next hIdle => exact .inr (.stop hIdle)
    · exact .inl rfl
  | halt =>
    dsimp only [step, halt]
    split
    next h => exact .inr (.halt h.1 h.2)
    · exact .inl rfl
  | drain =>
    dsimp only [step, drain]
    split
    next h => exact .inr (.drain h.1 h.2)
    · exact .inl rfl
  | giveUp =>
    dsimp only [step, giveUp]
    split
    next hWaiting => exact .inr (.giveUp hWaiting)
    · exact .inl rfl
  | exit =>
    dsimp only [step, exit]
    split
    next h => exact .inr (.exit h.1)
    · exact .inl rfl

end RunnableGroup

end Liteio
