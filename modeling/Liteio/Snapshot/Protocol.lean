import Liteio.Library.ObjectStore
import Liteio.Snapshot.Sync

/-! # All snapshots of one namespace

Users create and delete snapshots while any number of passes of the controller
and of agents are under way. A pass reads one snapshot, a controller pass may
then list those of the same origin, and at the end the pass makes its calls and
sends its write, which is refused if the snapshot changed since it was read. A
pass that fails or is given up on is replaced by a new read.
-/

namespace Liteio.Snapshot

open ObjectStore Optimistic

inductive Process where
  | controller (pass : ℕ)
  | agent (pass : ℕ)
  deriving DecidableEq

inductive Local where
  | idle
  | fetched (copy : Versioned AntstorSnapshot)
  | listed (copy : Versioned AntstorSnapshot) (snapList : List AntstorSnapshot)

structure Cluster where
  store : Store AntstorSnapshot := {}
  procs : Process → Local := fun _ => .idle
  calls : List Agent.Call := []

inductive Event where
  | create (snap : AntstorSnapshot)
  | delete (name : String) (now : ℕ)
  | read (i : Process) (name : String)
  | list (pass : ℕ) (ans : Controller.Answers)
  | finishController (pass : ℕ) (ans : Controller.Answers)
  | finishAgent (pass : ℕ) (ans : Agent.Answers)

def snapName (snap : AntstorSnapshot) : String := snap.name

def Cluster.become (s : Cluster) (i : Process) (state : Local) : Cluster :=
  { s with procs := Function.update s.procs i state }

def Cluster.write (s : Cluster) (copy : Versioned AntstorSnapshot) : Option Write → Cluster
  | none => s
  | some w => { s with store := s.store.modify snapName copy.value.name (some copy.version) w.apply }

def Cluster.listByOrigin (s : Cluster) (originVolName : String) : List AntstorSnapshot :=
  (s.store.objects.map Versioned.value).filter fun item =>
    item.label originVolumeNameLabelKey = some originVolName

def step (s : Cluster) : Event → Cluster
  | .create snap =>
    { s with store := s.store.create snapName { snap with status := .unset, deletionTimestamp := none } }
  | .delete name now =>
    { s with store := s.store.modify snapName name none fun snap =>
        finalize { snap with deletionTimestamp := snap.deletionTimestamp.or (some now) } }
  | .read i name =>
    match s.store.find snapName name with
    | some copy => s.become i (.fetched copy)
    | none => s.become i .idle
  | .list pass ans =>
    match s.procs (.controller pass) with
    | .fetched copy =>
      match Controller.reconcileUnlisted ans copy.value with
      | .list => s.become (.controller pass) (.listed copy (s.listByOrigin copy.value.spec.originVolName))
      | .done _ => s
    | _ => s
  | .finishController pass ans =>
    match s.procs (.controller pass) with
    | .fetched copy =>
      match Controller.reconcileUnlisted ans copy.value with
      | .done out => (s.write copy out.write).become (.controller pass) .idle
      | .list => s
    | .listed copy snapList =>
      (s.write copy (Controller.reconcileListed ans copy.value snapList).write).become (.controller pass) .idle
    | .idle => s
  | .finishAgent pass ans =>
    match s.procs (.agent pass) with
    | .fetched copy =>
      let out := Agent.syncOneSnapshot ans copy.value
      { (s.write copy out.write).become (.agent pass) .idle with calls := s.calls ++ out.calls }
    | _ => s

def Live (snap : AntstorSnapshot) : Prop :=
  snap.status = .creating ∨ snap.status = .ready ∨ snap.status = .merging

instance (snap : AntstorSnapshot) : Decidable (Live snap) := inferInstanceAs (Decidable (_ ∨ _))

def SameOrigin (snap other : AntstorSnapshot) : Prop :=
  snap.spec.originVolName = other.spec.originVolName ∧
    snap.spec.originVolNamespace = other.spec.originVolNamespace

instance (snap other : AntstorSnapshot) : Decidable (SameOrigin snap other) :=
  inferInstanceAs (Decidable (_ ∧ _))

def OneLive (s : Cluster) : Prop :=
  ∀ o ∈ s.store.objects, ∀ o' ∈ s.store.objects, Live o.value → Live o'.value →
    SameOrigin o.value o'.value → o.value.name = o'.value.name

instance (s : Cluster) : Decidable (OneLive s) := inferInstanceAs (Decidable (∀ o ∈ s.store.objects, _))

def OriginLabelled (snap : AntstorSnapshot) : Prop :=
  snap.label originVolumeNameLabelKey = some snap.spec.originVolName

instance (snap : AntstorSnapshot) : Decidable (OriginLabelled snap) := inferInstanceAs (Decidable (_ = _))

def Labellable (snap : AntstorSnapshot) : Prop := snap.labels.getD ∅ = ∅ ∨ OriginLabelled snap

instance (snap : AntstorSnapshot) : Decidable (Labellable snap) := inferInstanceAs (Decidable (_ ∨ _))

def CreatesLabellable (_ : Cluster) : Event → Prop
  | .create snap => Labellable snap
  | _ => True

instance (s : Cluster) (e : Event) : Decidable (CreatesLabellable s e) := by
  cases e <;> unfold CreatesLabellable <;> infer_instance

end Liteio.Snapshot
