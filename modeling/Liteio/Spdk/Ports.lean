import Liteio.Spdk.Targets
import Mathlib.Data.Int.Range

/-! # No port is handed out twice

A port is taken from the moment the allocator gives it out: first by the call
that is to add a listener on it, then by the listener. The set of the allocator
covers all taken ports as long as it is not rebuilt while a port is on its way
to its listener, and not from a request that failed, and no listener is put on a
port of the allocator's range that the set does not have.
-/

namespace Liteio.Spdk

open Strconv

def Op.flightPort : Op → Option String
  | .addListener address true => some address.trSvcID
  | _ => none

def Op.isNextID : Op → Bool
  | .nextID _ => true
  | _ => false

def Call.flightPort (call : Call) : Option String := call.ops.head?.bind Op.flightPort

/-- The set has the port, or the allocator cannot give it out. -/
def SvcIdAllocator.Covers (a : SvcIdAllocator) (port : String) : Prop :=
  port ∈ a.inUse ∨ ∀ svcID, a.minId ≤ svcID → svcID ≤ a.maxId → itoa svcID ≠ port

instance (a : SvcIdAllocator) (port : String) : Decidable (a.Covers port) :=
  inferInstanceAs (Decidable (_ ∨ _))

namespace Service

def nextOp (c : Service) (id : ℕ) : Option Op := (c.calls.lookup id).bind fun call => call.ops.head?

def inFlight (c : Service) : Multiset String :=
  (FiniteMap.values c.calls).filterMap Call.flightPort

/-- A port that is handed out has no listener and is on the way to none. -/
def HandsOutFree (c : Service) : Action → Prop
  | .run id _ => ∀ op ∈ c.nextOp id, op.isNextID = true → ∀ svcID ∈ c.alloc.nextID.2,
      itoa svcID ∉ listenerPorts c.subsystems ∧ itoa svcID ∉ c.inFlight
  | _ => True

def Undisturbed (c : Service) (served : Bool) : Op → Prop
  | .syncFromTruth _ => c.inFlight = 0 ∧ (served = false → listenerPorts c.subsystems = 0)
  | .addListener address false => served = true → c.alloc.Covers address.trSvcID
  | _ => True

def Keeps (c : Service) : Action → Prop
  | .run id served => ∀ op ∈ c.nextOp id, c.Undisturbed served op
  | _ => True

instance (c : Service) : DecidablePred c.HandsOutFree
  | .run id _ => inferInstanceAs (Decidable (∀ op ∈ c.nextOp id, _ → ∀ svcID ∈ c.alloc.nextID.2, _))
  | .createTarget _ _ | .deleteTarget _ _ => isTrue trivial

instance (c : Service) (served : Bool) : DecidablePred (c.Undisturbed served)
  | .syncFromTruth _ => inferInstanceAs (Decidable (_ ∧ (_ → _)))
  | .addListener _ false => inferInstanceAs (Decidable (_ → _))
  | .addListener _ true | .getSubsystems _ | .createSubsystem | .addNS _ | .nextID _ | .findSubsystem
  | .deleteSubsystem => isTrue trivial

instance (c : Service) : DecidablePred c.Keeps
  | .run id _ => inferInstanceAs (Decidable (∀ op ∈ c.nextOp id, _))
  | .createTarget _ _ | .deleteTarget _ _ => isTrue trivial

end Service

theorem mem_listenerPorts {list : Subsystems} {port : String} :
    port ∈ listenerPorts list ↔ ∃ nqn subsys, list.lookup nqn = some subsys ∧ port ∈ subsys.ports := by
  rw [listenerPorts, Multiset.mem_bind]
  constructor
  · rintro ⟨subsys, hMem, hPort⟩
    obtain ⟨nqn, hNqn⟩ := FiniteMap.mem_values.mp hMem
    exact ⟨nqn, subsys, hNqn, hPort⟩
  · rintro ⟨nqn, subsys, hNqn, hPort⟩
    exact ⟨subsys, FiniteMap.mem_values.mpr ⟨nqn, hNqn⟩, hPort⟩

theorem mem_listenerPorts_insert {list : Subsystems} {nqn port : String} {subsys : Subsystem}
    (h : port ∈ listenerPorts (list.insert nqn subsys)) : port ∈ subsys.ports ∨ port ∈ listenerPorts list := by
  obtain ⟨other, found, hFound, hPort⟩ := mem_listenerPorts.mp h
  rw [FiniteMap.lookup_insert_eq] at hFound
  split at hFound
  · cases hFound
    exact .inl hPort
  · exact .inr (mem_listenerPorts.mpr ⟨other, found, hFound, hPort⟩)

theorem mem_listenerPorts_erase {list : Subsystems} {nqn port : String}
    (h : port ∈ listenerPorts (list.erase nqn)) : port ∈ listenerPorts list := by
  obtain ⟨other, found, hFound, hPort⟩ := mem_listenerPorts.mp h
  exact mem_listenerPorts.mpr ⟨other, found, FiniteMap.lookup_of_erase hFound, hPort⟩

namespace SvcIdAllocator

structure InRange (a : SvcIdAllocator) : Prop where
  min_le : a.minId ≤ a.cursor
  le_max : a.cursor ≤ a.maxId

theorem advance_inRange {a : SvcIdAllocator} (h : a.InRange) {cursor : ℤ} (hMin : a.minId ≤ cursor) :
    a.minId ≤ a.advance cursor ∧ a.advance cursor ≤ a.maxId := by
  have hRange := h.min_le.trans h.le_max
  unfold advance
  split
  · exact ⟨le_refl _, hRange⟩
  · omega

theorem search_spec {a : SvcIdAllocator} (h : a.InRange) (rounds : ℕ) {cursor : ℤ}
    (hMin : a.minId ≤ cursor) :
    (a.minId ≤ (a.search rounds cursor).1 ∧ (a.search rounds cursor).1 ≤ a.maxId) ∧
      ∀ id, (a.search rounds cursor).2 = some id →
        id = (a.search rounds cursor).1 ∧ itoa id ∉ a.inUse := by
  induction rounds generalizing cursor with
  | zero => exact ⟨advance_inRange h hMin, by simp [search]⟩
  | succ rounds ih =>
    have hNext := advance_inRange h hMin
    unfold search
    dsimp only
    split
    · exact ih hNext.1
    · rename_i hFree
      refine ⟨hNext, ?_⟩
      intro id hId
      cases hId
      exact ⟨rfl, hFree⟩

structure Next (a a' : SvcIdAllocator) (svcID : Option ℤ) : Prop where
  minId : a'.minId = a.minId
  maxId : a'.maxId = a.maxId
  inRange : a'.InRange
  subset : a.inUse ⊆ a'.inUse
  free : ∀ id, svcID = some id →
    itoa id ∉ a.inUse ∧ itoa id ∈ a'.inUse ∧ a.minId ≤ id ∧ id ≤ a.maxId

theorem nextID_spec {a : SvcIdAllocator} (h : a.InRange) : Next a a.nextID.1 a.nextID.2 := by
  have hRange := h.min_le.trans h.le_max
  unfold nextID
  split
  · rename_i hEmpty
    refine ⟨rfl, rfl, ⟨le_refl _, hRange⟩, by simp [hEmpty], ?_⟩
    intro id hId
    cases hId
    refine ⟨by simp [hEmpty], by simp, le_refl _, hRange⟩
  · have hSearch := search_spec h (a.maxId - a.minId).toNat h.min_le
    split
    · rename_i cursor hFound
      rw [hFound] at hSearch
      exact ⟨rfl, rfl, ⟨hSearch.1.1, hSearch.1.2⟩, subset_rfl, by simp⟩
    · rename_i cursor id hFound
      rw [hFound] at hSearch
      obtain ⟨rfl, hFree⟩ := hSearch.2 id rfl
      refine ⟨rfl, rfl, ⟨hSearch.1.1, hSearch.1.2⟩, Finset.subset_insert _ _, ?_⟩
      intro other hOther
      cases hOther
      exact ⟨hFree, Finset.mem_insert_self _ _, hSearch.1.1, hSearch.1.2⟩

theorem Next.covers {a a' : SvcIdAllocator} {svcID : Option ℤ} (h : Next a a' svcID) {port : String}
    (hCovers : a.Covers port) : a'.Covers port := by
  rcases hCovers with hUsed | hOutside
  · exact .inl (h.subset hUsed)
  · refine .inr ?_
    rw [h.minId, h.maxId]
    exact hOutside

end SvcIdAllocator

/-- Requests that come after the next one carry no port of the allocator. -/
def Call.Plain (call : Call) : Prop := ∀ op ∈ call.ops.tail, op.flightPort = none

theorem Call.plan_plain (call : Call) (req : TargetCreateRequest) (list : Subsystems) :
    ∀ op ∈ (call.plan req list).ops, op.flightPort = none := by
  have hListen : ∀ op ∈ listenOps req, op.flightPort = none := by
    unfold listenOps
    split <;> simp [Op.flightPort]
  unfold Call.plan
  dsimp only
  split
  · simp [Call.fail]
  · split
    · intro op hOp
      rcases List.mem_append.mp hOp with hFirst | hSync
      · rcases List.mem_append.mp hFirst with hNS | hRest
        · split at hNS
          · rw [List.mem_singleton.mp hNS]
            rfl
          · cases hNS
        · split at hRest
          · exact hListen op hRest
          · cases hRest
      · rw [List.mem_singleton.mp hSync]
        rfl
    · intro op hOp
      rcases List.mem_append.mp hOp with hFirst | hSync
      · rcases List.mem_append.mp hFirst with hNew | hRest
        · simp only [List.mem_cons, List.not_mem_nil, or_false] at hNew
          rcases hNew with rfl | rfl <;> rfl
        · exact hListen op hRest
      · rw [List.mem_singleton.mp hSync]
        rfl

namespace Service

structure Tracked (c : Service) : Prop where
  inRange : c.alloc.InRange
  listeners : ∀ port ∈ listenerPorts c.subsystems, c.alloc.Covers port
  flight : ∀ id call, c.calls.lookup id = some call → ∀ port ∈ call.flightPort, port ∈ c.alloc.inUse
  plain : ∀ id call, c.calls.lookup id = some call → call.Plain

variable {c : Service}

theorem mem_inFlight {port : String} :
    port ∈ c.inFlight ↔ ∃ id call, c.calls.lookup id = some call ∧ call.flightPort = some port := by
  rw [inFlight, Multiset.mem_filterMap]
  constructor
  · rintro ⟨call, hMem, hPort⟩
    obtain ⟨id, hId⟩ := FiniteMap.mem_values.mp hMem
    exact ⟨id, call, hId, hPort⟩
  · rintro ⟨id, call, hId, hPort⟩
    exact ⟨call, FiniteMap.mem_values.mpr ⟨id, hId⟩, hPort⟩

theorem Tracked.goOn (h : c.Tracked) (id : ℕ) {call : Call}
    (hFlight : ∀ port ∈ call.flightPort, port ∈ c.alloc.inUse) (hPlain : call.Plain) :
    (c.goOn id call).Tracked := by
  refine ⟨h.inRange, h.listeners, ?_, ?_⟩
  · intro other found hFound
    rw [Service.goOn, FiniteMap.lookup_insert_eq] at hFound
    split at hFound
    · cases hFound
      exact hFlight
    · exact h.flight other found hFound
  · intro other found hFound
    rw [Service.goOn, FiniteMap.lookup_insert_eq] at hFound
    split at hFound
    · cases hFound
      exact hPlain
    · exact h.plain other found hFound

theorem Tracked.goOn_plain (h : c.Tracked) (id : ℕ) {call : Call}
    (hPlain : ∀ op ∈ call.ops, op.flightPort = none) : (c.goOn id call).Tracked := by
  refine h.goOn id ?_ fun op hOp => hPlain op (List.mem_of_mem_tail hOp)
  intro port hPort
  obtain ⟨op, hOp, hFlight⟩ := Option.bind_eq_some_iff.mp hPort
  rw [hPlain op (List.mem_of_mem_head? hOp)] at hFlight
  cases hFlight

theorem Tracked.fail (h : c.Tracked) (id : ℕ) (call : Call) (err : String) :
    (c.goOn id (call.fail err)).Tracked :=
  h.goOn_plain id (by simp [Call.fail])

theorem Tracked.withSubsystems (h : c.Tracked) {list : Subsystems}
    (hPorts : ∀ port ∈ listenerPorts list, c.alloc.Covers port) :
    Tracked { c with subsystems := list } :=
  ⟨h.inRange, hPorts, h.flight, h.plain⟩

theorem Tracked.request (h : c.Tracked) (served : Bool) (id : ℕ) {call : Call} {ops : List Op}
    {f : Subsystem → Subsystem} (hOps : ∀ op ∈ ops, op.flightPort = none)
    (hPorts : served = true → ∀ subsys, ∀ port ∈ (f subsys).ports, port ∈ subsys.ports ∨ c.alloc.Covers port) :
    (c.request served id call ops f).Tracked := by
  unfold Service.request
  split
  · rename_i subsys hFound
    refine (h.withSubsystems ?_).goOn_plain id hOps
    intro port hPort
    rcases mem_listenerPorts_insert hPort with hNew | hOld
    · rcases hPorts rfl subsys port hNew with hOwn | hCovers
      · exact h.listeners port (mem_listenerPorts.mpr ⟨_, subsys, hFound, hOwn⟩)
      · exact hCovers
    · exact h.listeners port hOld
  · exact h.fail id call _

theorem Tracked.nextID (h : c.Tracked) (id : ℕ) {call : Call} {ops : List Op} (req : TargetCreateRequest)
    (hOps : ∀ op ∈ ops, op.flightPort = none) (served : Bool) :
    (c.exec served id call ops (.nextID req)).Tracked := by
  have hSpec := SvcIdAllocator.nextID_spec h.inRange
  have hBase : Tracked { c with alloc := c.alloc.nextID.1 } :=
    ⟨hSpec.inRange, fun port hPort => hSpec.covers (h.listeners port hPort),
      fun other call hCall port hPort => hSpec.subset (h.flight other call hCall port hPort), h.plain⟩
  rw [exec]
  split
  · rename_i alloc svcID hNext
    rw [hNext] at hBase hSpec
    refine hBase.goOn id ?_ hOps
    intro port hPort
    cases hPort
    exact (hSpec.free svcID rfl).2.1
  · rename_i alloc hNext
    rw [hNext] at hBase
    exact hBase.fail id call _

theorem Tracked.sync (h : c.Tracked) {served : Bool} (hFlight : c.inFlight = 0)
    (hServed : served = false → listenerPorts c.subsystems = 0) :
    Tracked { c with alloc := c.alloc.syncFromTruth (if served then some c.subsystems else none) } := by
  refine ⟨⟨h.inRange.min_le, h.inRange.le_max⟩, ?_, ?_, h.plain⟩
  · intro port hPort
    cases served with
    | true => exact .inl (Multiset.mem_toFinset.mpr hPort)
    | false =>
      rw [hServed rfl] at hPort
      cases hPort
  · intro id call hCall port hPort
    have hMem : port ∈ c.inFlight := mem_inFlight.mpr ⟨id, call, hCall, hPort⟩
    rw [hFlight] at hMem
    cases hMem

theorem Tracked.exec (h : c.Tracked) {served : Bool} {id : ℕ} {call : Call} {op : Op} {ops : List Op}
    (hCall : c.calls.lookup id = some call) (hOps : call.ops = op :: ops) (hOp : c.Undisturbed served op) :
    (c.exec served id call ops op).Tracked := by
  have hPlain : ∀ op ∈ ops, op.flightPort = none := by
    have hTail := h.plain id call hCall
    rwa [Call.Plain, hOps] at hTail
  cases op with
  | getSubsystems req =>
    rw [Service.exec]
    split
    · exact h.goOn_plain id (call.plan_plain req c.subsystems)
    · exact h.fail id call _
  | createSubsystem =>
    rw [Service.exec]
    split
    · refine (h.withSubsystems ?_).goOn_plain id hPlain
      intro port hPort
      rcases mem_listenerPorts_insert hPort with hNew | hOld
      · cases hNew
      · exact h.listeners port hOld
    · exact h.fail id call _
  | addNS bdevName =>
    rw [Service.exec]
    exact h.request served id hPlain fun _ _ port hPort => .inl hPort
  | nextID req => exact h.nextID id req hPlain served
  | addListener address allocated =>
    rw [Service.exec]
    refine h.request served id hPlain ?_
    intro hServed subsys port hPort
    rw [Subsystem.ports, Multiset.mem_coe, List.map_append, List.mem_append] at hPort
    rcases hPort with hOwn | hNew
    · exact .inl hOwn
    · rw [List.map_singleton, List.mem_singleton] at hNew
      subst hNew
      cases allocated with
      | true =>
        refine .inr (.inl (h.flight id call hCall _ ?_))
        rw [Call.flightPort, hOps]
        rfl
      | false => exact .inr (hOp hServed)
  | syncFromTruth reported =>
    rw [Service.exec]
    exact (h.sync hOp.1 hOp.2).goOn_plain id hPlain
  | findSubsystem =>
    rw [Service.exec]
    split
    · refine h.goOn_plain id ?_
      dsimp only
      split <;> simp [Op.flightPort]
    · exact h.fail id call _
  | deleteSubsystem =>
    rw [Service.exec]
    split
    · exact (h.withSubsystems fun port hPort => h.listeners port (mem_listenerPorts_erase hPort)).goOn_plain
        id hPlain
    · exact h.goOn_plain id hPlain

theorem Tracked.start (h : c.Tracked) (id : ℕ) {call : Call}
    (hPlain : ∀ op ∈ call.ops, op.flightPort = none) : (c.start id call).Tracked := by
  unfold Service.start
  split
  · exact h.goOn_plain id hPlain
  · exact h

theorem Tracked.step (h : c.Tracked) {a : Action} (hKeeps : c.Keeps a) : (c.step a).Tracked := by
  cases a with
  | createTarget id req => exact h.start id (by simp [Spdk.createTarget, Op.flightPort])
  | deleteTarget id nqn => exact h.start id (by simp [Spdk.deleteTarget, Op.flightPort])
  | run id served =>
    rw [Service.step]
    split
    · rename_i call hCall
      split
      · rename_i op ops hOps
        refine h.exec hCall hOps (hKeeps op ?_)
        rw [nextOp, hCall]
        exact congrArg List.head? hOps
      · exact ⟨h.inRange, h.listeners, fun other found hFound =>
          h.flight other found (FiniteMap.lookup_of_erase hFound), fun other found hFound =>
          h.plain other found (FiniteMap.lookup_of_erase hFound)⟩
    · exact h

theorem Tracked.handsOutFree (h : c.Tracked) (a : Action) : c.HandsOutFree a := by
  cases a with
  | createTarget id req => trivial
  | deleteTarget id nqn => trivial
  | run id served =>
    intro _ _ _ svcID hNext
    obtain ⟨hFree, _, hMin, hMax⟩ := (SvcIdAllocator.nextID_spec h.inRange).free svcID hNext
    constructor
    · intro hPort
      rcases h.listeners _ hPort with hUsed | hOutside
      · exact hFree hUsed
      · exact hOutside _ hMin hMax rfl
    · intro hPort
      obtain ⟨other, call, hCall, hFlight⟩ := mem_inFlight.mp hPort
      exact hFree (h.flight other call hCall _ hFlight)

theorem tracked_newService (list : Subsystems) : (newService list).Tracked where
  inRange := ⟨le_refl minSvcID, show minSvcID ≤ maxSvcID by decide⟩
  listeners port hPort := .inl (Multiset.mem_toFinset.mpr hPort)
  flight id call hCall := by
    rw [newService, Finmap.lookup_empty] at hCall
    cases hCall
  plain id call hCall := by
    rw [newService, Finmap.lookup_empty] at hCall
    cases hCall

/-- From the start of the service on, along every interleaving of calls whose
requests are not disturbed, every port that is handed out is free. -/
theorem handedOut_free (list : Subsystems) (actions : List Action)
    (hKeeps : Runs.Guarded step Keeps (newService list) actions) :
    Runs.Guarded step HandsOutFree (newService list) actions := by
  refine hKeeps.imp (tracked_newService list) ?_ ?_
  · intro c a h hGuard
    exact h.step hGuard
  · intro c a h _
    exact h.handsOutFree a

def targetRequest (nqn bdevName : String) : TargetCreateRequest where
  bdevName := bdevName
  targetInfo := { nqn := nqn }

def makeTarget (id : ℕ) (nqn bdevName : String) (synced : Bool) : List Action :=
  [.createTarget id (targetRequest nqn bdevName), .run id true, .run id true, .run id true, .run id true,
    .run id true, .run id synced, .run id true]

theorem twoTargets_free :
    Runs.Guarded step Keeps (newService ∅)
      (makeTarget 0 "nqn-a" "bdev-a" true ++ makeTarget 1 "nqn-b" "bdev-b" true) ∧
    Runs.Guarded step HandsOutFree (newService ∅)
      (makeTarget 0 "nqn-a" "bdev-a" true ++ makeTarget 1 "nqn-b" "bdev-b" true) :=
  ⟨by decide +kernel, handedOut_free ∅ _ (by decide +kernel)⟩

/-- The set is lost with the request that should have filled it. -/
theorem lostSet_handsOutTwice :
    ¬ Runs.Guarded step HandsOutFree (newService ∅)
      (makeTarget 0 "nqn-a" "bdev-a" false ++ makeTarget 1 "nqn-b" "bdev-b" true) := by
  decide +kernel

end Service

end Liteio.Spdk
