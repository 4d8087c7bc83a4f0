import Liteio.Spdk.NextID

/-! # Repeated attempts to create a target

Calls of `CreateTarget` with one request, one after the other, each of which may
fail at any of its requests to SPDK. What an attempt leaves behind is one of four
stages, the next attempt goes on from there, and a target that is complete is not
touched again. What does not go back is the port that an attempt took from the
allocator before its listener failed: the set is rebuilt by complete calls only.
-/

namespace Liteio.Spdk

open Strconv

inductive Stage (req : TargetCreateRequest) where
  | nothing
  | subsystem
  | ns
  | target (address : ListenAddress) (hType : address.trType = req.transType)

variable {req : TargetCreateRequest}

def Stage.isTarget : Stage req → Bool
  | .target _ _ => true
  | _ => false

def Stage.subsystem? : Stage req → Option Subsystem
  | .nothing => none
  | .subsystem => some {}
  | .ns => some { namespaces := [req.bdevName] }
  | .target address _ => some { namespaces := [req.bdevName], listenAddresses := [address] }

def Stage.subsystems (stage : Stage req) (before : Subsystems) : Subsystems :=
  match stage.subsystem? with
  | none => before
  | some subsys => before.insert req.targetInfo.nqn subsys

inductive Stage.Grows : Stage req → Stage req → Prop where
  | refl (stage : Stage req) : Grows stage stage
  | subsystem : Grows .nothing .subsystem
  | ns : Grows .subsystem .ns
  | target (address : ListenAddress) (hType : address.trType = req.transType) : Grows .ns (.target address hType)

structure Unused (req : TargetCreateRequest) (before : Subsystems) : Prop where
  absent : before.lookup req.targetInfo.nqn = none
  bdev : ∀ nqn subsys, before.lookup nqn = some subsys → req.bdevName ∉ subsys.namespaces

def Call.underWay (result : Target) (ops : List Op) : Call := { result := result, ops := ops }

theorem Stage.lookup_subsystems (stage : Stage req) {before : Subsystems} (h : Unused req before) :
    (stage.subsystems before).lookup req.targetInfo.nqn = stage.subsystem? := by
  cases stage with
  | nothing => exact h.absent
  | _ => exact Finmap.lookup_insert _

theorem Unused.any_eq_false {before : Subsystems} (h : Unused req before) (stage : Stage req) :
    ((stage.subsystems before).any fun key subsys =>
      key ≠ req.targetInfo.nqn && subsys.namespaces.contains req.bdevName) = false := by
  rw [Bool.eq_false_iff, ne_eq, FiniteMap.any_eq_true_iff]
  rintro ⟨key, subsys, hLookup, hUses⟩
  rw [Bool.and_eq_true, decide_eq_true_iff, List.contains_iff_mem] at hUses
  have hBefore : before.lookup key = some subsys := by
    rw [Stage.subsystems] at hLookup
    split at hLookup
    · exact hLookup
    · rwa [Finmap.lookup_insert_of_ne _ hUses.1] at hLookup
  exact h.bdev key subsys hBefore hUses.2

def Stage.planned : Stage req → Call
  | .nothing => .underWay req.targetInfo
      ([.createSubsystem, .addNS req.bdevName] ++ listenOps req ++ [.syncFromTruth true])
  | .subsystem => .underWay req.targetInfo ([.addNS req.bdevName] ++ listenOps req ++ [.syncFromTruth true])
  | .ns => .underWay req.targetInfo (listenOps req ++ [.syncFromTruth true])
  | .target address _ => .underWay { req.targetInfo with svcID := address.trSvcID } [.syncFromTruth true]

theorem Stage.planned_ops_ne_nil (stage : Stage req) : stage.planned.ops ≠ [] := by
  cases stage <;> simp [Stage.planned, Call.underWay]

theorem Unused.plan {before : Subsystems} (h : Unused req before) (stage : Stage req) :
    (createTarget req).plan req (stage.subsystems before) = stage.planned := by
  rw [Call.plan, if_neg (by rw [h.any_eq_false stage]; decide), stage.lookup_subsystems h]
  cases stage with
  | nothing => rfl
  | subsystem => rfl
  | ns => rfl
  | target address hType =>
    dsimp only [Stage.subsystem?]
    rw [List.foldl_cons, List.foldl_nil, if_pos hType]
    rfl

inductive Attempt : Stage req → Call → Prop where
  | fresh (stage : Stage req) : Attempt stage (createTarget req)
  | planned (stage : Stage req) : Attempt stage stage.planned
  | listenOn (address : ListenAddress) (hType : address.trType = req.transType) (allocated : Bool) :
      Attempt .ns (.underWay req.targetInfo [.addListener address allocated, .syncFromTruth true])
  | sync {address : ListenAddress} (hType : address.trType = req.transType) {result : Target}
      (hPort : result.svcID = address.trSvcID) :
      Attempt (.target address hType) (.underWay result [.syncFromTruth true])
  | done {address : ListenAddress} (hType : address.trType = req.transType) {result : Target}
      (hPort : result.svcID = address.trSvcID) : Attempt (.target address hType) (.underWay result [])
  | failed (stage : Stage req) {call : Call} (hOps : call.ops = []) (hErr : call.err ≠ none) : Attempt stage call

namespace Service

structure Retrying (id : ℕ) (before : Subsystems) (stage : Stage req) (c : Service) : Prop where
  subsystems : c.subsystems = stage.subsystems before
  call : ∀ call, c.calls.lookup id = some call → Attempt stage call

def Retry (id : ℕ) (req : TargetCreateRequest) (a : Action) : Prop :=
  a = .createTarget id req ∨ ∃ served, a = .run id served

def Advances (id : ℕ) (before : Subsystems) (stage : Stage req) (c : Service) : Prop :=
  ∃ next : Stage req, stage.Grows next ∧ Retrying id before next c

variable {c : Service} {id : ℕ} {before : Subsystems} {stage : Stage req}

@[simp] theorem lookup_goOn (c : Service) (id : ℕ) (call : Call) : (c.goOn id call).calls.lookup id = some call :=
  Finmap.lookup_insert _

theorem step_createTarget (h : c.calls.lookup id = none) (req : TargetCreateRequest) :
    c.step (.createTarget id req) = c.goOn id (Spdk.createTarget req) := by
  simp only [Service.step, Service.start, h]

theorem step_run {call : Call} {op : Op} {ops : List Op} (h : c.calls.lookup id = some call)
    (hOps : call.ops = op :: ops) (served : Bool) :
    c.step (.run id served) = c.exec served id call ops op := by
  simp only [Service.step, h, hOps]

theorem step_run_ended {call : Call} (h : c.calls.lookup id = some call) (hOps : call.ops = []) (served : Bool) :
    c.step (.run id served) = { c with calls := c.calls.erase id } := by
  simp only [Service.step, h, hOps]

theorem step_run_idle (h : c.calls.lookup id = none) (served : Bool) : c.step (.run id served) = c := by
  simp only [Service.step, h]

theorem Retrying.goOn (h : c.subsystems = stage.subsystems before) {call : Call} (hCall : Attempt stage call) :
    Retrying id before stage (c.goOn id call) where
  subsystems := h
  call found hFound := by
    rw [lookup_goOn] at hFound
    cases hFound
    exact hCall

theorem Retrying.fail (h : c.subsystems = stage.subsystems before) (call : Call) (err : String) :
    Retrying id before stage (c.goOn id (call.fail err)) :=
  .goOn h (.failed stage rfl (by simp [Call.fail]))

theorem Retrying.stays (h : Retrying id before stage c) : Advances id before stage c :=
  ⟨stage, .refl stage, h⟩

theorem request_of_lookup {call : Call} {ops : List Op} {f : Subsystem → Subsystem} {subsys : Subsystem}
    (h : c.subsystems.lookup call.result.nqn = some subsys) :
    c.request true id call ops f =
      { c with subsystems := c.subsystems.insert call.result.nqn (f subsys) }.goOn id { call with ops := ops } := by
  simp only [Service.request, h]

theorem request_refused {call : Call} {ops : List Op} {f : Subsystem → Subsystem} :
    c.request false id call ops f = c.goOn id (call.fail "spdk request failed") := rfl

theorem Advances.request (hUnused : Unused req before) (h : c.subsystems = stage.subsystems before)
    {served : Bool} {call : Call} {ops : List Op} {f : Subsystem → Subsystem} {subsys : Subsystem}
    (hSubsys : stage.subsystem? = some subsys) {next : Stage req} (hNext : next.subsystem? = some (f subsys))
    (hGrows : stage.Grows next) (hNqn : call.result.nqn = req.targetInfo.nqn)
    (hCall : Attempt next { call with ops := ops }) :
    Advances id before stage (c.request served id call ops f) := by
  have hLookup : c.subsystems.lookup call.result.nqn = some subsys := by
    rw [h, hNqn, stage.lookup_subsystems hUnused, hSubsys]
  cases served with
  | false => exact (Retrying.fail h call _).stays
  | true =>
    refine ⟨next, hGrows, ?_⟩
    rw [request_of_lookup hLookup]
    refine .goOn ?_ hCall
    simp only [h, hNqn, Stage.subsystems, hSubsys, hNext, Finmap.insert_insert]

theorem exec_getSubsystems (hUnused : Unused req before) (h : c.subsystems = stage.subsystems before)
    {ops : List Op} : c.exec true id (createTarget req) ops (.getSubsystems req) = c.goOn id stage.planned := by
  rw [Service.exec, if_pos rfl, h, hUnused.plan stage]

theorem exec_nextID (h : c.subsystems = (.ns : Stage req).subsystems before) (served : Bool) :
    Advances id before (.ns : Stage req)
      (c.exec served id (.underWay req.targetInfo [.nextID req, .syncFromTruth true]) [.syncFromTruth true]
        (.nextID req)) := by
  rw [Service.exec]
  split
  · refine Retrying.stays (.goOn ?_ (.listenOn _ rfl true))
    exact h
  · refine Retrying.stays (.fail ?_ _ _)
    exact h

theorem exec_syncFromTruth {address : ListenAddress} {hType : address.trType = req.transType}
    (h : c.subsystems = (Stage.target address hType).subsystems before) {result : Target}
    (hPort : result.svcID = address.trSvcID) (served : Bool) :
    Advances id before (.target address hType)
      (c.exec served id (.underWay result [.syncFromTruth true]) [] (.syncFromTruth true)) := by
  rw [Service.exec]
  refine Retrying.stays (.goOn ?_ ?_)
  · exact h
  · cases served with
    | false => exact .failed _ rfl (by simp)
    | true => exact .done hType hPort

theorem exec_planned (hUnused : Unused req before) (h : c.subsystems = stage.subsystems before) {op : Op}
    {ops : List Op} (hOps : stage.planned.ops = op :: ops) (served : Bool) :
    Advances id before stage (c.exec served id stage.planned ops op) := by
  cases stage with
  | nothing =>
    cases hOps
    rw [Service.exec]
    cases served with
    | false => exact (Retrying.fail h _ _).stays
    | true =>
      refine ⟨.subsystem, .subsystem, ?_⟩
      rw [if_pos ⟨rfl, h ▸ hUnused.absent⟩]
      refine .goOn ?_ (.planned .subsystem)
      rw [h]
      rfl
  | subsystem =>
    cases hOps
    exact Advances.request hUnused h rfl rfl .ns rfl (.planned .ns)
  | ns =>
    -- the port is asked for by the request, or it comes from the allocator first
    rw [Stage.planned] at hOps ⊢
    rw [listenOps] at hOps ⊢
    split at hOps
    · rename_i hEmpty
      cases hOps
      rw [if_pos hEmpty]
      exact exec_nextID h served
    · rename_i hFixed
      cases hOps
      rw [if_neg hFixed]
      exact Advances.request hUnused h rfl rfl (.target _ rfl) rfl (.sync rfl rfl)
  | target address hType =>
    cases hOps
    exact exec_syncFromTruth h rfl served

theorem Attempt.exec (hUnused : Unused req before) (h : c.subsystems = stage.subsystems before) {call : Call}
    (hCall : Attempt stage call) {op : Op} {ops : List Op} (hOps : call.ops = op :: ops) (served : Bool) :
    Advances id before stage (c.exec served id call ops op) := by
  cases hCall with
  | fresh =>
    cases hOps
    cases served with
    | false => exact (Retrying.fail h _ _).stays
    | true =>
      rw [exec_getSubsystems hUnused h]
      exact (Retrying.goOn h (.planned stage)).stays
  | planned => exact exec_planned hUnused h hOps served
  | listenOn address hType allocated =>
    cases hOps
    exact Advances.request hUnused h rfl rfl (.target address hType) rfl (.sync hType rfl)
  | sync hType hPort =>
    cases hOps
    exact exec_syncFromTruth h hPort served
  | done hType hPort => cases hOps
  | failed _ hEnded hErr =>
    rw [hEnded] at hOps
    cases hOps

theorem Retrying.step (hUnused : Unused req before) (h : Retrying id before stage c) {a : Action}
    (hRetry : Retry id req a) : Advances id before stage (c.step a) := by
  rcases hRetry with rfl | ⟨served, rfl⟩
  · rw [Service.step, Service.start]
    split
    · exact Retrying.stays (.goOn h.subsystems (.fresh stage))
    · exact h.stays
  · rw [Service.step]
    split
    · rename_i call hCall
      split
      · rename_i op ops hOps
        exact Attempt.exec hUnused h.subsystems (h.call call hCall) hOps served
      · refine Retrying.stays ⟨h.subsystems, fun found hFound => ?_⟩
        rw [Finmap.lookup_erase] at hFound
        cases hFound
    · exact h.stays

theorem Retrying.run (hUnused : Unused req before) (h : Retrying id before stage c) {actions : List Action}
    (hActions : ∀ a ∈ actions, Retry id req a) :
    ∃ next : Stage req, Retrying id before next (Runs.run Service.step c actions) := by
  have hStep : ∀ c a, (∃ stage : Stage req, Retrying id before stage c) → Retry id req a →
      ∃ stage : Stage req, Retrying id before stage (c.step a) := by
    rintro c a ⟨stage, hStage⟩ hRetry
    obtain ⟨next, -, hNext⟩ := hStage.step hUnused hRetry
    exact ⟨next, hNext⟩
  exact Runs.run_of_forall hActions ⟨stage, h⟩ hStep

theorem Retrying.run_target (hUnused : Unused req before) {address : ListenAddress}
    {hType : address.trType = req.transType} (h : Retrying id before (.target address hType) c)
    {actions : List Action} (hActions : ∀ a ∈ actions, Retry id req a) :
    Retrying id before (.target address hType) (Runs.run Service.step c actions) := by
  refine Runs.run_of_forall hActions h fun c a hTarget hRetry => ?_
  obtain ⟨next, hGrows, hNext⟩ := hTarget.step hUnused hRetry
  cases hGrows
  exact hNext

structure Returned (c : Service) (id : ℕ) (call : Call) : Prop where
  found : c.calls.lookup id = some call
  ops : call.ops = []
  err : call.err = none

theorem Retrying.of_returned (h : Retrying id before stage c) {call : Call} (hCall : c.Returned id call) :
    ∃ address hType, stage = .target address hType ∧ call.result.svcID = address.trSvcID := by
  cases h.call call hCall.found with
  | fresh => cases hCall.ops
  | planned => exact absurd hCall.ops stage.planned_ops_ne_nil
  | listenOn => cases hCall.ops
  | sync => cases hCall.ops
  | done hType hPort => exact ⟨_, hType, rfl, hPort⟩
  | failed _ _ hErr => exact absurd hCall.err hErr

/-- A call none of whose requests fails comes to an end, and without an error in one case only. -/
def Ends (id : ℕ) (ok : Prop) (c : Service) : Prop :=
  ∃ n call, (Runs.run step c (List.replicate n (.run id true))).calls.lookup id = some call ∧
    call.ops = [] ∧ (call.err = none ↔ ok)

theorem Ends.of_step {ok : Prop} (h : Ends id ok (c.step (.run id true))) : Ends id ok c := by
  obtain ⟨n, call, hCall⟩ := h
  exact ⟨n + 1, call, hCall⟩

theorem Ends.goOn {ok : Prop} {call : Call} (hOps : call.ops = []) (hErr : call.err = none ↔ ok) :
    Ends id ok (c.goOn id call) :=
  ⟨0, call, lookup_goOn c id call, hOps, hErr⟩

structure Has (id : ℕ) (req : TargetCreateRequest) (alloc : SvcIdAllocator) (ops : List Op) (c : Service) :
    Prop where
  alloc : c.alloc = alloc
  subsys : (c.subsystems.lookup req.targetInfo.nqn).isSome
  call : ∃ result, c.calls.lookup id = some (.underWay result ops) ∧ result.nqn = req.targetInfo.nqn

variable {alloc : SvcIdAllocator} {ops : List Op}

theorem Has.request {f : Subsystem → Subsystem} {call : Call} (hAlloc : c.alloc = alloc)
    (hSubsys : (c.subsystems.lookup req.targetInfo.nqn).isSome) (hErr : call.err = none)
    (hNqn : call.result.nqn = req.targetInfo.nqn) : Has id req alloc ops (c.request true id call ops f) := by
  obtain ⟨subsys, hLookup⟩ := Option.isSome_iff_exists.mp hSubsys
  rw [← hNqn] at hLookup
  rw [request_of_lookup hLookup]
  refine ⟨hAlloc, ?_, call.result, ?_, hNqn⟩
  · simp [Service.goOn, hNqn]
  · rw [lookup_goOn, hErr]
    rfl

theorem Has.addNS {bdevName : String} (h : Has id req alloc (.addNS bdevName :: ops) c) :
    Has id req alloc ops (c.step (.run id true)) := by
  obtain ⟨result, hCall, hNqn⟩ := h.call
  rw [step_run hCall rfl]
  exact Has.request h.alloc h.subsys rfl hNqn

theorem Has.addListener {address : ListenAddress} {allocated : Bool}
    (h : Has id req alloc (.addListener address allocated :: ops) c) :
    Has id req alloc ops (c.step (.run id true)) := by
  obtain ⟨result, hCall, hNqn⟩ := h.call
  rw [step_run hCall rfl]
  exact Has.request h.alloc h.subsys rfl hNqn

theorem Has.ends_sync (h : Has id req alloc [.syncFromTruth true] c) : Ends id True c := by
  obtain ⟨result, hCall, -⟩ := h.call
  refine .of_step ?_
  rw [step_run hCall rfl, exec]
  exact .goOn rfl (by simp [Call.underWay])

def HasPort (req : TargetCreateRequest) (alloc : SvcIdAllocator) : Prop :=
  req.targetInfo.svcID ≠ "" ∨ alloc.nextID.2 ≠ none

theorem Has.ends_listen (h : Has id req alloc (listenOps req ++ [.syncFromTruth true]) c) :
    Ends id (HasPort req alloc) c := by
  by_cases hFixed : req.targetInfo.svcID = ""
  · rw [listenOps, if_pos hFixed] at h
    obtain ⟨result, hCall, hNqn⟩ := h.call
    refine .of_step ?_
    rw [step_run hCall rfl, exec, h.alloc]
    split
    · rename_i next svcID hNext
      have hPort : HasPort req alloc := .inr (by simp [hNext])
      have hHas : Has id req next [.addListener (req.listenAddress (itoa svcID)) true, .syncFromTruth true]
          ({ c with alloc := next }.goOn id
            (.underWay result [.addListener (req.listenAddress (itoa svcID)) true, .syncFromTruth true])) :=
        ⟨rfl, h.subsys, result, lookup_goOn .., hNqn⟩
      have hEnds := hHas.addListener.ends_sync.of_step
      rwa [eq_true hPort]
    · rename_i next hNext
      exact .goOn rfl (by simp [Call.fail, HasPort, hFixed, hNext])
  · rw [listenOps, if_neg hFixed] at h
    have hPort : HasPort req alloc := .inl hFixed
    rw [eq_true hPort]
    exact h.addListener.ends_sync.of_step

theorem Has.ends_addNS (h : Has id req alloc (Stage.planned (.subsystem : Stage req)).ops c) :
    Ends id (HasPort req alloc) c :=
  h.addNS.ends_listen.of_step

def Listens (c : Service) (nqn : String) : Prop :=
  ∃ subsys, c.subsystems.lookup nqn = some subsys ∧ subsys.listenAddresses ≠ []

theorem listens_iff (hUnused : Unused req before) (h : c.subsystems = stage.subsystems before) :
    c.Listens req.targetInfo.nqn ↔ stage.isTarget = true := by
  rw [Listens, h, stage.lookup_subsystems hUnused]
  cases stage <;> simp [Stage.subsystem?, Stage.isTarget]

theorem has_planned (id : ℕ) (hSubsys : (c.subsystems.lookup req.targetInfo.nqn).isSome) (stage : Stage req) :
    Has id req c.alloc stage.planned.ops (c.goOn id stage.planned) := by
  refine ⟨rfl, hSubsys, ?_⟩
  cases stage <;> exact ⟨_, lookup_goOn .., rfl⟩

theorem ends_planned (hUnused : Unused req before) (h : c.subsystems = stage.subsystems before) :
    Ends id (c.Listens req.targetInfo.nqn ∨ HasPort req c.alloc) (c.goOn id stage.planned) := by
  rw [listens_iff hUnused h]
  have hLookup := stage.lookup_subsystems hUnused
  rw [← h] at hLookup
  cases stage with
  | nothing =>
    refine .of_step ?_
    rw [step_run (lookup_goOn ..) rfl, exec, if_pos ⟨rfl, hLookup⟩]
    simp only [Stage.isTarget, Bool.false_eq_true, false_or]
    refine Has.ends_addNS ⟨rfl, ?_, _, lookup_goOn .., rfl⟩
    simp [Service.goOn, Stage.planned, Call.underWay]
  | subsystem =>
    have hHas := has_planned id (by rw [hLookup]; rfl) (.subsystem : Stage req)
    simpa [Stage.isTarget] using hHas.ends_addNS
  | ns =>
    have hHas := has_planned id (by rw [hLookup]; rfl) (.ns : Stage req)
    simpa [Stage.isTarget] using hHas.ends_listen
  | target address hType =>
    have hHas := has_planned id (by rw [hLookup]; rfl) (.target address hType)
    simpa [Stage.isTarget] using hHas.ends_sync

theorem Retrying.ends (hUnused : Unused req before) (h : Retrying id before stage c)
    (hIdle : c.calls.lookup id = none) :
    Ends id (c.Listens req.targetInfo.nqn ∨ HasPort req c.alloc) (c.step (.createTarget id req)) := by
  have hSame : (c.goOn id (createTarget req)).subsystems = stage.subsystems before := h.subsystems
  rw [step_createTarget hIdle]
  refine .of_step ?_
  rw [step_run (lookup_goOn ..) rfl, exec_getSubsystems hUnused hSame]
  exact ends_planned hUnused hSame

/-- Calls with one request, one after the other. A call that returns without an error leaves one namespace and
one listener, whose port it returns, and no later call changes that. The last part says when a call gets there:
with all its requests served, unless it needs a port and the allocator has none. -/
theorem createTarget_converges (c : Service) (id : ℕ) (req : TargetCreateRequest)
    (hUnused : Unused req c.subsystems) (hIdle : c.calls.lookup id = none) (attempts : List Action)
    (hAttempts : ∀ a ∈ attempts, Retry id req a) :
    (∀ call, (Runs.run step c attempts).Returned id call → ∃ address : ListenAddress,
      (Runs.run step c attempts).subsystems = c.subsystems.insert req.targetInfo.nqn
        { namespaces := [req.bdevName], listenAddresses := [address] } ∧
      call.result.svcID = address.trSvcID ∧
      ∀ further : List Action, (∀ a ∈ further, Retry id req a) →
        (Runs.run step c (attempts ++ further)).subsystems = (Runs.run step c attempts).subsystems ∧
        ∀ later, (Runs.run step c (attempts ++ further)).Returned id later →
          later.result.svcID = call.result.svcID) ∧
    ((Runs.run step c attempts).calls.lookup id = none →
      Ends id ((Runs.run step c attempts).Listens req.targetInfo.nqn ∨
          HasPort req (Runs.run step c attempts).alloc)
        (Runs.run step c (attempts ++ [.createTarget id req]))) := by
  have hStart : Retrying id c.subsystems (.nothing : Stage req) c :=
    ⟨rfl, fun call hCall => by rw [hIdle] at hCall; cases hCall⟩
  obtain ⟨stage, hStage⟩ := hStart.run hUnused hAttempts
  simp only [Runs.run_append]
  refine ⟨fun call hReturned => ?_, fun hNone => hStage.ends hUnused hNone⟩
  obtain ⟨address, hType, rfl, hPort⟩ := hStage.of_returned hReturned
  refine ⟨address, hStage.subsystems, hPort, fun further hFurther => ?_⟩
  have hTarget := hStage.run_target hUnused hFurther
  refine ⟨hTarget.subsystems.trans hStage.subsystems.symm, fun later hLater => ?_⟩
  obtain ⟨same, _, hSame, hLaterPort⟩ := hTarget.of_returned hLater
  cases hSame
  exact hLaterPort.trans hPort.symm

/-- The namespace cannot be added, then the listener, and the third call goes through. -/
def thirdTime : List Action :=
  [.createTarget 0 (targetRequest "nqn-a" "bdev-a"), .run 0 true, .run 0 true, .run 0 false, .run 0 true,
    .createTarget 0 (targetRequest "nqn-a" "bdev-a"), .run 0 true, .run 0 true, .run 0 true, .run 0 false,
    .run 0 true,
    .createTarget 0 (targetRequest "nqn-a" "bdev-a"), .run 0 true, .run 0 true, .run 0 true, .run 0 true]

def made : Call where
  result := { nqn := "nqn-a", svcID := "4511", transType := "TCP" }
  ops := []

theorem thirdTime_converges :
    (Runs.run step (newService ∅) thirdTime).Returned 0 made ∧
      ∃ address, (Runs.run step (newService ∅) thirdTime).subsystems = Finmap.insert "nqn-a"
        { namespaces := ["bdev-a"], listenAddresses := [address] } ∅ ∧ address.trSvcID = "4511" := by
  have hReturned : (Runs.run step (newService ∅) thirdTime).Returned 0 made :=
    ⟨by rfl, rfl, rfl⟩
  have hConverges := createTarget_converges (newService ∅) 0 (targetRequest "nqn-a" "bdev-a")
    ⟨rfl, fun nqn subsys hSubsys => by cases hSubsys⟩ rfl thirdTime
  obtain ⟨address, hSubsystems, hPort, -⟩ := (hConverges (by simp [thirdTime, Retry])).1 made hReturned
  exact ⟨hReturned, address, hSubsystems, hPort.symm⟩

end Service

end Liteio.Spdk
