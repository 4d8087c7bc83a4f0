import Liteio.Library.FiniteMap
import Liteio.Library.Runs
import Liteio.Library.Strconv

/-! # Targets of SPDK and the ports of their listeners

`CreateTarget` and `DeleteTarget` of pkg/spdk, with the allocator of ports they
share. A call runs through its requests one at a time and other calls move in
between. The allocator remembers the ports in use in a set, which it rebuilds
from what SPDK reports after each call; what SPDK does not report yet, or cannot
report, is forgotten then.
-/

namespace Liteio.Spdk

open Strconv

def minSvcID : ℤ := 4510

def maxSvcID : ℤ := 4610

def transportTypeTCP : String := "TCP"

structure ListenAddress where
  trType : String
  adrFam : String
  trAddr : String
  trSvcID : String
  deriving DecidableEq

structure Subsystem where
  listenAddresses : List ListenAddress := []
  namespaces : List String := []
  deriving DecidableEq

abbrev Subsystems := FiniteMap String Subsystem

def Subsystem.ports (subsys : Subsystem) : Multiset String :=
  subsys.listenAddresses.map fun listener => listener.trSvcID

def listenerPorts (list : Subsystems) : Multiset String :=
  (FiniteMap.values list).bind Subsystem.ports

structure SvcIdAllocator where
  cursor : ℤ := minSvcID
  inUse : Finset String := ∅
  minId : ℤ := minSvcID
  maxId : ℤ := maxSvcID

namespace SvcIdAllocator

def advance (a : SvcIdAllocator) (cursor : ℤ) : ℤ :=
  if a.maxId < cursor + 1 then a.minId else cursor + 1

/-- The loop of `NextID`: its last round fails whatever it finds. -/
def search (a : SvcIdAllocator) : ℕ → ℤ → ℤ × Option ℤ
  | 0, cursor => (a.advance cursor, none)
  | rounds + 1, cursor =>
    let cursor := a.advance cursor
    if itoa cursor ∈ a.inUse then a.search rounds cursor else (cursor, some cursor)

/-- `none` says that no port is free. -/
def nextID (a : SvcIdAllocator) : SvcIdAllocator × Option ℤ :=
  if a.inUse = ∅ then ({ a with cursor := a.minId, inUse := {itoa a.minId} }, some a.minId)
  else
    match a.search (a.maxId - a.minId).toNat a.cursor with
    | (cursor, none) => ({ a with cursor := cursor }, none)
    | (cursor, some id) => ({ a with cursor := cursor, inUse := insert (itoa id) a.inUse }, some id)

/-- The set is emptied before the request is made. -/
def syncFromTruth (a : SvcIdAllocator) (list : Option Subsystems) : SvcIdAllocator :=
  { a with inUse := match list with
    | some list => (listenerPorts list).toFinset
    | none => ∅ }

end SvcIdAllocator

structure Target where
  nqn : String
  svcID : String := ""
  transType : String := ""
  transAddr : String := ""
  addrFam : String := ""
  deriving DecidableEq

structure TargetCreateRequest where
  bdevName : String
  targetInfo : Target

def TargetCreateRequest.transType (req : TargetCreateRequest) : String :=
  if req.targetInfo.transType = "" then transportTypeTCP else req.targetInfo.transType

/-- The requests a call still has to make. A listener is added on a port that
was asked for or one that the allocator gave out. -/
inductive Op where
  | getSubsystems (req : TargetCreateRequest)
  | createSubsystem
  | addNS (bdevName : String)
  | nextID (req : TargetCreateRequest)
  | addListener (address : ListenAddress) (allocated : Bool)
  | syncFromTruth (reported : Bool)
  | findSubsystem
  | deleteSubsystem

structure Call where
  result : Target
  err : Option String := none
  ops : List Op

def createTarget (req : TargetCreateRequest) : Call where
  result := req.targetInfo
  ops := [.getSubsystems req]

def deleteTarget (nqn : String) : Call where
  result := { nqn := nqn }
  ops := [.findSubsystem]

def TargetCreateRequest.listenAddress (req : TargetCreateRequest) (svcID : String) : ListenAddress where
  trType := req.transType
  adrFam := req.targetInfo.addrFam
  trAddr := req.targetInfo.transAddr
  trSvcID := svcID

def listenOps (req : TargetCreateRequest) : List Op :=
  if req.targetInfo.svcID = "" then [.nextID req]
  else [.addListener (req.listenAddress req.targetInfo.svcID) false]

def Call.fail (call : Call) (err : String) : Call := { call with err := some err, ops := [] }

/-- What `CreateTarget` does once it has the list of subsystems. -/
def Call.plan (call : Call) (req : TargetCreateRequest) (list : Subsystems) : Call :=
  let nqn := req.targetInfo.nqn
  if list.any fun key subsys => key ≠ nqn && subsys.namespaces.contains req.bdevName then
    call.fail ("bdev " ++ req.bdevName ++ " is used by other subsystem")
  else
    match list.lookup nqn with
    | some subsys =>
      { call with
        result := subsys.listenAddresses.foldl (fun result laddr =>
          if laddr.trType = req.transType then { result with svcID := laddr.trSvcID } else result) call.result
        ops := (if subsys.namespaces = [] then [.addNS req.bdevName] else []) ++
          (if subsys.listenAddresses = [] then listenOps req else []) ++ [.syncFromTruth true] }
    | none =>
      { call with ops := [.createSubsystem, .addNS req.bdevName] ++ listenOps req ++ [.syncFromTruth true] }

structure Service where
  alloc : SvcIdAllocator
  subsystems : Subsystems
  calls : FiniteMap ℕ Call := ∅

namespace Service

def newService (list : Subsystems) : Service where
  alloc := SvcIdAllocator.syncFromTruth {} (some list)
  subsystems := list

inductive Action where
  | createTarget (id : ℕ) (req : TargetCreateRequest)
  | deleteTarget (id : ℕ) (nqn : String)
  | run (id : ℕ) (served : Bool)

def goOn (c : Service) (id : ℕ) (call : Call) : Service := { c with calls := c.calls.insert id call }

def request (c : Service) (served : Bool) (id : ℕ) (call : Call) (ops : List Op) (f : Subsystem → Subsystem) :
    Service :=
  match served, c.subsystems.lookup call.result.nqn with
  | true, some subsys =>
    { c with subsystems := c.subsystems.insert call.result.nqn (f subsys) }.goOn id { call with ops := ops }
  | _, _ => c.goOn id (call.fail "spdk request failed")

def exec (c : Service) (served : Bool) (id : ℕ) (call : Call) (ops : List Op) : Op → Service
  | .getSubsystems req =>
    c.goOn id (if served then call.plan req c.subsystems else call.fail "spdk request failed")
  | .createSubsystem =>
    if served ∧ c.subsystems.lookup call.result.nqn = none then
      { c with subsystems := c.subsystems.insert call.result.nqn {} }.goOn id { call with ops := ops }
    else c.goOn id (call.fail "spdk request failed")
  | .addNS bdevName =>
    c.request served id call ops fun subsys => { subsys with namespaces := subsys.namespaces ++ [bdevName] }
  | .nextID req =>
    match c.alloc.nextID with
    | (alloc, some svcID) =>
      { c with alloc := alloc }.goOn id
        { call with ops := .addListener (req.listenAddress (itoa svcID)) true :: ops }
    | (alloc, none) =>
      { c with alloc := alloc }.goOn id (call.fail ("cannot find available port (svcID) from " ++
        itoa c.alloc.minId ++ " to " ++ itoa c.alloc.maxId))
  | .addListener address _ =>
    c.request served id
      { call with result := { call.result with svcID := address.trSvcID, transType := address.trType } } ops
      fun subsys => { subsys with listenAddresses := subsys.listenAddresses ++ [address] }
  | .syncFromTruth reported =>
    { c with alloc := c.alloc.syncFromTruth (if served then some c.subsystems else none) }.goOn id
      { call with ops := ops, err := if reported ∧ ¬ served then some "spdk request failed" else call.err }
  | .findSubsystem =>
    c.goOn id (if served then
      { call with ops := if (c.subsystems.lookup call.result.nqn).isSome then
        [.deleteSubsystem, .syncFromTruth false] else [] }
      else call.fail "spdk request failed")
  | .deleteSubsystem =>
    -- the set is rebuilt whether the subsystem could be deleted or not
    if served then { c with subsystems := c.subsystems.erase call.result.nqn }.goOn id { call with ops := ops }
    else c.goOn id { call with ops := ops, err := some "spdk request failed" }

def start (c : Service) (id : ℕ) (call : Call) : Service :=
  match c.calls.lookup id with
  | none => c.goOn id call
  | some _ => c

def step (c : Service) : Action → Service
  | .createTarget id req => c.start id (Spdk.createTarget req)
  | .deleteTarget id nqn => c.start id (Spdk.deleteTarget nqn)
  | .run id served =>
    match c.calls.lookup id with
    | some call =>
      match call.ops with
      | op :: ops => c.exec served id call ops op
      | [] => { c with calls := c.calls.erase id }
    | none => c

end Service

end Liteio.Spdk
