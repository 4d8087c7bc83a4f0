import Liteio.Agent.Passes
import Liteio.Library.Programs
import Liteio.Spdk.Targets

/-! # Exposing a volume over NVMe

`SpdkAccess.ExposeAccess` and `RemoveAccces`, with `CreateTarget` and
`DeleteTarget` behind them, as programs of requests to the SPDK of a node, and the
syncs of a volume on that node. A request that fails leaves the node alone. SPDK
keeps the serial number a subsystem was created with, or its own if none was
given, and accepts a namespace only on a bdev it has.
-/

namespace Liteio.Nvmf

open VolumeSyncer Worker
open Spdk (ListenAddress transportTypeTCP)

structure Namespace where
  bdevName : String
  uuid : String := ""
  deriving DecidableEq

structure Subsystem where
  listenAddresses : List ListenAddress := []
  allowAnyHost : Bool := false
  serialNum : String
  modelNum : String := ""
  namespaces : List Namespace := []
  hosts : List String := []
  deriving DecidableEq

structure Node where
  bdevs : List String := []
  subsystems : FiniteMap String Subsystem := ∅

def spdkController : String := "SPKD_Controller"
def transportTypeVFIOUSER : String := "VFIOUSER"
def defaultSerialNumber : String := "00000000000000000000"

def cfgAllowAnyHost : Bool := false

inductive Rpc where
  | mkdirAll (path : String)
  | removeAll (path : String)
  | bdevAioCreate (bdevName devPath : String)
  | bdevAioDelete (bdevName : String)
  | nvmfGetSubsystems
  | getSubsystemByNQN (nqn : String)
  | nvmfCreateSubsystem (nqn : String) (allowAnyHost : Bool) (serialNumber modelNumber : String)
  | nvmfDeleteSubsystem (nqn : String)
  | nvmfSubsystemAddNS (nqn bdevName uuid : String)
  | nvmfSubsystemAddListener (nqn : String) (address : ListenAddress)
  | nvmfSubsystemAddHost (nqn hostNQN : String)
  | nextID
  | syncFromTruth
  deriving DecidableEq

def Rpc.Reply : Rpc → Type
  | .nvmfGetSubsystems => Option (FiniteMap String Subsystem)
  | .getSubsystemByNQN _ => Option Subsystem
  | .nextID => Option String
  | _ => Bool

structure RpcAnswer where
  fails : Bool := false
  svcID : String := ""

def newSubsystem (allowAnyHost : Bool) (serialNumber modelNumber : String) : Subsystem where
  allowAnyHost := allowAnyHost
  serialNum := if serialNumber = "" then defaultSerialNumber else serialNumber
  modelNum := modelNumber

def Node.put (node : Node) (nqn : String) (subsys : Subsystem) : Node :=
  { node with subsystems := node.subsystems.insert nqn subsys }

def Subsystem.addNS (subsys : Subsystem) (ns : Namespace) : Subsystem :=
  { subsys with namespaces := subsys.namespaces ++ [ns] }

def Subsystem.addListener (subsys : Subsystem) (address : ListenAddress) : Subsystem :=
  { subsys with listenAddresses := subsys.listenAddresses ++ [address] }

def Subsystem.addHost (subsys : Subsystem) (hostNQN : String) : Subsystem :=
  { subsys with hosts := subsys.hosts ++ [hostNQN] }

def Node.request (node : Node) (ans : RpcAnswer) (nqn : String) (f : Subsystem → Subsystem) : Bool × Node :=
  match node.subsystems.lookup nqn with
  | some subsys =>
    if ans.fails then (false, node) else (true, node.put nqn (f subsys))
  | none => (false, node)

def Node.createSubsystem (node : Node) (ans : RpcAnswer) (nqn : String) (subsys : Subsystem) : Bool × Node :=
  if ans.fails ∨ (node.subsystems.lookup nqn).isSome then (false, node) else (true, node.put nqn subsys)

def Node.addNS (node : Node) (ans : RpcAnswer) (nqn : String) (ns : Namespace) : Bool × Node :=
  if ns.bdevName ∈ node.bdevs then node.request ans nqn fun subsys => subsys.addNS ns else (false, node)

def Rpc.perform : (c : Rpc) → RpcAnswer → Node → c.Reply × Node
  | .mkdirAll _, ans, node => (!ans.fails, node)
  | .removeAll _, ans, node => (!ans.fails, node)
  | .bdevAioCreate bdevName _, ans, node =>
    (!ans.fails, if ans.fails then node else { node with bdevs := node.bdevs.insert bdevName })
  | .bdevAioDelete bdevName, ans, node =>
    (!ans.fails, if ans.fails then node else { node with bdevs := node.bdevs.erase bdevName })
  | .nvmfGetSubsystems, ans, node => (if ans.fails then none else some node.subsystems, node)
  | .getSubsystemByNQN nqn, ans, node => (if ans.fails then none else node.subsystems.lookup nqn, node)
  | .nvmfCreateSubsystem nqn allowAnyHost serialNumber modelNumber, ans, node =>
    node.createSubsystem ans nqn (newSubsystem allowAnyHost serialNumber modelNumber)
  | .nvmfDeleteSubsystem nqn, ans, node =>
    (!ans.fails, if ans.fails then node else { node with subsystems := node.subsystems.erase nqn })
  | .nvmfSubsystemAddNS nqn bdevName uuid, ans, node => node.addNS ans nqn ⟨bdevName, uuid⟩
  | .nvmfSubsystemAddListener nqn address, ans, node =>
    node.request ans nqn fun subsys => subsys.addListener address
  | .nvmfSubsystemAddHost nqn hostNQN, ans, node =>
    node.request ans nqn fun subsys => subsys.addHost hostNQN
  | .nextID, ans, node => (if ans.fails then none else some ans.svcID, node)
  | .syncFromTruth, ans, node => (!ans.fails, node)

abbrev Service (β : Type) := Prog Rpc Rpc.Reply Empty β

/-- The transport of a target, TCP unless it names another. -/
def listenType (info : Target) : String :=
  if info.transType = "" then transportTypeTCP else info.transType

def addNS (info : Target) (bdevName : String) : Service PUnit :=
  Prog.attempt (.nvmfSubsystemAddNS info.nqn bdevName info.nsUUID) id

def addListener (info : Target) : Service Target := do
  let svcID ← (if info.svcID = "" then Prog.fetch .nextID id else pure info.svcID : Service String)
  Prog.attempt (.nvmfSubsystemAddListener info.nqn ⟨listenType info, info.addrFam, info.transAddr, svcID⟩) id
  return { info with svcID := svcID, transType := listenType info }

/-- The service ID of the last listener with this transport. -/
def svcIDOf (subsys : Subsystem) (transType svcID : String) : String :=
  subsys.listenAddresses.foldl (fun svcID laddr =>
    if laddr.trType = transType then laddr.trSvcID else svcID) svcID

def bdevInUse (list : FiniteMap String Subsystem) (nqn bdevName : String) : Bool :=
  list.any fun key subsys => key ≠ nqn && subsys.namespaces.any fun ns => ns.bdevName = bdevName

def findListener (subsys : Subsystem) (info : Target) : Service Target :=
  if subsys.listenAddresses = [] then addListener info
  else return { info with svcID := svcIDOf subsys (listenType info) info.svcID }

def makeTarget (found : Option Subsystem) (info : Target) (bdevName : String) : Service Target :=
  match found with
  | some subsys => do
    Prog.when (subsys.namespaces = []) (addNS info bdevName)
    findListener subsys info
  | none => do
    let modelNumber := if info.nsUUID = "" then spdkController else info.nsUUID
    Prog.attempt (.nvmfCreateSubsystem info.nqn cfgAllowAnyHost info.serialNumber modelNumber) id
    addNS info bdevName
    addListener info

def createTarget (bdevName : String) (info : Target) : Service Target := do
  let list ← Prog.fetch .nvmfGetSubsystems id
  if bdevInUse list info.nqn bdevName then .stop
  else do
    let result ← makeTarget (list.lookup info.nqn) info bdevName
    Prog.attempt .syncFromTruth id
    return result

def addHosts (nqn : String) (known : List String) : List String → Service PUnit
  | [] => return ⟨⟩
  | item :: rest => do
    Prog.when (item ∉ known) (Prog.attempt (.nvmfSubsystemAddHost nqn item) id)
    addHosts nqn known rest

def bdevOf (a : Access) : String :=
  match a.lvol with
  | some lvol => lvol.lvsName ++ "/" ++ lvol.lvolName
  | none => (a.aio.map AioVolume.bdevName).getD ""

def createAioBdev : Option AioVolume → Service PUnit
  | some aio => Prog.attempt (.bdevAioCreate aio.bdevName aio.devPath) id
  | none => return ⟨⟩

def exposeAccess (a : Access) : Service Target := do
  createAioBdev a.aio
  Prog.when (a.openAccess.transType = transportTypeVFIOUSER)
    (Prog.attempt (.mkdirAll a.openAccess.transAddr) id)
  let resp ← createTarget (bdevOf a) a.openAccess
  -- Hosts are only added; one that is no longer among those to allow stays.
  let subsys ← Prog.fetch (.getSubsystemByNQN resp.nqn) id
  addHosts resp.nqn subsys.hosts a.allowHostNQN
  return { nqn := resp.nqn, svcID := resp.svcID }

/-- The ports are read again whether the subsystem could be deleted or not. -/
def deleteTarget (nqn : String) : Service PUnit := do
  let list ← Prog.fetch .nvmfGetSubsystems id
  Prog.when (list.lookup nqn).isSome (.call (.nvmfDeleteSubsystem nqn) fun (deleted : Bool) =>
    .call .syncFromTruth fun _ => if deleted then .done ⟨⟩ else .stop)

def deleteAioBdev : Option AioVolume → Service PUnit
  | some aio => Prog.attempt (.bdevAioDelete aio.bdevName) id
  | none => return ⟨⟩

def removeAccess (a : Access) : Service PUnit := do
  Prog.when (a.openAccess.nqn ≠ "") (deleteTarget a.openAccess.nqn)
  Prog.when (a.openAccess.transType = transportTypeVFIOUSER)
    (Prog.attempt (.removeAll a.openAccess.transAddr) id)
  deleteAioBdev a.aio

structure Answers where
  fails : Bool := false
  size : ℕ := 0
  devPath : String := ""
  pool : StoragePool := {}
  snapshot : AntstorSnapshot := {}
  snapList : List AntstorSnapshot := []
  rpc : Rpc → RpcAnswer := fun _ => {}

def Answers.serve (ans : Answers) (c : Rpc) : Node → c.Reply × Node := c.perform (ans.rpc c)

def Node.addLvol (node : Node) (svc : PoolService) (volName : String) : Node :=
  if svc.mode = .spdkLVStore then
    { node with bdevs := node.bdevs.insert (svc.storagePool.spec.spdkLVStore.name ++ "/" ++ volName) }
  else node

def perform (svc : PoolService) : (c : Call) → Answers → Node → Reply c × Node
  | .expandVolume .., ans, node => (!ans.fails, node)
  | .resizeAioBdev .., ans, node => (!ans.fails, node)
  | .getVolume _, ans, node => (if ans.fails then none else some ans.size, node)
  | .createVolume volName .., ans, node =>
    (if ans.fails then none else some ans.devPath, if ans.fails then node else node.addLvol svc volName)
  | .deleteVolume _, ans, node => (!ans.fails, node)
  | .createLvolClone _ _ cloneName, ans, node =>
    (!ans.fails, if ans.fails then node else node.addLvol svc cloneName)
  | .inflateLvol .., ans, node => (!ans.fails, node)
  | .exposeAccess access, ans, node =>
    let out := (exposeAccess access).eval ans.serve node
    (out.1.map Target.svcID, out.2)
  | .removeAccess access, ans, node =>
    let out := (removeAccess access).eval ans.serve node
    (out.1.isSome, out.2)
  | .getStoragePool _, ans, node => (if ans.fails then none else some ans.pool, node)
  | .getSnapshot .., ans, node => (if ans.fails then none else some ans.snapshot, node)
  | .listSnapshots .., ans, node => (if ans.fails then none else some ans.snapList, node)

def agent (svc : PoolService) : Model (Option AntstorVolume) Node Answers Call Reply Write where
  program
    | some vol => syncOneVolume svc vol
    | none => .stop
  perform := perform svc
  writer _ _ := none
  guarded := Write.guarded
  apply := Write.apply

inductive Rpc.Effect (node : Node) : Rpc → Node → Prop
  | idle (c : Rpc) : Effect node c node
  | bdevs (c : Rpc) (bdevs : List String) (hNew : ∀ bdevName ∈ bdevs, bdevName ∈ node.bdevs ∨
      ∃ devPath, c = .bdevAioCreate bdevName devPath) : Effect node c { node with bdevs := bdevs }
  | create (nqn : String) (allowAnyHost : Bool) (serialNumber modelNumber : String)
      (hNew : node.subsystems.lookup nqn = none) :
      Effect node (.nvmfCreateSubsystem nqn allowAnyHost serialNumber modelNumber)
        (node.put nqn (newSubsystem allowAnyHost serialNumber modelNumber))
  | delete (nqn : String) :
      Effect node (.nvmfDeleteSubsystem nqn) { node with subsystems := node.subsystems.erase nqn }
  | addNS (nqn bdevName uuid : String) (subsys : Subsystem) (hFound : node.subsystems.lookup nqn = some subsys)
      (hBdev : bdevName ∈ node.bdevs) :
      Effect node (.nvmfSubsystemAddNS nqn bdevName uuid) (node.put nqn (subsys.addNS ⟨bdevName, uuid⟩))
  | addListener (nqn : String) (address : ListenAddress) (subsys : Subsystem)
      (hFound : node.subsystems.lookup nqn = some subsys) :
      Effect node (.nvmfSubsystemAddListener nqn address) (node.put nqn (subsys.addListener address))
  | addHost (nqn hostNQN : String) (subsys : Subsystem) (hFound : node.subsystems.lookup nqn = some subsys) :
      Effect node (.nvmfSubsystemAddHost nqn hostNQN) (node.put nqn (subsys.addHost hostNQN))

theorem Node.request_cases (node : Node) (ans : RpcAnswer) (nqn : String) (f : Subsystem → Subsystem) :
    node.request ans nqn f = (false, node) ∨ ∃ subsys, node.subsystems.lookup nqn = some subsys ∧
      node.request ans nqn f = (true, node.put nqn (f subsys)) := by
  unfold request
  split
  · rename_i subsys hFound
    split
    · exact .inl rfl
    · exact .inr ⟨subsys, hFound, rfl⟩
  · exact .inl rfl

theorem Node.addNS_cases (node : Node) (ans : RpcAnswer) (nqn : String) (ns : Namespace) :
    node.addNS ans nqn ns = (false, node) ∨ ∃ subsys, node.subsystems.lookup nqn = some subsys ∧
      ns.bdevName ∈ node.bdevs ∧ node.addNS ans nqn ns = (true, node.put nqn (subsys.addNS ns)) := by
  unfold addNS
  split
  · rename_i hBdev
    rcases node.request_cases ans nqn fun subsys => subsys.addNS ns with h | ⟨subsys, hFound, h⟩
    · exact .inl h
    · exact .inr ⟨subsys, hFound, hBdev, h⟩
  · exact .inl rfl

theorem Node.createSubsystem_cases (node : Node) (ans : RpcAnswer) (nqn : String) (subsys : Subsystem) :
    node.createSubsystem ans nqn subsys = (false, node) ∨ node.subsystems.lookup nqn = none ∧
      node.createSubsystem ans nqn subsys = (true, node.put nqn subsys) := by
  unfold createSubsystem
  split
  · exact .inl rfl
  · rename_i hNew
    exact .inr ⟨Option.not_isSome_iff_eq_none.mp fun hSome => hNew (.inr hSome), rfl⟩

theorem Rpc.perform_effect (c : Rpc) (ans : RpcAnswer) (node : Node) :
    Rpc.Effect node c (c.perform ans node).2 := by
  cases c with
  | mkdirAll | removeAll | nvmfGetSubsystems | getSubsystemByNQN | nextID | syncFromTruth => exact .idle _
  | bdevAioCreate bdevName devPath =>
    simp only [perform]
    split
    · exact .idle _
    · refine .bdevs _ _ fun item hItem => ?_
      rcases List.mem_insert_iff.mp hItem with rfl | hOld
      · exact .inr ⟨devPath, rfl⟩
      · exact .inl hOld
  | bdevAioDelete bdevName =>
    simp only [perform]
    split
    · exact .idle _
    · exact .bdevs _ _ fun item hItem => .inl (List.mem_of_mem_erase hItem)
  | nvmfCreateSubsystem nqn allowAnyHost serialNumber modelNumber =>
    simp only [perform]
    rcases node.createSubsystem_cases ans nqn (newSubsystem allowAnyHost serialNumber modelNumber)
      with h | ⟨hNew, h⟩
    · exact h ▸ .idle _
    · exact h ▸ .create nqn allowAnyHost serialNumber modelNumber hNew
  | nvmfDeleteSubsystem nqn =>
    simp only [perform]
    split
    · exact .idle _
    · exact .delete nqn
  | nvmfSubsystemAddNS nqn bdevName uuid =>
    simp only [perform]
    rcases node.addNS_cases ans nqn ⟨bdevName, uuid⟩ with h | ⟨subsys, hFound, hBdev, h⟩
    · exact h ▸ .idle _
    · exact h ▸ .addNS nqn bdevName uuid subsys hFound hBdev
  | nvmfSubsystemAddListener nqn address =>
    simp only [perform]
    rcases node.request_cases ans nqn fun subsys => subsys.addListener address with h | ⟨subsys, hFound, h⟩
    · exact h ▸ .idle _
    · exact h ▸ .addListener nqn address subsys hFound
  | nvmfSubsystemAddHost nqn hostNQN =>
    simp only [perform]
    rcases node.request_cases ans nqn fun subsys => subsys.addHost hostNQN with h | ⟨subsys, hFound, h⟩
    · exact h ▸ .idle _
    · exact h ▸ .addHost nqn hostNQN subsys hFound

def Requests (a : Access) : Rpc → Prop
  | .bdevAioCreate bdevName _ => bdevName ∈ a.aio.map AioVolume.bdevName
  | .nvmfCreateSubsystem nqn _ serialNumber _ =>
    nqn = a.openAccess.nqn ∧ serialNumber = a.openAccess.serialNumber
  | .nvmfSubsystemAddNS nqn bdevName _ => nqn = a.openAccess.nqn ∧ bdevName = bdevOf a
  | .nvmfSubsystemAddListener nqn address => nqn = a.openAccess.nqn ∧
      address.trType = listenType a.openAccess ∧ address.trAddr = a.openAccess.transAddr
  | .nvmfSubsystemAddHost nqn hostNQN => nqn = a.openAccess.nqn ∧ hostNQN ∈ a.allowHostNQN
  | .nvmfDeleteSubsystem _ | .bdevAioDelete _ | .removeAll _ => False
  | _ => True

section

variable {a : Access}

theorem addListener_all :
    (addListener a.openAccess).All (Requests a) (fun _ => True) fun resp => resp.nqn = a.openAccess.nqn := by
  have hPort : (if a.openAccess.svcID = "" then Prog.fetch .nextID id else pure a.openAccess.svcID :
      Service String).All (Requests a) (fun _ => True) fun _ => True := by
    split
    · exact Prog.all_fetch trivial
    · trivial
  exact hPort.bind fun svcID _ => (Prog.all_attempt ⟨rfl, rfl, rfl⟩).bind fun _ _ => rfl

theorem addNS_all : (addNS a.openAccess (bdevOf a)).All (Requests a) (fun _ => True) fun _ => True :=
  Prog.all_attempt ⟨rfl, rfl⟩

theorem makeTarget_all (found : Option Subsystem) :
    (makeTarget found a.openAccess (bdevOf a)).All (Requests a) (fun _ => True)
      fun resp => resp.nqn = a.openAccess.nqn := by
  cases found with
  | some subsys =>
    refine (Prog.all_when fun _ => addNS_all).bind fun _ _ => ?_
    unfold findListener
    split
    · exact addListener_all
    · rfl
  | none => exact (Prog.all_attempt ⟨rfl, rfl⟩).bind fun _ _ => addNS_all.bind fun _ _ => addListener_all

theorem createTarget_all : (createTarget (bdevOf a) a.openAccess).All (Requests a) (fun _ => True)
    fun resp => resp.nqn = a.openAccess.nqn := by
  refine (Prog.all_fetch trivial).bind fun list _ => ?_
  split
  · trivial
  · exact (makeTarget_all _).bind fun resp hResp => (Prog.all_attempt trivial).bind fun _ _ => hResp

theorem addHosts_all (known : List String) {hosts : List String} (h : ∀ item ∈ hosts, item ∈ a.allowHostNQN) :
    (addHosts a.openAccess.nqn known hosts).All (Requests a) (fun _ => True) fun _ => True := by
  induction hosts with
  | nil => trivial
  | cons item rest ih =>
    refine (Prog.all_when fun _ => Prog.all_attempt ⟨rfl, h item List.mem_cons_self⟩).bind fun _ _ => ?_
    exact ih fun other hOther => h other (List.mem_cons_of_mem item hOther)

theorem createAioBdev_all : (createAioBdev a.aio).All (Requests a) (fun _ => True) fun _ => True := by
  cases hAio : a.aio with
  | none => trivial
  | some aio => exact Prog.all_attempt (by simp [Requests, hAio])

theorem exposeAccess_all : (exposeAccess a).All (Requests a) (fun _ => True) fun _ => True := by
  refine createAioBdev_all.bind fun _ _ => (Prog.all_when fun _ => Prog.all_attempt trivial).bind fun _ _ => ?_
  refine createTarget_all.bind fun resp hResp => (Prog.all_fetch trivial).bind fun subsys _ => ?_
  rw [hResp]
  exact (addHosts_all _ fun _ => id).bind fun _ _ => trivial

end

end Liteio.Nvmf
