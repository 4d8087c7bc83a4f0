import Liteio.Library.Strings
import Liteio.State.Ledger

/-! # Scheduler filters

The predicate functions of pkg/controller/manager/scheduler/filter and of
cmd/controller/antplugins, and the chain that runs them. A filter returns the
node as it leaves it, because `BasicFilterFunc` settles the reservation set
when it reads the free resources, next to its verdict. `none` is the panic of a
nil host node being dereferenced.
-/

namespace Liteio

open MachineInt

structure NodeReservation where
  id : String
  size : ℤ
  deriving DecidableEq

structure SchedulerConfig where
  maxRemoteVolumeCount : ℤ := 0
  remoteIgnoreAnnoSelector : StringMap := none
  filters : List String := []
  priorities : List String := []
  minLocalStoragePct : ℤ := 0
  nodeReservations : List NodeReservation := []

def SchedulerConfig.setDefaults (cfg : SchedulerConfig) : SchedulerConfig :=
  { cfg with
    maxRemoteVolumeCount := if cfg.maxRemoteVolumeCount ≤ 0 then 3 else cfg.maxRemoteVolumeCount
    filters := if cfg.filters = [] then ["Basic", "Affinity"] else cfg.filters
    priorities := if cfg.priorities = [] then ["LeastResource", "PositionAdvice"] else cfg.priorities }

def basicAndAffinity : SchedulerConfig := SchedulerConfig.setDefaults {}

namespace FilterChain

def reasonPoolFreeSize : String := "PoolFreeSize"
def reasonSpdkUnhealthy : String := "SpdkUnhealthy"
def reasonRemoteVolMaxCount : String := "RemoteVolMaxCount"
def reasonPositionNotMatch : String := "PositionNotMatch"
def reasonVolTypeNotMatch : String := "VolTypeNotMatch"
def reasonDataConflict : String := "DataConflict"
def reasonNodeAffinity : String := "NodeAffinity"
def reasonPoolAffinity : String := "PoolAffinity"
def reasonPoolUnschedulable : String := "PoolUnschedulable"
def reasonReservationSize : String := "ReservationTooSmall"
def reasonReserveNotMatch : String := "ReservationNotMatch"
def reasonLocalStorageTooLow : String := "LocalStorageTooLow"

/-- A rejection carries the reason added to the merged error, if one is. -/
inductive Verdict where
  | pass
  | reject (reason : Option String)
  deriving DecidableEq

/-- The first check that fails gives the reason. -/
def Verdict.ofChecks : List (Bool × String) → Verdict
  | [] => .pass
  | (fails, reason) :: checks => if fails then .reject (some reason) else ofChecks checks

structure MergedError where
  reasons : FiniteMap String ℕ := ∅
  deriving DecidableEq

def MergedError.addReason (e : MergedError) (reason : String) : MergedError where
  reasons := match e.reasons.lookup reason with
    | some cnt => e.reasons.insert reason (cnt + 1)
    | none => e.reasons.insert reason 1

def MergedError.addVerdict (e : MergedError) : Verdict → MergedError
  | .reject (some reason) => e.addReason reason
  | _ => e

abbrev PredicateFunc := SchedulerConfig → AntstorVolume → Node → Option (Node × Verdict)

/-- `none` means that the volume names no reservation, so that the other checks
decide. -/
def matchReservationFilter (vol : AntstorVolume) (n : Node) : Option Verdict :=
  match vol.annotationAt reservationIDKey with
  | none => none
  | some resvId =>
    if storage n.freeResource < 0 then some (.reject (some reasonPoolFreeSize))
    else
      match n.getReservation resvId with
      | some r =>
        if r.sizeByte < int64 vol.spec.sizeByte then some (.reject (some reasonReservationSize))
        else some .pass
      | none => some (.reject (some reasonReserveNotMatch))

def tgtConditionOk (pool : StoragePool) : Bool :=
  pool.status.conditions.foldl
    (fun ok item => if item.type = .spdk then item.status = .ok else ok) false

/-- The checks of `BasicFilterFunc` that follow the free-space check. -/
def placementChecks (cfg : SchedulerConfig) (vol : AntstorVolume) (n : Node) (host : NodeInfo) :
    List (Bool × String) :=
  let isLocalVol := n.pool.spec.nodeInfo.id = host.id
  [(!isLocalVol && decide (cfg.maxRemoteVolumeCount ≤ n.remoteVolumesCount cfg.remoteIgnoreAnnoSelector),
      reasonRemoteVolMaxCount),
    (!isLocalVol && !tgtConditionOk n.pool, reasonSpdkUnhealthy),
    (vol.spec.positionAdvice = .mustLocal && !isLocalVol, reasonPositionNotMatch),
    (vol.spec.positionAdvice = .mustRemote && isLocalVol, reasonPositionNotMatch),
    (vol.spec.type = .spdkLVol && n.pool.spec.spdkLVStore.uuid = "", reasonVolTypeNotMatch),
    (vol.spec.type = .kernelLVol && n.pool.spec.kernelLVM.vgUUID = "", reasonVolTypeNotMatch)]

def basicFilterFunc : PredicateFunc := fun cfg vol n =>
  if !n.pool.isSchedulable then some (n, .reject (some reasonPoolUnschedulable))
  else
    match matchReservationFilter vol n with
    | some verdict => some (n, verdict)
    | none =>
      match n.getFreeResourceNonLock with
      | (freeRes, n) =>
        if storage freeRes < int64 vol.spec.sizeByte then some (n, .reject (some reasonPoolFreeSize))
        else if !tgtConditionOk n.pool && n.pool.spec.spdkLVStore.name ≠ "" then
          some (n, .reject (some reasonSpdkUnhealthy))
        else vol.spec.hostNode.map fun host => (n, .ofChecks (placementChecks cfg vol n host))

def convertNodeInfo (nodeInfo : NodeInfo) : KubeNode := { name := nodeInfo.id, labels := nodeInfo.labels }

def convertPoolLabels (labels : StringMap) : KubeNode := { labels := labels }

/-- The affinity is absent, or its required terms match without an error. -/
def matchesAffinity (K : Kube) (affinity : Option NodeAffinity) (node : KubeNode) : Bool :=
  match affinity.bind NodeAffinity.requiredDuringSchedulingIgnoredDuringExecution with
  | some selector => K.matchNodeSelectorTerms node selector = some true
  | none => true

def matchesSelector (K : Kube) (selector : Option String) (labels : StringMap) : Bool :=
  match selector.bind K.parseLabelSelector with
  | some matched => matched labels
  | none => true

def affinityFilterFunc (K : Kube) : PredicateFunc := fun _ vol n =>
  some (n, .ofChecks
    [(!matchesAffinity K vol.spec.nodeAffinity (convertNodeInfo n.info), reasonNodeAffinity),
      (!matchesSelector K (vol.annotationAt nodeLabelSelectorKey) n.info.labels, reasonNodeAffinity),
      (!matchesAffinity K vol.spec.poolAffinity (convertPoolLabels n.pool.labels), reasonPoolAffinity),
      (!matchesSelector K (vol.annotationAt poolLabelSelectorKey) n.pool.labels, reasonPoolAffinity)])

/-- The comparison `localPct < minLocalStoragePct`, where a division by zero
gives an infinity or, for zero over zero, the incomparable NaN. -/
def localPctTooLow (K : Kube) (total left minLocalStoragePct : ℤ) : Bool :=
  if total = 0 then left < 0
  else K.roundFloat64 (K.roundFloat64 (K.roundFloat64 left / K.roundFloat64 total) * 100) <
    K.roundFloat64 minLocalStoragePct

def minLocalStorageFilterFunc (K : Kube) : PredicateFunc := fun cfg vol n =>
  vol.spec.hostNode.map fun host =>
    let isLocalVol := host.id = n.pool.spec.nodeInfo.id
    let total := n.pool.getAvailableBytes K
    let left := int64 (int64 (total - int64 n.getAllocatedRemoteBytes) - int64 vol.spec.sizeByte)
    (n, .ofChecks [(!isLocalVol && localPctTooLow K total left cfg.minLocalStoragePct,
      reasonLocalStorageTooLow)])

def parseObHolder (dataHolder : String) : Option (String × String) :=
  match Strings.splitN '.' 3 dataHolder.toList with
  | [_, cluster, zone] => some (String.ofList cluster, String.ofList zone)
  | _ => none

def isReplicaDataConflict (volDataHolder : String) : List AntstorVolume → Bool
  | [] => false
  | item :: nodeVols =>
    if volDataHolder = "" then false
    else
      match item.label volumeDataHolderKey with
      | none => isReplicaDataConflict volDataHolder nodeVols
      | some val =>
        match parseObHolder val, parseObHolder volDataHolder with
        | some (cluster, zone), some (volCluster, volZone) =>
          if cluster = volCluster ∧ zone ≠ volZone then true
          else isReplicaDataConflict volDataHolder nodeVols
        | _, _ => false

def obReplicaFilterFunc : PredicateFunc := fun _ vol n =>
  some (n, .ofChecks [(isReplicaDataConflict ((vol.label volumeDataHolderKey).getD "") n.volumes,
    reasonDataConflict)])

def getFilterByName (K : Kube) (name : String) : Option PredicateFunc :=
  if name = "Basic" then some basicFilterFunc
  else if name = "Affinity" then some (affinityFilterFunc K)
  else if name = "MinLocalStorage" then some (minLocalStorageFilterFunc K)
  else if name = "ObReplica" then some obReplicaFilterFunc
  else none

/-- The filters of the configuration; a name nobody registered is skipped. -/
def loadFilterFromConfig (K : Kube) (cfg : SchedulerConfig) : List PredicateFunc :=
  cfg.filters.filterMap (getFilterByName K)

def passAllFilters (cfg : SchedulerConfig) (vol : AntstorVolume) :
    List PredicateFunc → Node → Option (Node × Verdict)
  | [], n => some (n, .pass)
  | filterFunc :: filters, n =>
    match filterFunc cfg vol n with
    | none => none
    | some (n', .reject reason) => some (n', .reject reason)
    | some (n', .pass) => passAllFilters cfg vol filters n'

def matchEach (cfg : SchedulerConfig) (vol : AntstorVolume) (filters : List PredicateFunc)
    (nodes : List Node) : Option (List (Node × Verdict)) :=
  nodes.mapM (passAllFilters cfg vol filters)

def candidates (results : List (Node × Verdict)) : List Node :=
  (results.filter fun result => result.2 = .pass).map Prod.fst

def mergedError (results : List (Node × Verdict)) : MergedError :=
  results.foldl (fun e result => e.addVerdict result.2) {}

def matchAll (results : List (Node × Verdict)) : Except MergedError (List Node) :=
  match candidates results with
  | [] => .error (mergedError results)
  | nodes => .ok nodes

end FilterChain

end Liteio
