import Liteio.Handler.Events
import Liteio.Scheduler.Choice

/-! # The phases of the scheduler plugin

PreFilter, Filter, Reserve, PreBind and Unreserve of
pkg/controller/manager/scheduler/plugin. The cycle data are passed from phase to
phase. Claims live on the API server and are addressed by namespace and name
joined by a slash, which neither contains. `none` is a panic: a claim without a
class name in PreFilter, and a claim that is being deleted in Reserve.
-/

namespace Liteio.Plugin

open MachineInt Strconv FilterChain Handler

def noFitStoragePool : String := "NoFitStoragePool"

def nodeLabelKeyHostName : String := "kubernetes.io/hostname"

structure ClaimStore where
  claims : FiniteMap String PersistentVolumeClaim
  keyed : ∀ key pvc, claims.lookup key = some pvc → pvc.namespacedName = key

structure Pod where
  ns : String
  claimNames : List String

structure CycleData where
  mustLocalAntstorPVCs : List PersistentVolumeClaim := []
  otherAntstorPVCs : List PersistentVolumeClaim := []
  skipAntstorPlugin : Bool := false
  reservations : List Reservation := []

inductive Status where
  | success
  | unschedulable (reason : String)
  | error (err : StateError)
  deriving DecidableEq

inductive PreFilterError where
  | claim (name : String)
  | storageClass (name : String)
  deriving DecidableEq

def isAntstorStorageClass (sc : StorageClass) : Bool := sc.provisioner = storageClassProvisioner

def isMustLocalStorageClass (sc : StorageClass) : Bool :=
  sc.provisioner = storageClassProvisioner &&
    (FiniteMap.find sc.parameters storageClassParamPositionAdvice).getD "" = "MustLocal"

def readClaims (classes : StorageClassLookup) (store : ClaimStore) (ns : String) :
    List String → Option (Except PreFilterError (List (PersistentVolumeClaim × StorageClass)))
  | [] => some (.ok [])
  | name :: names =>
    match store.claims.lookup (ns ++ "/" ++ name) with
    | none => some (.error (.claim name))
    | some pvc =>
      match pvc.storageClassName with
      | none => none
      | some scName =>
        match classes scName with
        | none => some (.error (.storageClass scName))
        | some sc => (readClaims classes store ns names).map fun rest => rest.map ((pvc, sc) :: ·)

def cycleData (claims : List (PersistentVolumeClaim × StorageClass)) : CycleData :=
  let antstor := claims.filter fun claim => isAntstorStorageClass claim.2
  let mustLocal := (antstor.filter fun claim => isMustLocalStorageClass claim.2).map Prod.fst
  let other := (antstor.filter fun claim => !isMustLocalStorageClass claim.2).map Prod.fst
  { mustLocalAntstorPVCs := mustLocal
    otherAntstorPVCs := other
    skipAntstorPlugin := mustLocal.isEmpty && other.isEmpty }

def preFilter (classes : StorageClassLookup) (store : ClaimStore) (pod : Pod) :
    Option (Except PreFilterError CycleData) :=
  (readClaims classes store pod.ns pod.claimNames).map fun claims => claims.map cycleData

def isPVCFullyBound (pvc : PersistentVolumeClaim) : String × Bool :=
  let selected := pvc.annotationAt k8sAnnoSelectedNode
  (selected.getD "", selected.isSome && pvc.bound)

/-- The annotations of the claims, of which the last one wins. -/
def mergedAnnotationAts (pvcs : List PersistentVolumeClaim) : FiniteMap String String :=
  pvcs.foldl (fun annos pvc =>
    (pvc.annotations.getD ∅).filterKeys (fun key => "obnvmf/".toList.isPrefixOf key.toList) ∪ annos) ∅

def snapshotReservedSize (pvcs : List PersistentVolumeClaim) : ℤ :=
  pvcs.foldl (fun sum pvc =>
    match (pvc.annotationAt snapshotReservedSpaceAnnotationKey).map atoi with
    | some (size, none) => addInt64 sum size
    | _ => sum) 0

def virtualMustLocalVol (K : Kube) (pvcs : List PersistentVolumeClaim) (node : KubeNode) : AntstorVolume where
  annotations := some <|
    if 0 < snapshotReservedSize pvcs then
      (mergedAnnotationAts pvcs).insert snapshotReservedSpaceAnnotationKey (toString (snapshotReservedSize pvcs))
    else mergedAnnotationAts pvcs
  spec := {
    sizeByte := pvcs.foldl (fun size pvc => uint64 (size + uint64 (pvc.requestBytes K))) 0
    hostNode := some
      { id := node.name
        labels := node.labels
        hostname := (FiniteMap.find node.labels nodeLabelKeyHostName).getD ""
        ip := (FiniteMap.find node.labels nodeLabelKeyHostName).getD "" } }

/-- The filters leave the node of the state settled. -/
def filter (K : Kube) (cfg : SchedulerConfig) (s : State) (data : CycleData) (node : KubeNode) :
    Option (State × Status) :=
  if data.skipAntstorPlugin then some (s, .success)
  else
    match s.nodeMap.lookup node.name with
    | none => some (s, .unschedulable noFitStoragePool)
    | some stateNode =>
      if data.mustLocalAntstorPVCs.any fun pvc =>
          (isPVCFullyBound pvc).2 && node.name ≠ (isPVCFullyBound pvc).1 then
        some (s, .unschedulable noFitStoragePool)
      else
        (passAllFilters cfg (virtualMustLocalVol K data.mustLocalAntstorPVCs node)
          (loadFilterFromConfig K cfg) stateNode).map fun out =>
            (s.setNode node.name out.1,
              if out.2 = .pass then .success else .unschedulable noFitStoragePool)

def reserve (K : Kube) (s : State) (data : CycleData) (nodeName : String) :
    Option (State × CycleData × Status) :=
  if data.skipAntstorPlugin then some (s, data, .success)
  else
    match s.nodeMap.lookup nodeName with
    | none => some (s, data, .error (.notFoundNode nodeName))
    | some _ =>
      (data.mustLocalAntstorPVCs.mapM (newPvcReservation K)).map fun resvs =>
        (s.onNode nodeName fun node => resvs.foldl Node.reserve node,
          { data with reservations := data.reservations ++ resvs }, .success)

def bindClaim (nodeName resvID : String) (pvc : PersistentVolumeClaim) : PersistentVolumeClaim :=
  let annotations := (pvc.annotations.getD ∅).insert selectedTgtNodeKey nodeName
  { pvc with annotations := some (annotations.insert reservationIDKey resvID) }

def ClaimStore.patch (store : ClaimStore) (nodeName : String) (resv : Reservation) : ClaimStore where
  claims := match store.claims.lookup resv.namespacedName with
    | some pvc => store.claims.insert resv.namespacedName (bindClaim nodeName resv.id pvc)
    | none => store.claims
  keyed key pvc h := by
    split at h
    · rename_i old hOld
      rw [FiniteMap.lookup_insert_eq] at h
      split at h
      · rename_i hKey
        cases h
        exact (store.keyed _ old hOld).trans hKey.symm
      · exact store.keyed key pvc h
    · exact store.keyed key pvc h

def preBind (patches : ℕ) (store : ClaimStore) (data : CycleData) (nodeName : String) : ClaimStore :=
  if data.skipAntstorPlugin then store
  else (data.reservations.take patches).foldl (fun store resv => store.patch nodeName resv) store

def unreserve (s : State) (data : CycleData) (nodeName : String) : State :=
  if data.skipAntstorPlugin then s
  else s.onNode nodeName fun node => data.reservations.foldl (fun node item => node.unreserve item.id) node

def failedCycle (K : Kube) (patches : ℕ) (s : State) (store : ClaimStore) (data : CycleData)
    (nodeName : String) : Option (State × ClaimStore) :=
  (reserve K s data nodeName).map fun out =>
    (unreserve out.1 out.2.1 nodeName, preBind patches store out.2.1 nodeName)

def verdict (K : Kube) (classes : StorageClassLookup) (cfg : SchedulerConfig) (s : State)
    (store : ClaimStore) (pod : Pod) (node : KubeNode) : Option (Except PreFilterError Status) :=
  match preFilter classes store pod with
  | none => none
  | some (.error err) => some (.error err)
  | some (.ok data) => (filter K cfg s data node).map fun out => .ok out.2

end Liteio.Plugin
