import Liteio.State.Store
import Liteio.Library.Shards

/-! # Event handlers

The handlers of pkg/controller/manager/reconciler/handler that feed the state:
`VolumeEventHandler.Create` and the add, update and delete events of
`PVCEventHandler`. A storage class lookup is the function it amounts to at that
moment; it may fail. Adding a claim that is being deleted calls `Reserve` with
a nil reservation, which panics: `none`.
-/

namespace Liteio

namespace Handler

def storageClassProvisioner : String := "antstor.csi.alipay.com"

def storageClassParamPositionAdvice : String := "positionAdvice"

structure StorageClass where
  provisioner : String
  parameters : StringMap := none

abbrev StorageClassLookup := String → Option StorageClass

def mustLocalClass : StorageClassLookup := fun _ =>
  some { provisioner := storageClassProvisioner,
         parameters := some (Finmap.singleton storageClassParamPositionAdvice "MustLocal") }

def metaNamespaceKey (m : ObjectMeta) : String := if m.ns = "" then m.name else m.ns ++ "/" ++ m.name

/-- The selected node, whatever the class says, and whether the claim counts. -/
def isAntstorMustLocalPVCBound (classes : StorageClassLookup) (pvc : PersistentVolumeClaim) :
    String × Bool :=
  match pvc.storageClassName.bind classes with
  | none => ("", false)
  | some sc =>
    let selected := pvc.annotationAt k8sAnnoSelectedNode
    (selected.getD "", selected.isSome &&
      ((FiniteMap.find sc.parameters storageClassParamPositionAdvice).getD "" = "MustLocal") &&
      sc.provisioner = storageClassProvisioner)

def pvcSite (classes : StorageClassLookup) (pvc : PersistentVolumeClaim) : Option String :=
  match isAntstorMustLocalPVCBound classes pvc with
  | (nodeName, true) => some nodeName
  | (_, false) => none

def emptyPool (nodeID : String) : StoragePool := { name := nodeID, spec := { nodeInfo := { id := nodeID } } }

def ensureNode (K : Kube) (s : State) (nodeID : String) : State :=
  match s.nodeMap.lookup nodeID with
  | some _ => s
  | none => s.setStoragePool K (emptyPool nodeID)

def onAdd (K : Kube) (classes : StorageClassLookup) (s : State) (pvc : PersistentVolumeClaim) :
    Option State :=
  match isAntstorMustLocalPVCBound classes pvc with
  | (_, false) => some s
  | (nodeName, true) =>
    (newPvcReservation K pvc).map fun resv =>
      (ensureNode K s nodeName).onNode nodeName fun node => node.reserve resv

/-- `OnUpdate` only logs. -/
def onUpdate (s : State) (_old _new : PersistentVolumeClaim) : State := s

/-- What a delete event carries: the object, or the tombstone an informer makes
of its last known state. -/
inductive DeletedObject where
  | pvc (obj : PersistentVolumeClaim)
  | deletedFinalStateUnknown (obj : PersistentVolumeClaim)

def onDelete (classes : StorageClassLookup) (s : State) : DeletedObject → State
  | .deletedFinalStateUnknown _ => s
  | .pvc obj =>
    let nodeName := (isAntstorMustLocalPVCBound classes obj).1
    if nodeName ≠ "" then s.onNode nodeName fun node => node.unreserve (metaNamespaceKey obj.toObjectMeta)
    else s

def volumeCreate (K : Kube) (s : State) (vol : AntstorVolume) : State :=
  if vol.spec.targetNodeId ≠ "" ∧ vol.deletionTimestamp = none then
    ((ensureNode K s vol.spec.targetNodeId).bindAntstorVolume vol.spec.targetNodeId vol).1
  else s

def placeholder (nodeID : String) : Node := Node.newNode (emptyPool nodeID)

def nodeAt (s : State) (nodeID : String) : Node := (s.nodeMap.lookup nodeID).getD (placeholder nodeID)

theorem newPvcReservation_id {K : Kube} {pvc : PersistentVolumeClaim} {r : Reservation}
    (h : newPvcReservation K pvc = some r) : r.id = pvc.namespacedName := by
  unfold newPvcReservation at h
  split at h
  · cases h
  · cases h
    rfl

theorem newPvcReservation_alive {K : Kube} {pvc : PersistentVolumeClaim} {r : Reservation}
    (h : newPvcReservation K pvc = some r) : pvc.deletionTimestamp = none := by
  unfold newPvcReservation at h
  split at h
  · cases h
  · rename_i hAlive
    simpa using hAlive

theorem newPvcReservation_sizeByte {K : Kube} {pvc : PersistentVolumeClaim} {r : Reservation}
    (h : newPvcReservation K pvc = some r) : r.sizeByte = pvc.requestBytes K := by
  unfold newPvcReservation at h
  split at h
  · cases h
  · cases h
    rfl

theorem ensureNode_lookup (K : Kube) (s : State) (nodeID id : String) :
    (ensureNode K s nodeID).nodeMap.lookup id =
      if id = nodeID then some (nodeAt s nodeID)
      else s.nodeMap.lookup id := by
  unfold ensureNode nodeAt
  cases h : s.nodeMap.lookup nodeID with
  | some node => exact FiniteMap.lookup_eq_ite h id
  | none =>
    dsimp only
    rw [State.setStoragePool_lookup]
    change (if id = nodeID then _ else _) = _
    split
    · change some (match s.nodeMap.lookup nodeID with | some val => _ | none => _) = _
      rw [h]
      rfl
    · rfl

end Handler

end Liteio
