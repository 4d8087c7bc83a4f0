import Liteio.State.Store

/-! # The cached free space

Every mutator ends by recomputing the cache, except where `AddVolume` returns
`ErrDuplicateVolume`: by then it has removed the reservation of the rejected
volume. Along any run in which a rejected volume has no reservation on the node
the cache is the exact difference of capacity and charges on every node, and a
bind that fails leaves the state as it was exactly when that holds of its volume.
-/

namespace Liteio

open MachineInt

namespace Node

/-- The cached free storage is the capacity minus the reserved logical volumes,
the bound volumes and the open reservations, when their sum is an `int64`. -/
def ReportsFree (n : Node) : Prop :=
  ∀ q, n.pool.status.capacity.lookup resourceDiskPoolByte = some q → InInt64 n.charges →
    n.freeResource.lookup resourceDiskPoolByte = some (q - n.charges)

def Rejects (n : Node) (vol : AntstorVolume) : Prop :=
  ∃ item ∈ n.volumes, item.name = vol.name ∧ item.spec.sizeByte ≠ vol.spec.sizeByte

theorem CacheExact.reportsFree {n : Node} (h : n.CacheExact) : n.ReportsFree := by
  intro q hCapacity hRange
  rw [h, free_lookup hCapacity, int64_of_inInt64 hRange]

theorem dropReservation_of_absent {n : Node} {vol : AntstorVolume}
    (h : getVolumeReservationID vol ≠ "" → n.getReservation (getVolumeReservationID vol) = none) :
    n.dropReservation vol = n := by
  unfold dropReservation
  split
  · rename_i hId
    rw [ReservationSet.unreserve_of_getById_eq_none (h hId)]
  · rfl

theorem dropReservation_eq_self_iff {n : Node} {vol : AntstorVolume} :
    n.dropReservation vol = n ↔
      (getVolumeReservationID vol ≠ "" → n.getReservation (getVolumeReservationID vol) = none) := by
  constructor
  · intro hSame hId
    have hDropped := n.getReservation_dropReservation vol (getVolumeReservationID vol)
    rwa [hSame, if_pos ⟨hId, rfl⟩] at hDropped
  · exact dropReservation_of_absent

theorem addVolume_of_rejects {n : Node} {vol : AntstorVolume} (hNames : n.NamesDistinct)
    (h : n.Rejects vol) : n.addVolume vol = (n.dropReservation vol, true) := by
  obtain ⟨item, hItem, hName, hSize⟩ := h
  rcases n.addVolume_cases vol hNames with
    ⟨hAbsent, _⟩ | ⟨before, old, after, hSplit, hOld, hOldSize, _⟩ | ⟨_, _, _, _, hEq⟩
  · exact absurd hName (hAbsent item hItem)
  · have hMem : old ∈ n.volumes := hSplit ▸ List.mem_append_right before List.mem_cons_self
    have hSame : item = old := List.inj_on_of_nodup_map hNames hItem hMem (hName.trans hOld.symm)
    exact absurd (hSame ▸ hOldSize) hSize
  · exact hEq

theorem addVolume_fails_iff {n : Node} {vol : AntstorVolume} (hNames : n.NamesDistinct) :
    (n.addVolume vol).2 = true ↔ n.Rejects vol := by
  constructor
  · intro hFailed
    rcases n.addVolume_cases vol hNames with
      ⟨_, hEq⟩ | ⟨_, _, _, _, _, _, hEq⟩ | ⟨old, hMem, hOld, hSize, _⟩
    · rw [hEq] at hFailed
      cases hFailed
    · rw [hEq] at hFailed
      cases hFailed
    · exact ⟨old, hMem, hOld, hSize⟩
  · intro hRejects
    rw [addVolume_of_rejects hNames hRejects]

theorem cacheExact_addVolume {n : Node} {vol : AntstorVolume} (hNames : n.NamesDistinct)
    (hCache : n.CacheExact)
    (hKept : n.Rejects vol → getVolumeReservationID vol ≠ "" →
      n.getReservation (getVolumeReservationID vol) = none) : (n.addVolume vol).1.CacheExact := by
  rcases n.addVolume_cases vol hNames with
    ⟨_, hEq⟩ | ⟨_, _, _, _, _, _, hEq⟩ | ⟨old, hMem, hOld, hSize, hEq⟩
  · rw [hEq]
    exact cacheExact_refresh _
  · rw [hEq]
    exact cacheExact_refresh _
  · rw [hEq, dropReservation_of_absent (hKept ⟨old, hMem, hOld, hSize⟩)]
    exact hCache

theorem cacheExact_removeVolumeByID {n : Node} (volID : String) (h : n.CacheExact) :
    (n.removeVolumeByID volID).CacheExact := by
  unfold removeVolumeByID
  split
  · exact cacheExact_refresh _
  · exact h

theorem cacheExact_reserve {n : Node} (r : Reservation) (h : n.CacheExact) :
    (n.reserve r).CacheExact := by
  unfold reserve
  split
  · exact h
  · split
    · exact h
    · exact cacheExact_refresh _

end Node

namespace State

/-- A bind that a node rejects brings a volume without a reservation there. -/
def RejectionKeepsReservations (s : State) : Action → Prop
  | .bindAntstorVolume nodeID vol =>
    ∀ node ∈ s.nodeMap.lookup nodeID, vol.spec.uuid ≠ "" → node.Rejects vol →
      getVolumeReservationID vol ≠ "" → node.getReservation (getVolumeReservationID vol) = none
  | _ => True

def CachesExact (s : State) : Prop := s.AllNodes fun n => n.NamesDistinct ∧ n.CacheExact

theorem cachesExact_step (K : Kube) (s : State) (a : Action) (h : s.CachesExact)
    (hKeeps : s.RejectionKeepsReservations a) : (s.step K a).CachesExact := by
  apply allNodes_step h
  · intro pool
    exact ⟨List.nodup_nil, Node.cacheExact_refresh _⟩
  · intro node pool hNode
    exact ⟨hNode.1, Node.cacheExact_refresh _⟩
  · rintro nodeID vol node rfl hNode hUuid ⟨hNames, hCache⟩
    exact ⟨Node.namesDistinct_addVolume vol hNames,
      Node.cacheExact_addVolume hNames hCache (hKeeps node hNode hUuid)⟩
  · rintro node volID ⟨hNames, hCache⟩
    exact ⟨Node.namesDistinct_removeVolumeByID volID hNames,
      Node.cacheExact_removeVolumeByID volID hCache⟩
  · rintro _ r node _ _ ⟨hNames, hCache⟩
    refine ⟨?_, Node.cacheExact_reserve r hCache⟩
    rw [Node.NamesDistinct, Node.reserve_volumes]
    exact hNames
  · intro node id hNode
    exact ⟨hNode.1, Node.cacheExact_refresh _⟩

theorem run_reportsFree (K : Kube) (actions : List Action)
    (h : Runs.Guarded (step K) RejectionKeepsReservations newState actions) :
    Runs.Always (step K) (AllNodes Node.ReportsFree) newState actions := by
  have hExact : Runs.Always (step K) CachesExact newState actions :=
    h.always (allNodes_newState _) (cachesExact_step K)
  refine hExact.mono ?_
  intro s hs id node hNode
  exact (hs id node hNode).2.reportsFree

/-- A pool of 100 bytes, a reservation and a volume of 10 bytes each on it, and
a second bind under the volume's name with another size. -/
def resizedBind (annotations : StringMap) : List Action :=
  let pool : StoragePool :=
    { name := "n", spec := { nodeInfo := { id := "n" } },
      status := { capacity := Finmap.singleton resourceDiskPoolByte 100 } }
  let vol (size : ℕ) (annotations : StringMap) : AntstorVolume :=
    { name := "v", annotations := annotations, spec := { uuid := "u", sizeByte := size } }
  [.setStoragePool pool, .reserve "n" (newReservation "r" 10), .bindAntstorVolume "n" (vol 10 none),
    .bindAntstorVolume "n" (vol 20 annotations)]

theorem resizedBind_reportsFree :
    Runs.Always (step Kube.exact) (AllNodes Node.ReportsFree) newState (resizedBind none) := by
  apply run_reportsFree
  refine ⟨trivial, trivial, ?_, ?_, trivial⟩
  · intro node _ _ _ hId
    exact absurd rfl hId
  · intro node _ _ _ hId
    exact absurd rfl hId

/-- The rejected volume names the reservation: it is gone, and the cache still
subtracts it. -/
theorem resizedBind_not_reportsFree :
    ¬ (run Kube.exact (resizedBind (some (Finmap.singleton reservationIDKey "r")))).AllNodes
      Node.ReportsFree := by
  intro h
  have hFinal : ((run Kube.exact (resizedBind
      (some (Finmap.singleton reservationIDKey "r")))).nodeMap.lookup "n").map (fun node =>
        (node.pool.status.capacity.lookup resourceDiskPoolByte, node.charges,
          node.freeResource.lookup resourceDiskPoolByte)) = some (some 100, 10, some 80) := by
    decide +kernel
  obtain ⟨node, hLookup, hValues⟩ := Option.map_eq_some_iff.mp hFinal
  simp only [Prod.mk.injEq] at hValues
  obtain ⟨hCapacity, hCharges, hFree⟩ := hValues
  have hReport := h "n" node hLookup 100 hCapacity (by rw [hCharges]; decide)
  rw [hFree, hCharges] at hReport
  norm_num at hReport

theorem setNode_eq_self_iff {s : State} {nodeID : String} {node node' : Node}
    (h : s.nodeMap.lookup nodeID = some node) : s.setNode nodeID node' = s ↔ node' = node := by
  constructor
  · intro hSame
    have hLookup : (s.setNode nodeID node').nodeMap.lookup nodeID = some node' :=
      Finmap.lookup_insert s.nodeMap
    rw [hSame, h] at hLookup
    exact (Option.some.inj hLookup).symm
  · rintro rfl
    rw [setNode, FiniteMap.insert_lookup h]

theorem bind_failure_keeps_iff_of_distinct {s : State} (hNames : s.AllNodes Node.NamesDistinct)
    (nodeID : String) (vol : AntstorVolume) :
    ((s.bindAntstorVolume nodeID vol).2.isSome → (s.bindAntstorVolume nodeID vol).1 = s) ↔
      s.RejectionKeepsReservations (.bindAntstorVolume nodeID vol) := by
  rw [RejectionKeepsReservations]
  cases hNode : s.nodeMap.lookup nodeID with
  | none => simp [bindAntstorVolume, hNode]
  | some node =>
    by_cases hUuid : vol.spec.uuid = ""
    · simp [bindAntstorVolume, hNode, hUuid]
    · have hDistinct := hNames nodeID node hNode
      rw [bindAntstorVolume_eq hNode hUuid]
      by_cases hRejects : node.Rejects vol
      · rw [Node.addVolume_of_rejects hDistinct hRejects]
        simp only [if_true, Option.isSome_some, forall_const, setNode_eq_self_iff hNode,
          Node.dropReservation_eq_self_iff]
        simp [hUuid, hRejects]
      · rw [if_neg (mt (Node.addVolume_fails_iff hDistinct).mp hRejects)]
        simp [hRejects]

theorem bind_failure_keeps_iff (K : Kube) (actions : List Action) (nodeID : String) (vol : AntstorVolume) :
    (((run K actions).bindAntstorVolume nodeID vol).2.isSome →
        ((run K actions).bindAntstorVolume nodeID vol).1 = run K actions) ↔
      (run K actions).RejectionKeepsReservations (.bindAntstorVolume nodeID vol) := by
  apply bind_failure_keeps_iff_of_distinct
  exact Runs.run_induction (allNodes_newState _) fun s a => namesDistinct_step K s a

/-- The fourth call fails and takes the reservation along. -/
theorem resizedBind_failure_changes :
    let s := run Kube.exact ((resizedBind none).take 3)
    let vol : AntstorVolume :=
      { name := "v", annotations := some (Finmap.singleton reservationIDKey "r")
        spec := { uuid := "u", sizeByte := 20 } }
    (s.bindAntstorVolume "n" vol).2 = some .duplicateVolume ∧ (s.bindAntstorVolume "n" vol).1 ≠ s := by
  constructor
  · decide +kernel
  · decide +kernel

end State

end Liteio
