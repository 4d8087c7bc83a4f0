import Liteio.Handler.NodeOrders

/-! # Restart in any order

After a restart the pools, the volumes and the claims are delivered to a fresh
state in any order. All orders leave the same pools, volumes and caches behind,
and the same reservations exactly when every claim without a volume is added at
a moment when the cached free storage of its node covers it; before the pool is
known that storage is zero.
-/

namespace Liteio

open MachineInt

namespace Handler

def SameNodes (s t : State) : Prop := ∀ id, Option.Rel SameNode (s.nodeMap.lookup id) (t.nodeMap.lookup id)

section

variable (K : Kube) (classes : StorageClassLookup)

def volumeSite (vol : AntstorVolume) : Option String :=
  if vol.spec.targetNodeId ≠ "" ∧ vol.deletionTimestamp = none then some vol.spec.targetNodeId else none

def site : Event → Option String
  | .pool obj => some obj.spec.nodeInfo.id
  | .volume obj => volumeSite obj
  | .pvc obj => pvcSite classes obj

/-- `none` is the panic of a handler. -/
def deliver (s : State) : Event → Option State
  | .pool obj => some (s.setStoragePool K obj)
  | .volume obj => some (volumeCreate K s obj)
  | .pvc obj => onAdd K classes s obj

def restart (events : List Event) : Option State := events.foldlM (deliver K classes) State.newState

def delivered (s : State) : Event → State
  | .pool obj => s.setStoragePool K obj
  | .volume obj => volumeCreate K s obj
  | .pvc obj =>
    match pvcSite classes obj with
    | some nodeName => (ensureNode K s nodeName).onNode nodeName fun node => nodeStep K node (.pvc obj)
    | none => s

def volumesAt (nodeID : String) (vols : List AntstorVolume) : List AntstorVolume :=
  vols.filter fun vol => volumeSite vol = some nodeID ∧ vol.spec.uuid ≠ ""

def pvcsAt (nodeID : String) (pvcs : List PersistentVolumeClaim) : List PersistentVolumeClaim :=
  pvcs.filter fun pvc => pvcSite classes pvc = some nodeID

/-- A claim without a volume on its node is added when the cached free storage
of the node covers it. -/
def FitsOnNode (vols : List AntstorVolume) (s : State) (e : Event) : Prop :=
  ∀ nodeID ∈ site classes e, Fits K (volumesAt nodeID vols) (nodeAt s nodeID) e

instance (vols : List AntstorVolume) (s : State) (e : Event) : Decidable (FitsOnNode K classes vols s e) :=
  inferInstanceAs (Decidable (∀ nodeID ∈ site classes e, _))

def inOrder (pools : List StoragePool) (vols : List AntstorVolume) (pvcs : List PersistentVolumeClaim) :
    List Event :=
  pools.map Event.pool ++ vols.map Event.volume ++ pvcs.map Event.pvc

end

section

variable {K : Kube} {classes : StorageClassLookup}

theorem deliver_eq {s : State} {e : Event}
    (h : ∀ pvc, e = .pvc pvc → ∃ r, newPvcReservation K pvc = some r) :
    deliver K classes s e = some (delivered K classes s e) := by
  cases e with
  | pool obj => rfl
  | volume obj => rfl
  | pvc obj =>
    obtain ⟨r, hNew⟩ := h obj rfl
    rw [deliver, onAdd, delivered, pvcSite]
    rcases isAntstorMustLocalPVCBound classes obj with ⟨nodeName, bound⟩
    cases bound with
    | false => rfl
    | true =>
      dsimp only
      rw [hNew, Option.map_some]
      simp only [nodeStep, hNew]

theorem restart_eq {events : List Event}
    (h : ∀ pvc, .pvc pvc ∈ events → ∃ r, newPvcReservation K pvc = some r) :
    restart K classes events = some (Runs.run (delivered K classes) State.newState events) := by
  have hFold : ∀ s : State, events.foldlM (deliver K classes) s =
      some (Runs.run (delivered K classes) s events) := by
    induction events with
    | nil => exact fun s => rfl
    | cons e events ih =>
      intro s
      rw [List.foldlM_cons, deliver_eq fun pvc hPvc => h pvc (by simp [hPvc]), Option.bind_eq_bind,
        Option.bind_some, ih fun pvc hPvc => h pvc (List.mem_cons_of_mem _ hPvc)]
      rfl
  exact hFold State.newState

theorem pool_lookup (s : State) (obj : StoragePool) (id : String) :
    (s.setStoragePool K obj).nodeMap.lookup id = if id = obj.spec.nodeInfo.id then
      some (nodeStep K (nodeAt s obj.spec.nodeInfo.id) (.pool obj)) else s.nodeMap.lookup id := by
  rw [State.setStoragePool_lookup, nodeAt]
  cases s.nodeMap.lookup obj.spec.nodeInfo.id with
  | some node => rfl
  | none => rfl

theorem volume_lookup (s : State) (obj : AntstorVolume) (id : String) :
    (volumeCreate K s obj).nodeMap.lookup id = if volumeSite obj = some id then
      some (nodeStep K (nodeAt s id) (.volume obj)) else s.nodeMap.lookup id := by
  rw [volumeCreate, volumeSite]
  split
  · rw [State.bindAntstorVolume_lookup, ensureNode_lookup, ensureNode_lookup, if_pos rfl,
      Option.map_some]
    by_cases hId : id = obj.spec.targetNodeId
    · rw [if_pos hId, if_pos (congrArg some hId.symm), hId]
      rfl
    · rw [if_neg hId, if_neg hId, if_neg fun hEq => hId (Option.some.inj hEq).symm]
  · rfl

theorem pvc_lookup (s : State) (obj : PersistentVolumeClaim) (id : String) :
    (delivered K classes s (.pvc obj)).nodeMap.lookup id = if pvcSite classes obj = some id then
      some (nodeStep K (nodeAt s id) (.pvc obj)) else s.nodeMap.lookup id := by
  rw [delivered]
  cases pvcSite classes obj with
  | none => rfl
  | some nodeName =>
    dsimp only
    rw [State.onNode_lookup, ensureNode_lookup, ensureNode_lookup, if_pos rfl, Option.map_some]
    by_cases hId : id = nodeName
    · rw [if_pos hId, if_pos (congrArg some hId.symm), hId]
    · rw [if_neg hId, if_neg hId, if_neg fun hEq => hId (Option.some.inj hEq).symm]

theorem delivered_lookup (s : State) (e : Event) (id : String) :
    (delivered K classes s e).nodeMap.lookup id = if site classes e = some id then
      some (nodeStep K (nodeAt s id) e) else s.nodeMap.lookup id := by
  cases e with
  | pool obj =>
    rw [delivered, pool_lookup, site]
    by_cases hId : id = obj.spec.nodeInfo.id
    · rw [if_pos hId, if_pos (congrArg some hId.symm), hId]
    · rw [if_neg hId, if_neg fun hEq => hId (Option.some.inj hEq).symm]
  | volume obj => exact volume_lookup s obj id
  | pvc obj => exact pvc_lookup s obj id

/-- Every event concerns one node and runs that node's machine. -/
theorem sharded : Sharded (fun (s : State) id => s.nodeMap.lookup id) (delivered K classes) (site classes)
    (fun nodeID node e => some (nodeStep K (node.getD (placeholder nodeID)) e)) where
  at_site s e id hSite := by
    rw [delivered_lookup, if_pos hSite, nodeAt]
  elsewhere s e id hSite := by
    rw [delivered_lookup, if_neg hSite]

theorem run_cell (nodeID : String) (node : Option Node) (events : List Event) :
    Runs.run (fun node e => some (nodeStep K (node.getD (placeholder nodeID)) e)) node events =
      if events = [] then node
      else some (Runs.run (nodeStep K) (node.getD (placeholder nodeID)) events) := by
  induction events generalizing node with
  | nil => rfl
  | cons e events ih =>
    rw [Runs.run_cons, ih]
    cases events with
    | nil => rfl
    | cons next rest => rfl

theorem guarded_cell (nodeID : String) (vols : List AntstorVolume) (node : Option Node)
    (events : List Event) :
    Runs.Guarded (fun node e => some (nodeStep K (node.getD (placeholder nodeID)) e))
        (fun node e => Fits K vols (node.getD (placeholder nodeID)) e) node events ↔
      Runs.Guarded (nodeStep K) (Fits K vols) (node.getD (placeholder nodeID)) events := by
  induction events generalizing node with
  | nil => exact Iff.rfl
  | cons e events ih =>
    rw [Runs.Guarded, ih, Runs.Guarded]
    rfl

end

/-- The objects of a restart: every key once, claims that are not being deleted
and name a known pool, and capacities that cover what they have to. -/
structure Restartable (K : Kube) (classes : StorageClassLookup) (pools : List StoragePool)
    (vols : List AntstorVolume) (pvcs : List PersistentVolumeClaim) : Prop where
  poolIDs : (pools.map fun pool => pool.spec.nodeInfo.id).Nodup
  names : (vols.map fun vol => vol.name).Nodup
  keys : (pvcs.map PersistentVolumeClaim.namespacedName).Nodup
  alive : ∀ pvc ∈ pvcs, pvc.deletionTimestamp = none
  requests : ∀ pvc ∈ pvcs, 0 ≤ pvc.requestBytes K
  selected : ∀ pvc ∈ pvcs, ∀ nodeID ∈ pvcSite classes pvc,
    ∃ pool ∈ pools, pool.spec.nodeInfo.id = nodeID
  covers : ∀ pool ∈ pools,
    ((pool.spec.kernelLVM.reservedLVol.map fun item => (item.sizeByte : ℤ)).sum +
      ((volumesAt pool.spec.nodeInfo.id vols).map fun vol => (vol.getTotalSize : ℤ)).sum +
      openRequests K (volumesAt pool.spec.nodeInfo.id vols)
        (pvcsAt classes pool.spec.nodeInfo.id pvcs) : ℤ) ≤
      storage (State.withCapacity K pool).status.capacity

section

variable {K : Kube} {classes : StorageClassLookup} {pools : List StoragePool} {vols : List AntstorVolume}
  {pvcs : List PersistentVolumeClaim}

def objectsAt (nodeID : String) (pools : List StoragePool) (vols : List AntstorVolume) : List Event :=
  (pools.filter fun pool => pool.spec.nodeInfo.id = nodeID).map Event.pool ++
    (vols.filter fun vol => volumeSite vol = some nodeID).map Event.volume

theorem inOrder_at (nodeID : String) :
    (inOrder pools vols pvcs).filter (fun e => site classes e = some nodeID) =
      objectsAt nodeID pools vols ++ (pvcsAt classes nodeID pvcs).map Event.pvc := by
  simp only [inOrder, objectsAt, pvcsAt, List.filter_append, List.filter_map]
  congr 2
  simp [Function.comp_def, site]

theorem objectsAt_asPool (nodeID : String) : (objectsAt nodeID pools vols).filterMap asPool =
    pools.filter fun pool => pool.spec.nodeInfo.id = nodeID := by
  simp [objectsAt, List.filterMap_append, List.filterMap_map, Function.comp_def]

theorem filterMap_asVolume (vols : List AntstorVolume) :
    vols.filterMap (fun vol => asVolume (.volume vol)) = vols.filter fun vol => vol.spec.uuid ≠ "" := by
  have hGuard : (fun vol => asVolume (.volume vol)) =
      Option.guard fun vol : AntstorVolume => decide (vol.spec.uuid ≠ "") := by
    funext vol
    simp [asVolume, Option.guard]
  rw [hGuard, List.filterMap_eq_filter]

theorem objectsAt_asVolume (nodeID : String) :
    (objectsAt nodeID pools vols).filterMap asVolume = volumesAt nodeID vols := by
  simp only [objectsAt, List.filterMap_append, List.filterMap_map, Function.comp_def, asVolume_pool,
    filterMap_asVolume, List.filter_filter, List.filterMap_none, List.nil_append, volumesAt]
  congr 1
  funext vol
  simp [and_comm]

theorem objectsAt_asPvc (nodeID : String) : (objectsAt nodeID pools vols).filterMap asPvc = [] := by
  simp [objectsAt, List.filterMap_append, List.filterMap_map, Function.comp_def]

theorem filterMap_pvcs_asPvc (pvcs : List PersistentVolumeClaim) :
    (pvcs.map Event.pvc).filterMap asPvc = pvcs := by
  simp [List.filterMap_map, Function.comp_def]

theorem filterMap_pvcs_asVolume (pvcs : List PersistentVolumeClaim) :
    (pvcs.map Event.pvc).filterMap asVolume = [] := by
  simp [List.filterMap_map, Function.comp_def]

theorem filterMap_pvcs_asPool (pvcs : List PersistentVolumeClaim) :
    (pvcs.map Event.pvc).filterMap asPool = [] := by
  simp [List.filterMap_map, Function.comp_def]

theorem at_of_site {nodeID : String} {e : Event} (h : site classes e = some nodeID) : At nodeID e := by
  cases e with
  | pool obj => exact Option.some.inj h
  | pvc obj => trivial
  | volume obj =>
    rw [site, volumeSite] at h
    split at h
    · exact Option.some.inj h
    · cases h

theorem Restartable.wellPosed (h : Restartable K classes pools vols pvcs) (nodeID : String) :
    WellPosed K nodeID (volumesAt nodeID vols)
      (objectsAt nodeID pools vols ++ (pvcsAt classes nodeID pvcs).map Event.pvc) where
  site e he := by
    rw [← inOrder_at] at he
    exact at_of_site (of_decide_eq_true (List.mem_filter.mp he).2)
  names := by
    rw [volumeNames, List.filterMap_append, objectsAt_asVolume, filterMap_pvcs_asVolume, List.append_nil]
    exact h.names.sublist (List.filter_sublist.map _)
  keys := by
    rw [List.filterMap_append, objectsAt_asPvc, filterMap_pvcs_asPvc, List.nil_append]
    exact h.keys.sublist (List.filter_sublist.map _)
  alive pvc hPvc := by
    rw [List.filterMap_append, objectsAt_asPvc, filterMap_pvcs_asPvc, List.nil_append] at hPvc
    exact ⟨_, newPvcReservation_of_alive (h.alive pvc (List.mem_of_mem_filter hPvc))⟩
  vols vol hVol := by
    rwa [List.filterMap_append, objectsAt_asVolume, filterMap_pvcs_asVolume, List.append_nil] at hVol

theorem Restartable.pools_length_le_one (h : Restartable K classes pools vols pvcs) (nodeID : String) :
    (pools.filter fun pool => pool.spec.nodeInfo.id = nodeID).length ≤ 1 := by
  have hCount := List.nodup_iff_count_le_one.mp h.poolIDs nodeID
  rw [List.count, List.countP_map, List.countP_eq_length_filter] at hCount
  simpa [Function.comp_def, beq_eq_decide] using hCount

theorem Restartable.pools_eq (h : Restartable K classes pools vols pvcs) {pool : StoragePool}
    (hPool : pool ∈ pools) :
    (pools.filter fun other => other.spec.nodeInfo.id = pool.spec.nodeInfo.id) = [pool] := by
  have hMem : pool ∈ pools.filter fun other => other.spec.nodeInfo.id = pool.spec.nodeInfo.id :=
    List.mem_filter.mpr ⟨hPool, by simp⟩
  obtain ⟨only, hOnly⟩ := List.length_eq_one_iff.mp
    (le_antisymm (h.pools_length_le_one _) (List.length_pos_of_mem hMem))
  rw [hOnly, List.mem_singleton] at hMem
  rw [hOnly, hMem]

theorem resvSet_eq_empty {nodeID : String} {done : List Event} {n : Node} (h : Tracks K nodeID done n)
    (hPvcs : done.filterMap asPvc = []) : n.resvSet = .empty := by
  ext id r
  change n.getReservation id = some r ↔ none = some r
  cases hr : n.getReservation id with
  | none => rfl
  | some found =>
    obtain ⟨pvc, hPvc, _⟩ := h.origin id found hr
    rw [hPvcs] at hPvc
    cases hPvc

theorem Restartable.covered (h : Restartable K classes pools vols pvcs) {pool : StoragePool}
    (hPool : pool ∈ pools) {n : Node}
    (hTracks : Tracks K pool.spec.nodeInfo.id (objectsAt pool.spec.nodeInfo.id pools vols) n) :
    (n.charges + openRequests K (volumesAt pool.spec.nodeInfo.id vols)
        (pvcsAt classes pool.spec.nodeInfo.id pvcs) : ℚ) ≤ storage n.pool.status.capacity := by
  have hEmpty := resvSet_eq_empty hTracks (objectsAt_asPvc _)
  have hStored : n.pool = State.withCapacity K pool := by
    rw [hTracks.pool, poolAfter, objectsAt_asPool, h.pools_eq hPool]
    rfl
  have hTotal : n.resvSet.total = 0 := by
    rw [hEmpty]
    rfl
  have hCharges : n.charges = (pool.spec.kernelLVM.reservedLVol.map fun item => (item.sizeByte : ℤ)).sum +
      ((volumesAt pool.spec.nodeInfo.id vols).map fun vol => (vol.getTotalSize : ℤ)).sum := by
    rw [hTracks.unbound.charges_eq, hTotal, add_zero, Node.reservedBytes, Node.volumeBytes, hStored,
      State.withCapacity_spec, hTracks.volumes, objectsAt_asVolume]
  have hCovers := h.covers pool hPool
  rw [hCharges, hStored]
  push_cast at hCovers ⊢
  exact hCovers

theorem Restartable.guarded_inOrder (h : Restartable K classes pools vols pvcs) (nodeID : String) :
    Runs.Guarded (nodeStep K) (Fits K (volumesAt nodeID vols)) (placeholder nodeID)
      (objectsAt nodeID pools vols ++ (pvcsAt classes nodeID pvcs).map Event.pvc) := by
  have hWell := h.wellPosed nodeID
  rw [Runs.guarded_append]
  refine ⟨?_, ?_⟩
  · apply Runs.guarded_of_forall
    intro e he n
    rcases List.mem_append.mp he with hPool | hVolume
    · obtain ⟨pool, _, rfl⟩ := List.mem_map.mp hPool
      trivial
    · obtain ⟨vol, _, rfl⟩ := List.mem_map.mp hVolume
      trivial
  · cases hPvcs : pvcsAt classes nodeID pvcs with
    | nil => trivial
    | cons first rest =>
      rw [← hPvcs]
      have hFirst : first ∈ pvcsAt classes nodeID pvcs := by
        rw [hPvcs]
        exact List.mem_cons_self
      obtain ⟨hMem, hSite⟩ := List.mem_filter.mp hFirst
      obtain ⟨pool, hPool, rfl⟩ := h.selected first hMem nodeID (of_decide_eq_true hSite)
      have hTracks : Tracks K pool.spec.nodeInfo.id (objectsAt pool.spec.nodeInfo.id pools vols)
          (Runs.run (nodeStep K) (placeholder pool.spec.nodeInfo.id)
            (objectsAt pool.spec.nodeInfo.id pools vols)) :=
        (tracks_placeholder K _).run (hWell.sublist (List.sublist_append_left _ _))
      refine guarded_pvcs hTracks hWell ?_ ?_ ?_ (h.covered hPool hTracks)
      · intro vol hVol
        rwa [objectsAt_asVolume]
      · rw [resvSet_eq_empty hTracks (objectsAt_asPvc _)]
        exact ReservationSet.nonneg_empty
      · intro pvc hPvc
        exact h.requests pvc (List.mem_of_mem_filter hPvc)

theorem lookup_run (events : List Event) (nodeID : String) :
    (Runs.run (delivered K classes) State.newState events).nodeMap.lookup nodeID =
      if events.filter (fun e => site classes e = some nodeID) = [] then none
      else some (Runs.run (nodeStep K) (placeholder nodeID)
        (events.filter fun e => site classes e = some nodeID)) :=
  (sharded.get_run State.newState events nodeID).trans (run_cell nodeID none _)

theorem guarded_iff (events : List Event) :
    Runs.Guarded (delivered K classes) (FitsOnNode K classes vols) State.newState events ↔
      ∀ nodeID, Runs.Guarded (nodeStep K) (Fits K (volumesAt nodeID vols)) (placeholder nodeID)
        (events.filter fun e => site classes e = some nodeID) := by
  refine Iff.trans (sharded.guarded_iff
    (fun nodeID node e => Fits K (volumesAt nodeID vols) (node.getD (placeholder nodeID)) e)
    (fun s e => Iff.rfl) State.newState events) ?_
  exact forall_congr' fun nodeID => guarded_cell nodeID _ none _

/-- No restart panics, and an order of the events leaves the same volumes,
reservations and caches as pools, volumes and claims in turn exactly when every
claim without a volume fits at the moment it is added. -/
theorem restart_sameNodes_iff (h : Restartable K classes pools vols pvcs) {events : List Event}
    (hPerm : events.Perm (inOrder pools vols pvcs)) :
    ∃ s t, restart K classes events = some s ∧ restart K classes (inOrder pools vols pvcs) = some t ∧
      (SameNodes s t ↔
        Runs.Guarded (delivered K classes) (FitsOnNode K classes vols) State.newState events) := by
  have hAlive : ∀ pvc, .pvc pvc ∈ inOrder pools vols pvcs → ∃ r, newPvcReservation K pvc = some r := by
    intro pvc hPvc
    have hMem : pvc ∈ pvcs := by simpa [inOrder] using hPvc
    exact ⟨_, newPvcReservation_of_alive (h.alive pvc hMem)⟩
  refine ⟨_, _, restart_eq fun pvc hPvc => hAlive pvc (hPerm.mem_iff.mp hPvc), restart_eq hAlive, ?_⟩
  rw [guarded_iff]
  refine forall_congr' fun nodeID => ?_
  rw [lookup_run, lookup_run, inOrder_at]
  have hAt : (events.filter fun e => site classes e = some nodeID).Perm
      (objectsAt nodeID pools vols ++ (pvcsAt classes nodeID pvcs).map Event.pvc) := by
    rw [← inOrder_at]
    exact hPerm.filter _
  by_cases hNone : events.filter (fun e => site classes e = some nodeID) = []
  · rw [if_pos hNone, hNone, if_pos]
    · exact iff_of_true .none trivial
    · rw [hNone] at hAt
      exact hAt.symm.eq_nil
  · rw [if_neg hNone, if_neg fun hEmpty => hNone (hEmpty ▸ hAt).eq_nil, Option.rel_some_some]
    apply sameNode_iff ((h.wellPosed nodeID).perm hAt.symm) hAt
    · rw [(hAt.filterMap asPool).length_eq, List.filterMap_append, objectsAt_asPool,
        filterMap_pvcs_asPool, List.append_nil]
      exact h.pools_length_le_one nodeID
    · intro vol hVol
      rwa [(hAt.filterMap asVolume).mem_iff, List.filterMap_append, objectsAt_asVolume,
        filterMap_pvcs_asVolume, List.append_nil]
    · exact h.guarded_inOrder nodeID

theorem SameNodes.resvSet_eq {s t : State} (h : SameNodes s t) (nodeID : String) :
    (nodeAt s nodeID).resvSet = (nodeAt t nodeID).resvSet := by
  have hRel := h nodeID
  rw [nodeAt, nodeAt]
  generalize s.nodeMap.lookup nodeID = a at hRel ⊢
  generalize t.nodeMap.lookup nodeID = b at hRel ⊢
  cases hRel with
  | none => rfl
  | some hNode => exact hNode.reservations

def smallPool : StoragePool :=
  { name := "n", spec := { nodeInfo := { id := "n" } },
    status := { capacity := Finmap.singleton resourceDiskPoolByte 100 } }

def claimedVolume : AntstorVolume :=
  { name := "v", annotations := some (Finmap.singleton reservationIDKey "d/a"),
    spec := { uuid := "u", sizeByte := 30, targetNodeId := "n" } }

def localClaim (name : String) (size : Quantity) : PersistentVolumeClaim :=
  { ns := "d", name := name, annotations := some (Finmap.singleton k8sAnnoSelectedNode "n"),
    storageClassName := some "local", requestsStorage := size }

theorem volume_first_sameNodes : ∃ s t,
    restart Kube.exact mustLocalClass [.volume claimedVolume, .pool smallPool, .pvc (localClaim "b" 40),
      .pvc (localClaim "a" 30)] = some s ∧
    restart Kube.exact mustLocalClass
      (inOrder [smallPool] [claimedVolume] [localClaim "a" 30, localClaim "b" 40]) = some t ∧
    SameNodes s t := by
  have hRestartable : Restartable Kube.exact mustLocalClass [smallPool] [claimedVolume]
      [localClaim "a" 30, localClaim "b" 40] := by
    refine ⟨?_, ?_, ?_, ?_, ?_, ?_, ?_⟩
    · decide
    · decide
    · decide
    · decide
    · decide +kernel
    · decide
    · decide +kernel
  have hPerm : [.volume claimedVolume, .pool smallPool, .pvc (localClaim "b" 40),
      .pvc (localClaim "a" 30)].Perm
      (inOrder [smallPool] [claimedVolume] [localClaim "a" 30, localClaim "b" 40]) := by
    decide
  obtain ⟨s, t, hs, ht, hIff⟩ := restart_sameNodes_iff hRestartable hPerm
  exact ⟨s, t, hs, ht, hIff.mpr (by decide +kernel)⟩

theorem claim_first_not_sameNodes :
    Restartable Kube.exact mustLocalClass [smallPool] [] [localClaim "b" 40] ∧ ¬ ∃ s t,
      restart Kube.exact mustLocalClass [.pvc (localClaim "b" 40), .pool smallPool] = some s ∧
      restart Kube.exact mustLocalClass (inOrder [smallPool] [] [localClaim "b" 40]) = some t ∧
      SameNodes s t := by
  refine ⟨⟨?_, ?_, ?_, ?_, ?_, ?_, ?_⟩, ?_⟩
  · decide
  · decide
  · decide
  · decide
  · decide +kernel
  · decide
  · decide +kernel
  · rintro ⟨s, t, hs, ht, hSame⟩
    have hLost : (restart Kube.exact mustLocalClass [.pvc (localClaim "b" 40), .pool smallPool]).map
        (fun s => (nodeAt s "n").getReservation "d/b") = some none := by
      decide +kernel
    have hHeld : (restart Kube.exact mustLocalClass (inOrder [smallPool] [] [localClaim "b" 40])).map
        (fun s => ((nodeAt s "n").getReservation "d/b").isSome) = some true := by
      decide +kernel
    rw [hs, Option.map_some, Option.some.injEq] at hLost
    rw [ht, Option.map_some, Option.some.injEq] at hHeld
    rw [Node.getReservation, ← hSame.resvSet_eq "n"] at hHeld
    rw [Node.getReservation] at hLost
    rw [hLost] at hHeld
    cases hHeld

end

end Handler

end Liteio
