import Liteio.Reconciler.LockPool
import Liteio.Reconciler.PoolDeletion

/-! # A whole pass over a pool

The reconciler of pools runs the lock plugin and then its main handler, which
checks the object, saves it to the state and compares the age of the lease of
the node. The plugin judges the object and the heartbeat check the copy in the
state. A pool whose heartbeat returns becomes ready whatever its conditions say,
and the copy that is compared need not be one of the pool at all, since nodes
are stored under the ID in their spec and looked up by the name of the object.
-/

namespace Liteio.PoolReconciler

open LockPoolPlugin

def minute : ℤ := 60 * 1000000000

def nodeExpireDuration : ℤ := 3 * minute

def nodeOfflineExpireDuration : ℤ := 24 * 60 * minute

inductive Ended where
  | done
  | broke
  | failed
  | panicked
  deriving DecidableEq

structure Stored where
  state : State
  pools : FiniteMap String StoragePool
  keyed : ∀ name sp, pools.lookup name = some sp → sp.name = name

structure Observed where
  node : Option KubeNode := none
  sinceLastHB : Option ℤ
  volumes : ℕ := 0
  sinceCreation : ℤ := 0
  now : ℕ := 0

def withPoolStatus (api : StoragePool) (status : PoolStatus) : StoragePool :=
  { api with status := { api.status with status := status } }

structure Settings where
  kube : Kube
  matching : Matching
  locks : NoScheduleConfig := {}
  scheduler : SchedulerConfig := {}

namespace Stored

def newStored : Stored where
  state := State.newState
  pools := ∅
  keyed name sp h := by
    rw [Finmap.lookup_empty] at h
    cases h

def put (st : Stored) (sp : StoragePool) : Stored where
  state := st.state
  pools := st.pools.insert sp.name sp
  keyed name other h := by
    rw [FiniteMap.lookup_insert_eq] at h
    split at h
    · rename_i hName
      cases h
      exact hName.symm
    · exact st.keyed name other h

/-- A merge patch of the status, whose answer is decoded into the original. -/
def updateStoragePoolStatus (st : Stored) (original : StoragePool) (newStatus : PoolStatus) :
    Stored × StoragePool × Ended :=
  match st.pools.lookup original.name with
  | none => (st, { original with status := { original.status with status := newStatus } }, .failed)
  | some api =>
    let patched := if original.status.status = newStatus then api else withPoolStatus api newStatus
    (st.put patched, patched, .done)

theorem put_lookup (st : Stored) (sp : StoragePool) (name : String) :
    (st.put sp).pools.lookup name = if name = sp.name then some sp else st.pools.lookup name :=
  FiniteMap.lookup_insert_eq st.pools sp.name name sp

end Stored

def validateAndMutate (K : Kube) (sp : StoragePool) : Option (StoragePool × Ended) :=
  if sp.spec.nodeInfo.id = "" then some (sp, .failed)
  else if sp.labels.getD ∅ = ∅ then
    some ({ sp with labels := FiniteMap.put none poolLabelsNodeSnKey sp.name }, .broke)
  else if sp.status.status = .unset ∨ sp.status.capacity = ∅ then
    some ({ sp with status := { sp.status with
      status := .unknown
      capacity := sp.status.capacity.insert resourceDiskPoolByte (sp.getVgTotalBytes K : ℚ) } }, .broke)
  else none

def addReservations (cfg : SchedulerConfig) (node : Node) : Node :=
  cfg.nodeReservations.foldl (fun node item =>
    if (node.getReservation item.id).isSome then node
    else node.reserve (newReservation item.id item.size)) node

def saveToState (cfg : Settings) (s : State) (sp : StoragePool) : State × Option (StoragePool × Ended) :=
  let s := s.setStoragePool cfg.kube sp
  if inStateFinalizer ∈ sp.finalizers then (s.onNode sp.name (addReservations cfg.scheduler), none)
  else (s, some ({ sp with finalizers := sp.finalizers ++ [inStateFinalizer] }, .broke))

/-- Each of the three tests of `checkHeartbeat`, on the copy the state has. -/
def heartbeatStep (test : PoolStatus → Bool) (newStatus : PoolStatus)
    (out : Stored × StoragePool × Ended) : Stored × StoragePool × Ended :=
  if test out.2.1.status.status then out.1.updateStoragePoolStatus out.2.1 newStatus else out

def heartbeatUpdates (lostHB shouldOffline : Bool) (st : Stored) (pool : StoragePool) :
    Stored × StoragePool × Ended :=
  let out := heartbeatStep (fun status => !lostHB && (status = .unknown || status = .offline)) .ready
    (st, pool, .done)
  let out := heartbeatStep (fun status => lostHB && status = .ready) .unknown out
  heartbeatStep (fun _ => shouldOffline) .offline out

/-- A node that is missing from the state is used all the same. -/
def checkHeartbeat (st : Stored) (name : String) (sinceLastHB : Option ℤ) : Stored × Ended :=
  match sinceLastHB with
  | none => (st, .failed)
  | some age =>
    match st.state.nodeMap.lookup name with
    | none => (st, .panicked)
    | some node =>
      let (st, pool, ended) :=
        heartbeatUpdates (nodeExpireDuration < age) (nodeOfflineExpireDuration < age) st node.pool
      ({ st with state := st.state.onNode name fun node => { node with pool := pool } }, ended)

/-- The object keeps the finalizer of the state, so a deletion only marks it. -/
def processNodeOffline (seen : Observed) (sp : StoragePool) (st : Stored) : Stored :=
  if seen.volumes = 0 ∧ sp.status.status ≠ .ready ∧ 10 * minute < seen.sinceCreation ∧ seen.node = none then
    match st.pools.lookup sp.name with
    | some api => st.put { api with deletionTimestamp := some seen.now }
    | none => st
  else st

def handleReconcile (cfg : Settings) (seen : Observed) (st : Stored) (sp : StoragePool) : Stored × Ended :=
  match validateAndMutate cfg.kube sp with
  | some (new, ended) => (st.put new, ended)
  | none =>
    match saveToState cfg st.state sp with
    | (s, some (new, ended)) => ({ st.put new with state := s }, ended)
    | (s, none) =>
      match checkHeartbeat { st with state := s } sp.name seen.sinceLastHB with
      | (st, .done) => (processNodeOffline seen sp st, .done)
      | (st, ended) => (st, ended)

def reconcilePool (cfg : Settings) (seen : Observed) (st : Stored) (sp : StoragePool) : Stored × Ended :=
  let locked := LockPoolPlugin.reconcile (matchNode cfg.matching cfg.locks seen.node) sp
  handleReconcile cfg seen (st.put locked) locked

/-- The pool in the state under the name of the object: the object itself, or
whatever pool has this name as its node ID. -/
def comparedPool (s : State) (sp : StoragePool) : Option StoragePool :=
  if sp.spec.nodeInfo.id = sp.name then some sp else (s.nodeMap.lookup sp.name).map Node.pool

theorem addReservations_pool (cfg : SchedulerConfig) (node : Node) :
    (addReservations cfg node).pool = node.pool := by
  unfold addReservations
  induction cfg.nodeReservations generalizing node with
  | nil => rfl
  | cons item items ih =>
    rw [List.foldl_cons, ih]
    split
    · rfl
    · exact node.reserve_pool _

theorem saveToState_pool {cfg : Settings} {s s' : State} {sp : StoragePool} {node : Node}
    (h : saveToState cfg s sp = (s', none)) (hNode : s'.nodeMap.lookup sp.name = some node) :
    ∃ pool ∈ comparedPool s sp, node.pool.name = pool.name ∧ node.pool.status.status = pool.status.status := by
  unfold saveToState at h
  dsimp only at h
  split at h
  · cases h
    rw [State.onNode_lookup, if_pos rfl, State.setStoragePool_lookup] at hNode
    obtain ⟨saved, hSaved, rfl⟩ := Option.map_eq_some_iff.mp hNode
    rw [addReservations_pool]
    unfold comparedPool
    split at hSaved
    · rename_i hId
      refine ⟨sp, by rw [if_pos hId.symm]; rfl, ?_⟩
      have hPool : saved.pool = State.withCapacity cfg.kube sp := by
        cases hSaved
        split <;> rfl
      rw [hPool]
      exact ⟨State.withCapacity_name cfg.kube sp, State.withCapacity_status cfg.kube sp⟩
    · rename_i hId
      refine ⟨saved.pool, ?_, rfl, rfl⟩
      rw [if_neg (Ne.symm hId), hSaved]
      rfl
  · cases h

structure Compared (name : String) (api : StoragePool) (status : PoolStatus)
    (out : Stored × StoragePool × Ended) : Prop where
  object : out.1.pools.lookup name = some api
  copy : out.2.1.name = name
  status : out.2.1.status.status = status

theorem Compared.step {name : String} {api : StoragePool} {status : PoolStatus}
    {out : Stored × StoragePool × Ended} (h : Compared name api status out) (test : PoolStatus → Bool)
    (newStatus : PoolStatus) :
    Compared name (if test status ∧ status ≠ newStatus then withPoolStatus api newStatus else api)
      (if test status then if status = newStatus then api.status.status else newStatus else status)
      (heartbeatStep test newStatus out) := by
  obtain ⟨hObject, hCopy, hStatus⟩ := h
  have hName : api.name = name := out.1.keyed name api hObject
  unfold heartbeatStep
  rw [hStatus]
  by_cases hTest : test status = true
  · rw [if_pos hTest, if_pos hTest, Stored.updateStoragePoolStatus, hCopy, hObject, hStatus]
    dsimp only
    by_cases hSame : status = newStatus
    · rw [if_pos hSame, if_pos hSame, if_neg (by simp [hSame])]
      refine ⟨?_, hName, rfl⟩
      rw [Stored.put_lookup, if_pos hName.symm]
    · rw [if_neg hSame, if_neg hSame, if_pos ⟨hTest, hSame⟩]
      refine ⟨?_, hName, rfl⟩
      rw [Stored.put_lookup]
      exact if_pos hName.symm
  · rw [if_neg hTest, if_neg hTest, if_neg fun hBoth => hTest hBoth.1]
    exact ⟨hObject, hCopy, hStatus⟩

structure Elsewhere (name : String) (api : StoragePool) (out : Stored × StoragePool × Ended) : Prop where
  object : out.1.pools.lookup name = some api
  copy : out.2.1.name ≠ name

theorem Elsewhere.step {name : String} {api : StoragePool} {out : Stored × StoragePool × Ended}
    (h : Elsewhere name api out) (test : PoolStatus → Bool) (newStatus : PoolStatus) :
    Elsewhere name api (heartbeatStep test newStatus out) := by
  unfold heartbeatStep
  split
  · unfold Stored.updateStoragePoolStatus
    split
    · exact ⟨h.object, h.copy⟩
    · rename_i other hOther
      have hName : other.name ≠ name := by
        rw [out.1.keyed _ _ hOther]
        exact h.copy
      dsimp only
      split
      · refine ⟨?_, hName⟩
        rw [Stored.put_lookup, if_neg hName.symm]
        exact h.object
      · refine ⟨?_, hName⟩
        rw [Stored.put_lookup]
        exact (if_neg hName.symm).trans h.object
  · exact h

/-- The status of the object after the three tests, by its own status and that
of the copy. -/
def heartbeatStatus (lostHB shouldOffline : Bool) (api copy : PoolStatus) : PoolStatus :=
  if lostHB then
    if shouldOffline then if copy = .offline then api else .offline
    else if copy = .ready then .unknown else api
  else if copy = .unknown ∨ copy = .offline then .ready
  else api

theorem heartbeatUpdates_lookup {name : String} {api : StoragePool} {lostHB shouldOffline : Bool}
    {st : Stored} {pool : StoragePool} (hOffline : shouldOffline = true → lostHB = true)
    (hApi : st.pools.lookup name = some api) :
    (heartbeatUpdates lostHB shouldOffline st pool).1.pools.lookup name =
      some (if pool.name = name then withPoolStatus api
        (heartbeatStatus lostHB shouldOffline api.status.status pool.status.status) else api) := by
  by_cases hName : pool.name = name
  · have hStart : Compared name api pool.status.status (st, pool, .done) := ⟨hApi, hName, rfl⟩
    have hEnd := (((hStart.step
      (fun status => !lostHB && (status = .unknown || status = .offline)) .ready).step
      (fun status => lostHB && status = .ready) .unknown).step (fun _ => shouldOffline) .offline).object
    rw [if_pos hName]
    refine hEnd.trans (congrArg some ?_)
    cases lostHB <;> cases shouldOffline <;> cases pool.status.status <;>
      first | rfl | exact absurd (hOffline rfl) Bool.false_ne_true
  · have hStart : Elsewhere name api (st, pool, .done) := ⟨hApi, hName⟩
    rw [if_neg hName]
    exact (((hStart.step _ _).step _ _).step _ _).object

theorem processNodeOffline_lookup {seen : Observed} {sp api : StoragePool} {st : Stored}
    (hApi : st.pools.lookup sp.name = some api) :
    ∃ new, (processNodeOffline seen sp st).pools.lookup sp.name = some new ∧ new.status = api.status := by
  unfold processNodeOffline
  split
  · rw [hApi]
    refine ⟨{ api with deletionTimestamp := some seen.now }, ?_, rfl⟩
    rw [Stored.put_lookup]
    exact if_pos (st.keyed _ _ hApi).symm
  · exact ⟨api, hApi, rfl⟩

theorem checkHeartbeat_done {st st' : Stored} {name : String} {api : StoragePool} {age : ℤ}
    (hApi : st.pools.lookup name = some api) (h : checkHeartbeat st name (some age) = (st', .done)) :
    ∃ node, st.state.nodeMap.lookup name = some node ∧ st'.pools.lookup name =
      some (if node.pool.name = name then withPoolStatus api (heartbeatStatus (nodeExpireDuration < age)
        (nodeOfflineExpireDuration < age) api.status.status node.pool.status.status) else api) := by
  have hOffline : decide (nodeOfflineExpireDuration < age) = true → decide (nodeExpireDuration < age) = true := by
    intro hAge
    rw [decide_eq_true_eq, nodeOfflineExpireDuration, minute] at hAge
    rw [decide_eq_true_eq, nodeExpireDuration, minute]
    omega
  unfold checkHeartbeat at h
  dsimp only at h
  split at h
  · cases h
  · rename_i node hNode
    obtain ⟨hStored, _⟩ := Prod.ext_iff.mp h
    dsimp only at hStored
    subst hStored
    exact ⟨node, hNode, heartbeatUpdates_lookup hOffline hApi⟩

theorem validateAndMutate_ended {K : Kube} {sp new : StoragePool} {ended : Ended}
    (h : validateAndMutate K sp = some (new, ended)) : ended ≠ .done := by
  unfold validateAndMutate at h
  split at h
  · cases h
    simp
  · split at h
    · cases h
      simp
    · split at h
      · cases h
        simp
      · cases h

theorem saveToState_ended {cfg : Settings} {s s' : State} {sp new : StoragePool} {ended : Ended}
    (h : saveToState cfg s sp = (s', some (new, ended))) : ended ≠ .done := by
  unfold saveToState at h
  dsimp only at h
  split at h
  · cases h
  · cases h
    simp

theorem handleReconcile_done {cfg : Settings} {seen : Observed} {st : Stored} {sp : StoragePool} {age : ℤ}
    (hAge : seen.sinceLastHB = some age) (hDone : (handleReconcile cfg seen (st.put sp) sp).2 = .done) :
    ∃ s node st', saveToState cfg st.state sp = (s, none) ∧ s.nodeMap.lookup sp.name = some node ∧
      st'.pools.lookup sp.name = some (if node.pool.name = sp.name then withPoolStatus sp
        (heartbeatStatus (nodeExpireDuration < age) (nodeOfflineExpireDuration < age) sp.status.status
          node.pool.status.status) else sp) ∧
      (handleReconcile cfg seen (st.put sp) sp).1 = processNodeOffline seen sp st' := by
  unfold handleReconcile at hDone ⊢
  cases hValid : validateAndMutate cfg.kube sp with
  | some out =>
    rw [hValid] at hDone
    exact absurd hDone (validateAndMutate_ended hValid)
  | none =>
    rw [hValid] at hDone
    dsimp only at hDone ⊢
    cases hSaved : saveToState cfg (st.put sp).state sp with
    | mk s out =>
      rw [hSaved] at hDone
      cases out with
      | some out => exact absurd hDone (saveToState_ended hSaved)
      | none =>
        dsimp only at hDone ⊢
        rw [hAge] at hDone ⊢
        cases hCheck : checkHeartbeat { st.put sp with state := s } sp.name (some age) with
        | mk st' ended =>
          rw [hCheck] at hDone
          cases ended with
          | done =>
            have hApi : Finmap.lookup sp.name ({ st.put sp with state := s } : Stored).pools = some sp :=
              (st.put_lookup sp sp.name).trans (if_pos rfl)
            obtain ⟨node, hNode, hLookup⟩ := checkHeartbeat_done hApi hCheck
            exact ⟨s, node, st', hSaved, hNode, hLookup, rfl⟩
          | broke | failed | panicked => cases hDone

theorem reconcilePool_done {cfg : Settings} {seen : Observed} {st : Stored} {sp : StoragePool} {age : ℤ}
    (hAge : seen.sinceLastHB = some age) (hDone : (reconcilePool cfg seen st sp).2 = .done) :
    let locked := LockPoolPlugin.reconcile (matchNode cfg.matching cfg.locks seen.node) sp
    ∃ pool ∈ comparedPool st.state locked, ∃ new,
      (reconcilePool cfg seen st sp).1.pools.lookup sp.name = some new ∧
      new.status.conditions = locked.status.conditions ∧
      new.status.status = if pool.name = sp.name then heartbeatStatus (nodeExpireDuration < age)
        (nodeOfflineExpireDuration < age) locked.status.status pool.status.status
        else locked.status.status := by
  intro locked
  change (handleReconcile cfg seen (st.put locked) locked).2 = .done at hDone
  change ∃ pool ∈ _, ∃ new, (handleReconcile cfg seen (st.put locked) locked).1.pools.lookup locked.name = _ ∧ _
  obtain ⟨s, node, st', hSaved, hNode, hApi, hEnd⟩ := handleReconcile_done hAge hDone
  obtain ⟨pool, hPool, hName, hStatus⟩ := saveToState_pool hSaved hNode
  obtain ⟨new, hNew, hSame⟩ := @processNodeOffline_lookup seen _ _ _ hApi
  refine ⟨pool, hPool, new, ?_, ?_, ?_⟩
  · rw [hEnd]
    exact hNew
  · rw [hSame, hName]
    split <;> rfl
  · rw [hSame, hName, hStatus]
    change _ = if pool.name = locked.name then _ else _
    split <;> rfl

def Healthy (age : ℤ) (sp : StoragePool) : Prop :=
  foundError sp.status.conditions = false ∧ age ≤ nodeExpireDuration

def Revived (s : State) (sp : StoragePool) : Prop :=
  ∃ pool ∈ comparedPool s sp, pool.name = sp.name ∧
    (pool.status.status = .unknown ∨ pool.status.status = .offline)

def LossNoticed (age : ℤ) (s : State) (sp : StoragePool) : Prop :=
  sp.spec.nodeInfo.id = sp.name ∨ ∃ pool ∈ comparedPool s sp, pool.name = sp.name ∧
    (pool.status.status = .ready ∨ nodeOfflineExpireDuration < age ∧ pool.status.status ≠ .offline)

section Verdicts

variable (lostHB shouldOffline erroneous : Bool) (status copy : PoolStatus)

theorem ownCopy_verdict :
    (heartbeatStatus lostHB shouldOffline (lockedStatus erroneous status) (lockedStatus erroneous status) =
        .ready → erroneous = false ∧ lostHB = false) ↔
      (lostHB = false → erroneous = true → ¬ (status = .unknown ∨ status = .offline)) := by
  cases lostHB <;> cases shouldOffline <;> cases erroneous <;> cases status <;> decide

theorem staleCopy_verdict :
    (heartbeatStatus lostHB shouldOffline (lockedStatus erroneous status) copy = .ready →
        erroneous = false ∧ lostHB = false) ↔
      (lostHB = false → erroneous = true → ¬ (copy = .unknown ∨ copy = .offline)) ∧
      (lostHB = true → erroneous = false → status = .ready ∨ status = .locked →
        copy = .ready ∨ shouldOffline = true ∧ copy ≠ .offline) := by
  cases lostHB <;> cases shouldOffline <;> cases erroneous <;> cases status <;> cases copy <;> decide

theorem noCopy_verdict :
    (lockedStatus erroneous status = .ready → erroneous = false ∧ lostHB = false) ↔
      (lostHB = true → erroneous = false → ¬ (status = .ready ∨ status = .locked)) := by
  cases lostHB <;> cases erroneous <;> cases status <;> decide

end Verdicts

/-- A pass that comes to its end leaves the pool ready only if it is healthy,
exactly if a returning heartbeat meets no error, and a lost one a copy of the
pool in the state that shows it. -/
theorem ready_healthy_iff (cfg : Settings) (seen : Observed) (st : Stored) (sp : StoragePool) (age : ℤ)
    (hAge : seen.sinceLastHB = some age) (hDone : (reconcilePool cfg seen st sp).2 = .done) :
    (∀ new ∈ (reconcilePool cfg seen st sp).1.pools.lookup sp.name,
      new.status.status = .ready → Healthy age new) ↔
    (age ≤ nodeExpireDuration →
      Erroneous (matchNode cfg.matching cfg.locks seen.node) sp.status.conditions →
        ¬ Revived st.state sp) ∧
    (nodeExpireDuration < age →
      ¬ Erroneous (matchNode cfg.matching cfg.locks seen.node) sp.status.conditions →
      sp.status.status = .ready ∨ sp.status.status = .locked → LossNoticed age st.state sp) := by
  obtain ⟨pool, hPool, new, hNew, hConditions, hStatus⟩ := reconcilePool_done hAge hDone
  set matched := matchNode cfg.matching cfg.locks seen.node
  rw [reconcile_status] at hStatus
  have hHealthy : Healthy age new ↔ decide (Erroneous matched sp.status.conditions) = false ∧
      decide (nodeExpireDuration < age) = false := by
    rw [Healthy, hConditions, decide_eq_false_iff_not, decide_eq_false_iff_not, not_lt,
      ← reconcile_conditions, Bool.not_eq_true]
  have hProperty : (∀ new ∈ (reconcilePool cfg seen st sp).1.pools.lookup sp.name,
      new.status.status = .ready → Healthy age new) ↔ (new.status.status = .ready → Healthy age new) := by
    rw [hNew]
    simp
  rw [hProperty, hHealthy, hStatus]
  by_cases hId : sp.spec.nodeInfo.id = sp.name
  · have hOwn : pool = LockPoolPlugin.reconcile matched sp := by
      rw [comparedPool] at hPool
      exact (Option.some.inj ((if_pos hId).symm.trans hPool)).symm
    have hRevived : Revived st.state sp ↔ sp.status.status = .unknown ∨ sp.status.status = .offline := by
      simp [Revived, comparedPool, hId]
    rw [hOwn, reconcile_status, if_pos (show (LockPoolPlugin.reconcile matched sp).name = sp.name from rfl),
      ownCopy_verdict, hRevived]
    simp [LossNoticed, hId]
  · have hStale : comparedPool st.state sp = some pool := by
      rw [comparedPool, if_neg hId]
      exact (if_neg hId).symm.trans hPool
    have hRevived : Revived st.state sp ↔ pool.name = sp.name ∧
        (pool.status.status = .unknown ∨ pool.status.status = .offline) := by
      simp [Revived, hStale]
    have hNoticed : LossNoticed age st.state sp ↔ pool.name = sp.name ∧
        (pool.status.status = .ready ∨ nodeOfflineExpireDuration < age ∧ pool.status.status ≠ .offline) := by
      simp [LossNoticed, hStale, hId]
    rw [hRevived, hNoticed]
    by_cases hName : pool.name = sp.name
    · rw [if_pos hName, staleCopy_verdict]
      simp [hName]
    · rw [if_neg hName, noCopy_verdict]
      simp [hName]

def heldPool (status : PoolStatus) (conditions : List PoolCondition) : StoragePool :=
  { FilterChain.readyPool with
    labels := some (Finmap.singleton poolLabelsNodeSnKey "n")
    finalizers := [inStateFinalizer]
    status := { FilterChain.readyPool.status with status := status, conditions := conditions } }

def held (sp : StoragePool) : Stored := Stored.newStored.put sp

def plainSettings : Settings where
  kube := Kube.exact
  matching := { newRequirement := fun _ => none, toleratesTaint := fun _ _ => false }

def freshLease : Observed := { node := some {}, sinceLastHB := some minute }

def returning (conditions : List PoolCondition) : Stored × Ended :=
  reconcilePool plainSettings freshLease (held (heldPool .unknown conditions)) (heldPool .unknown conditions)

theorem returningPool_healthy :
    (returning []).2 = .done ∧
      ∀ new ∈ (returning []).1.pools.lookup "n", new.status.status = .ready → Healthy minute new := by
  have hDone : (returning []).2 = .done := by decide +kernel
  refine ⟨hDone, (ready_healthy_iff plainSettings freshLease (held (heldPool .unknown []))
    (heldPool .unknown []) minute rfl hDone).mpr ⟨?_, ?_⟩⟩
  · intro _ hError
    exact absurd hError (by decide)
  · intro hLost
    exact absurd hLost (by decide)

theorem returningPool_unhealthy :
    (returning [⟨.lvm, .error, ""⟩]).2 = .done ∧
      ∃ new ∈ (returning [⟨.lvm, .error, ""⟩]).1.pools.lookup "n",
        new.status.status = .ready ∧ foundError new.status.conditions = true := by
  decide +kernel

end Liteio.PoolReconciler
