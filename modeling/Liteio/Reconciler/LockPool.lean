import Liteio.Agent.Pool

/-! # Pools that are locked on bad conditions

The lock plugin of the pool reconciler keeps the KubeNode condition of a pool
in step with its node, and locks a ready pool as long as that condition or the
Lvm condition shows an error. The agent is to raise the Lvm condition when a
physical volume is lost. It edits the condition in the object it has fetched and
then replaces the whole list by the one of its own copy, so the pool is locked
only if that copy has the error already.
-/

namespace Liteio.LockPoolPlugin

def kubeNodeMsgNcOffline : String := "NC_OFFLINE"

structure Toleration where
  key : String := ""
  operator : String := ""
  value : String := ""
  effect : String := ""

structure NoScheduleConfig where
  nodeSelector : List NodeSelectorRequirement := []
  nodeTaints : List Toleration := []

structure Matching where
  newRequirement : NodeSelectorRequirement → Option (StringMap → Bool)
  toleratesTaint : Toleration → Taint → Bool

def matchAnyTaint (L : Matching) (toler : Toleration) (taints : List Taint) : Bool :=
  taints.any (L.toleratesTaint toler)

/-- A node that cannot be fetched is matched as one without labels and taints. -/
def matchNode (L : Matching) (cfg : NoScheduleConfig) (node : Option KubeNode) : Bool :=
  let node := node.getD {}
  cfg.nodeSelector.any (fun item => (L.newRequirement item).any fun require => require node.labels) ||
    cfg.nodeTaints.any fun toler => matchAnyTaint L toler node.taints

def kubeNodeCondition (conditions : List PoolCondition) : Option (PoolCondition × ℕ) :=
  conditions.zipIdx.foldl (fun found item => if item.1.type = .kubeNode then some item else found) none

/-- The status that is written for the node; `matched` says whether one of the
configured selectors or tolerations matches it. -/
def lockNode (matched : Bool) (st : StoragePoolStatus) : Option StoragePoolStatus :=
  match kubeNodeCondition st.conditions with
  | none =>
    if matched then some { st with conditions := st.conditions ++
      [{ type := .kubeNode, status := .error, message := kubeNodeMsgNcOffline }] }
    else none
  | some (cond, condIdx) =>
    match matched, cond.status with
    | true, .ok => some { st with conditions := st.conditions.modify condIdx fun item =>
        { item with status := .error, message := kubeNodeMsgNcOffline } }
    | false, .error => some { st with conditions := st.conditions.modify condIdx fun item =>
        { item with status := .ok, message := "" } }
    | _, _ => none

def foundError (conditions : List PoolCondition) : Bool :=
  conditions.any fun item => item.status = .error && (item.type = .kubeNode || item.type = .lvm)

def checkConditions (st : StoragePoolStatus) : Option StoragePoolStatus :=
  if foundError st.conditions ∧ st.status = .ready then some { st with status := .locked }
  else if ¬ foundError st.conditions ∧ st.status = .locked then some { st with status := .ready }
  else none

def reconcile (matched : Bool) (sp : StoragePool) : StoragePool :=
  let noded := (lockNode matched sp.status).getD sp.status
  { sp with status := (checkConditions noded).getD noded }

def LvmError (conditions : List PoolCondition) : Prop :=
  ∃ item ∈ conditions, item.type = .lvm ∧ item.status = .error

instance (conditions : List PoolCondition) : Decidable (LvmError conditions) :=
  inferInstanceAs (Decidable (∃ item ∈ conditions, _))

theorem foldl_kubeNode {items : List (PoolCondition × ℕ)} {found : Option (PoolCondition × ℕ)}
    {item : PoolCondition × ℕ}
    (h : items.foldl (fun found item => if item.1.type = .kubeNode then some item else found) found =
      some item) : found = some item ∨ item ∈ items ∧ item.1.type = .kubeNode := by
  induction items generalizing found with
  | nil => exact .inl h
  | cons head items ih =>
    rcases ih h with hFound | ⟨hMem, hType⟩
    · dsimp only at hFound
      split at hFound
      · rename_i hType
        cases hFound
        exact .inr ⟨List.mem_cons_self, hType⟩
      · exact .inl hFound
    · exact .inr ⟨List.mem_cons_of_mem _ hMem, hType⟩

theorem kubeNodeCondition_eq_some {conditions : List PoolCondition} {cond : PoolCondition} {condIdx : ℕ}
    (h : kubeNodeCondition conditions = some (cond, condIdx)) :
    conditions[condIdx]? = some cond ∧ cond.type = .kubeNode := by
  rcases foldl_kubeNode h with hNone | ⟨hMem, hType⟩
  · cases hNone
  · exact ⟨List.mk_mem_zipIdx_iff_getElem?.mp hMem, hType⟩

theorem LvmError.modify {conditions : List PoolCondition} {cond : PoolCondition} {condIdx : ℕ}
    (hCond : conditions[condIdx]? = some cond) (hType : cond.type = .kubeNode)
    (f : PoolCondition → PoolCondition) (h : LvmError conditions) : LvmError (conditions.modify condIdx f) := by
  obtain ⟨item, hMem, hLvm, hError⟩ := h
  obtain ⟨i, hi⟩ := List.mem_iff_getElem?.mp hMem
  have hNe : condIdx ≠ i := by
    rintro rfl
    rw [hCond] at hi
    cases hi
    rw [hType] at hLvm
    cases hLvm
  refine ⟨item, List.mem_iff_getElem?.mpr ⟨i, ?_⟩, hLvm, hError⟩
  rw [List.getElem?_modify, hi, Option.map_eq_map, Option.map_some, if_neg hNe]

theorem LvmError.lockNode {matched : Bool} {st : StoragePoolStatus} (h : LvmError st.conditions) :
    LvmError ((lockNode matched st).getD st).conditions := by
  unfold LockPoolPlugin.lockNode
  split
  · split
    · obtain ⟨item, hMem, hItem⟩ := h
      exact ⟨item, List.mem_append_left _ hMem, hItem⟩
    · exact h
  · rename_i hCond
    obtain ⟨hGet, hType⟩ := kubeNodeCondition_eq_some hCond
    split
    · exact h.modify hGet hType _
    · exact h.modify hGet hType _
    · exact h

theorem lockNode_status (matched : Bool) (st : StoragePoolStatus) :
    ((lockNode matched st).getD st).status = st.status := by
  unfold lockNode
  split
  · split <;> rfl
  · split <;> rfl

theorem LvmError.foundError {conditions : List PoolCondition} (h : LvmError conditions) :
    foundError conditions = true := by
  obtain ⟨item, hMem, hType, hStatus⟩ := h
  exact List.any_eq_true.mpr ⟨item, hMem, by simp [hType, hStatus]⟩

theorem reconcile_locks {matched : Bool} {sp : StoragePool} (h : LvmError sp.status.conditions)
    (hReady : sp.status.status = .ready) : (reconcile matched sp).status.status = .locked := by
  unfold reconcile checkConditions
  dsimp only
  rw [lockNode_status, if_pos ⟨h.lockNode.foundError, hReady⟩]
  rfl

def otherConditions (conditions : List PoolCondition) : List PoolCondition :=
  match kubeNodeCondition conditions with
  | none => conditions
  | some (_, condIdx) => conditions.eraseIdx condIdx

def Erroneous (matched : Bool) (conditions : List PoolCondition) : Prop :=
  matched = true ∨ foundError (otherConditions conditions) = true

instance (matched : Bool) (conditions : List PoolCondition) : Decidable (Erroneous matched conditions) :=
  inferInstanceAs (Decidable (_ ∨ _))

theorem foundError_cons (cond : PoolCondition) (conditions : List PoolCondition) :
    foundError (cond :: conditions) = (foundError [cond] || foundError conditions) := by
  simp [foundError]

theorem foundError_modify {conditions : List PoolCondition} {cond : PoolCondition} {condIdx : ℕ}
    (h : conditions[condIdx]? = some cond) (f : PoolCondition → PoolCondition) :
    foundError (conditions.modify condIdx f) =
      (foundError [f cond] || foundError (conditions.eraseIdx condIdx)) := by
  induction conditions generalizing condIdx with
  | nil => simp at h
  | cons head conditions ih =>
    cases condIdx with
    | zero =>
      cases h
      exact foundError_cons _ _
    | succ condIdx =>
      rw [List.modify_succ_cons, List.eraseIdx_cons_succ, foundError_cons,
        foundError_cons head (conditions.eraseIdx condIdx), ih h, Bool.or_left_comm]

theorem lockNode_foundError (matched : Bool) (st : StoragePoolStatus) :
    foundError ((lockNode matched st).getD st).conditions = true ↔ Erroneous matched st.conditions := by
  unfold Erroneous otherConditions lockNode
  cases hCond : kubeNodeCondition st.conditions with
  | none => cases matched <;> simp [foundError]
  | some found =>
    obtain ⟨cond, condIdx⟩ := found
    obtain ⟨hGet, hType⟩ := kubeNodeCondition_eq_some hCond
    have hSame : foundError st.conditions =
        (foundError [cond] || foundError (st.conditions.eraseIdx condIdx)) := by
      have hModify := foundError_modify hGet id
      rwa [List.modify_id] at hModify
    have hKept : foundError [cond] = decide (cond.status = .error) := by
      simp [foundError, hType]
    cases matched with
    | true =>
      cases hStatus : cond.status with
      | ok =>
        dsimp only
        rw [hStatus]
        dsimp only [Option.getD_some]
        rw [foundError_modify hGet]
        simp [foundError, hType]
      | error => simp [hSame, hKept, hStatus]
    | false =>
      cases hStatus : cond.status with
      | ok => simp [hSame, hKept, hStatus]
      | error =>
        dsimp only
        rw [hStatus]
        dsimp only [Option.getD_some]
        rw [foundError_modify hGet]
        simp [foundError]

theorem reconcile_conditions (matched : Bool) (sp : StoragePool) :
    foundError (reconcile matched sp).status.conditions = true ↔ Erroneous matched sp.status.conditions := by
  rw [← lockNode_foundError]
  unfold reconcile checkConditions
  dsimp only
  split
  · rfl
  · split <;> rfl

def lockedStatus (erroneous : Bool) (status : PoolStatus) : PoolStatus :=
  if erroneous ∧ status = .ready then .locked
  else if ¬ erroneous ∧ status = .locked then .ready
  else status

theorem reconcile_status (matched : Bool) (sp : StoragePool) :
    (reconcile matched sp).status.status =
      lockedStatus (Erroneous matched sp.status.conditions) sp.status.status := by
  unfold reconcile checkConditions lockedStatus
  dsimp only
  simp only [lockNode_foundError, lockNode_status, decide_eq_true_eq]
  split
  · rfl
  · split
    · rfl
    · exact lockNode_status matched sp.status

section LostDevice

open PoolSyncer

theorem lvmError_setStatusConditions {spdk : Bool} {st : StoragePoolStatus} :
    LvmError (setStatusConditions spdk st).conditions ↔ LvmError st.conditions := by
  unfold setStatusConditions LvmError
  dsimp only
  split
  · simp only [List.mem_map, exists_exists_and_eq_and]
    refine exists_congr fun item => and_congr_right fun _ => ?_
    split
    · rename_i hType
      simp [hType]
    · rfl
  · simp [or_and_right, exists_or]

theorem LvmError.setLvmCondition {conditions : List PoolCondition} (h : LvmError conditions)
    (msg : String) : LvmError (setLvmCondition .error msg conditions) := by
  obtain ⟨item, hMem, hType, _⟩ := h
  refine ⟨_, List.mem_map_of_mem hMem, ?_⟩
  rw [if_pos hType]
  exact ⟨hType, rfl⟩

/-- The agent's copy and the object differ where `updatePoolStatus` looks, once
the lost device is noted in the Lvm conditions of the object. -/
def Differ (spdk : Bool) (stderr : String) (pool apiPool : StoragePool) : Prop :=
  (setStatusConditions spdk pool.status).conditions ≠
      setLvmCondition .error (VgError.pvLost stderr).error apiPool.status.conditions ∨
    pool.status.vgFreeSize ≠ apiPool.status.vgFreeSize ∨
    storage pool.status.capacity ≠ storage apiPool.status.capacity

instance (spdk : Bool) (stderr : String) (pool apiPool : StoragePool) :
    Decidable (Differ spdk stderr pool apiPool) :=
  inferInstanceAs (Decidable (_ ∨ _))

theorem updatePoolStatus_lost {h : Health} {stderr : String} (hLost : h.sizes = .error (.pvLost stderr))
    (pool apiPool : StoragePool) :
    (updatePoolStatus h pool apiPool).2.status.status = apiPool.status.status ∧
      (updatePoolStatus h pool apiPool).2.status.conditions =
        if Differ h.spdk stderr pool apiPool then (setStatusConditions h.spdk pool.status).conditions
        else apiPool.status.conditions := by
  have hReal : realStatus h pool.status =
      (setStatusConditions h.spdk pool.status, some (.pvLost stderr)) := by
    rw [realStatus, hLost]
    rfl
  rw [updatePoolStatus, hReal]
  by_cases hDiffer : Differ h.spdk stderr pool apiPool
  · have hChanged : changedStatus (some (.pvLost stderr)) (setStatusConditions h.spdk pool.status)
        apiPool.status = some { apiPool.status with
          conditions := (setStatusConditions h.spdk pool.status).conditions
          vgFreeSize := pool.status.vgFreeSize
          capacity := apiPool.status.capacity.insert resourceDiskPoolByte
            (storage pool.status.capacity) } := by
      refine if_neg ?_
      rintro ⟨hConditions, hFree, hTotal⟩
      rcases hDiffer with hNe | hNe | hNe
      · exact hNe hConditions
      · exact hNe hFree
      · exact hNe hTotal
    rw [if_pos hDiffer]
    dsimp only
    rw [hChanged]
    exact ⟨rfl, rfl⟩
  · have hSame : changedStatus (some (.pvLost stderr)) (setStatusConditions h.spdk pool.status)
        apiPool.status = none := by
      unfold Differ at hDiffer
      push Not at hDiffer
      exact if_pos hDiffer
    rw [if_neg hDiffer]
    dsimp only
    rw [hSame]
    exact ⟨rfl, rfl⟩

/-- With a physical volume lost, a pass of the agent raises the Lvm condition of
a ready pool, and the plugin then locks it, exactly if the agent's own copy has
the error and the object has it too or differs from the copy. -/
theorem lostDevice_locks_iff (h : Health) (stderr : String) (hLost : h.sizes = .error (.pvLost stderr))
    (matched : Bool) (pool apiPool : StoragePool) (hReady : apiPool.status.status = .ready) :
    (LvmError (updatePoolStatus h pool apiPool).2.status.conditions ∧
      (reconcile matched (updatePoolStatus h pool apiPool).2).status.status = .locked) ↔
    LvmError pool.status.conditions ∧
      (LvmError apiPool.status.conditions ∨ Differ h.spdk stderr pool apiPool) := by
  obtain ⟨hStatus, hConditions⟩ := updatePoolStatus_lost hLost pool apiPool
  have hLocks : (LvmError (updatePoolStatus h pool apiPool).2.status.conditions ∧
      (reconcile matched (updatePoolStatus h pool apiPool).2).status.status = .locked) ↔
      LvmError (updatePoolStatus h pool apiPool).2.status.conditions :=
    and_iff_left_of_imp fun hError => reconcile_locks hError (hStatus.trans hReady)
  rw [hLocks, hConditions]
  split
  · rename_i hDiffer
    rw [lvmError_setStatusConditions]
    exact (and_iff_left (.inr hDiffer)).symm
  · rename_i hSame
    constructor
    · intro hError
      refine ⟨?_, .inl hError⟩
      have hReal := hError.setLvmCondition (VgError.pvLost stderr).error
      unfold Differ at hSame
      push Not at hSame
      rw [← hSame.1, lvmError_setStatusConditions] at hReal
      exact hReal
    · rintro ⟨_, hError | hDiffer⟩
      · exact hError
      · exact absurd hDiffer hSame

def lostDevice : Health := { spdk := true, sizes := .error (.pvLost pvLostErrStr) }

def readyWith (conditions : List PoolCondition) : StoragePool :=
  { name := "n", status := { conditions := conditions, status := .ready } }

theorem lvmErrorKnown_locks :
    LvmError (updatePoolStatus lostDevice (readyWith [⟨.lvm, .error, ""⟩])
        (readyWith [⟨.lvm, .error, ""⟩])).2.status.conditions ∧
      (reconcile false (updatePoolStatus lostDevice (readyWith [⟨.lvm, .error, ""⟩])
        (readyWith [⟨.lvm, .error, ""⟩])).2).status.status = .locked :=
  (lostDevice_locks_iff lostDevice pvLostErrStr rfl false (readyWith [⟨.lvm, .error, ""⟩])
    (readyWith [⟨.lvm, .error, ""⟩]) rfl).mpr (by decide +kernel)

theorem lvmErrorUnknown_ready :
    ¬ LvmError (updatePoolStatus lostDevice (readyWith []) (readyWith [])).2.status.conditions ∧
      (reconcile false (updatePoolStatus lostDevice (readyWith [])
        (readyWith [])).2).status.status = .ready := by
  decide +kernel

end LostDevice

end Liteio.LockPoolPlugin
