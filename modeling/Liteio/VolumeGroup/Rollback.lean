import Liteio.VolumeGroup.Conserved
import Liteio.VolumeGroup.Ready

/-! # The indexes a rollback uses

`rollbackUnrecoverable` indexes the entries of the spec with positions of the
recorded statuses. A pass that comes to it has just recorded them again, except
over an empty list of entries, which it passes by. So the indexes are valid as
long as scheduling does not empty a list for which a failure is still recorded.
-/

namespace Liteio.VolumeGroup

open MachineInt FilterChain

/-- The recorded failures stand at the entries they were taken from. -/
def IndexesValid (group : AntstorVolumeGroup) : Prop :=
  ∀ (idx : ℕ) item, group.status.volumeStatus[idx]? = some item → schedulingFailed item = true →
    ∃ entry, group.spec.volumes[idx]? = some entry ∧ entry.volId.uuid = item.uuid

def Aligned (entries : List VolumeMeta) (statuses : List VolumeTargetStatus) : Prop :=
  List.Forall₂ (fun entry item => schedulingFailed item = true → entry.volId.uuid = item.uuid) entries statuses

/-- The group as `rollbackUnrecoverable` finds it in any pass from here. -/
def RollbackSafe (s : Cluster) : Prop :=
  ∀ calls after, validateAndMutate s.group = .ok () → syncVolumes calls s = (after, false) →
    IndexesValid after.group

section sync

variable {calls : Calls} {group : AntstorVolumeGroup}

theorem syncEntry_uuid {vols : Volumes} {item : VolumeMeta}
    (h : schedulingFailed (syncEntry calls group vols item).1 = true) :
    item.volId.uuid = (syncEntry calls group vols item).1.uuid := by
  have hSilent : ∀ status : VolumeTargetStatus, status.message = "" → schedulingFailed status = false := by
    intro status hMessage
    rw [schedulingFailed, hMessage]
    decide
  unfold syncEntry at h ⊢
  dsimp only at h ⊢
  split
  · split <;> rfl
  · rename_i hIncomplete
    rw [if_neg hIncomplete, hSilent {} rfl] at h
    cases h

theorem syncEntries_aligned (vols : Volumes) (items : List VolumeMeta) :
    Aligned items (syncEntries calls group vols items).1 := by
  induction items generalizing vols with
  | nil => exact .nil
  | cons item items ih => exact .cons syncEntry_uuid (ih _)

end sync

theorem indexesValid_of_aligned {group : AntstorVolumeGroup}
    (h : Aligned group.spec.volumes group.status.volumeStatus) : IndexesValid group := by
  unfold IndexesValid
  generalize group.spec.volumes = entries at h ⊢
  generalize group.status.volumeStatus = statuses at h ⊢
  induction h with
  | nil => simp
  | @cons entry item entries statuses hHead _ ih =>
    intro idx found hFound hFailed
    cases idx with
    | zero =>
      cases hFound
      exact ⟨entry, rfl, hHead hFailed⟩
    | succ idx => exact ih idx found hFound hFailed

/-- No failure is recorded for a group without entries, and a ready group has the
statuses of its entries. -/
structure Settled (group : AntstorVolumeGroup) : Prop where
  empty : group.spec.volumes = [] → ∀ item ∈ group.status.volumeStatus, schedulingFailed item = false
  ready : group.status.status = .ready → IndexesValid group

theorem Settled.indexesValid_of_empty {group : AntstorVolumeGroup} (h : Settled group)
    (hEmpty : group.spec.volumes = []) : IndexesValid group := by
  intro idx item hItem hFailed
  rw [h.empty hEmpty item (List.mem_of_getElem? hItem)] at hFailed
  cases hFailed

theorem syncVolumes_cases (calls : Calls) (s : Cluster) :
    ((s.group.spec.volumes = [] ∨ s.group.status.status = .ready) ∧ syncVolumes calls s = (s, false)) ∨
      s.group.spec.volumes ≠ [] ∧ ∃ status vols, Aligned s.group.spec.volumes status.volumeStatus ∧
        (status = s.group.status ∧ syncVolumes calls s = (⟨s.group, vols⟩, false) ∨
          syncVolumes calls s = (⟨s.group, vols⟩, true) ∨
          syncVolumes calls s = (⟨s.group.withStatus status, vols⟩, true)) := by
  have hAligned := @syncEntries_aligned calls s.group s.volumes s.group.spec.volumes
  by_cases hEmpty : s.group.spec.volumes = []
  · exact .inl ⟨.inl hEmpty, by simp [syncVolumes, hEmpty]⟩
  by_cases hReady : s.group.status.status = .ready
  · exact .inl ⟨.inr hReady, by simp [syncVolumes, hReady]⟩
  refine .inr ⟨hEmpty, syncedStatus s.group (syncEntries calls s.group s.volumes s.group.spec.volumes).1
    (syncEntries calls s.group s.volumes s.group.spec.volumes).2.2,
    (syncEntries calls s.group s.volumes s.group.spec.volumes).2.1, hAligned, ?_⟩
  unfold syncVolumes
  rw [if_neg hEmpty, if_neg hReady]
  dsimp only
  split
  · rename_i hSame
    exact .inl ⟨hSame, rfl⟩
  · split
    · exact .inr (.inl rfl)
    · exact .inr (.inr rfl)

theorem Settled.rollbackSafe {s : Cluster} (h : Settled s.group) : RollbackSafe s := by
  intro calls after _ hSync
  rcases syncVolumes_cases calls s with ⟨hSkipped, hSame⟩ | ⟨_, status, vols, hAligned, hCases⟩
  · rw [hSame] at hSync
    cases hSync
    rcases hSkipped with hEmpty | hReady
    · exact h.indexesValid_of_empty hEmpty
    · exact h.ready hReady
  · rcases hCases with ⟨rfl, hSame⟩ | hSame | hSame
    · rw [hSame] at hSync
      cases hSync
      exact indexesValid_of_aligned hAligned
    · rw [hSame] at hSync
      cases hSync
    · rw [hSame] at hSync
      cases hSync

theorem syncVolumes_settled {calls : Calls} {s : Cluster} (h : Settled s.group) :
    Settled (syncVolumes calls s).1.group := by
  rcases syncVolumes_cases calls s with ⟨_, hSame⟩ | ⟨hEntries, status, vols, hAligned, hCases⟩
  · rw [hSame]
    exact h
  · rcases hCases with ⟨_, hSame⟩ | hSame | hSame
    · rw [hSame]
      exact h
    · rw [hSame]
      exact h
    · rw [hSame]
      exact ⟨fun hEmpty => absurd hEmpty hEntries, fun _ => indexesValid_of_aligned hAligned⟩

theorem rollbackEntries_length (calls : Calls) (vols : Volumes) (items : List VolumeTargetStatus)
    (entries : List VolumeMeta) : (rollbackEntries calls vols items entries).entries.length = entries.length := by
  induction items generalizing vols entries with
  | nil => cases entries <;> rfl
  | cons item items ih =>
    cases entries with
    | nil =>
      rw [rollbackEntries]
      split
      · rfl
      · exact ih vols []
    | cons entry entries =>
      rw [rollbackEntries]
      split
      · exact congrArg (· + 1) (ih vols entries)
      · exact congrArg (· + 1) (ih _ entries)

theorem rollbackUnrecoverable_settled {calls : Calls} {s : Cluster} (h : Settled s.group) :
    Settled (rollbackUnrecoverable calls s).1.group := by
  unfold rollbackUnrecoverable
  dsimp only
  split
  · exact h
  · rename_i hReady
    split
    · exact h
    · split
      · dsimp only
        split
        · exact h
        · refine ⟨?_, fun hNow => absurd hNow hReady⟩
          intro hEmpty
          have hLength := rollbackEntries_length calls s.volumes s.group.status.volumeStatus s.group.spec.volumes
          change (rollbackEntries _ _ _ _).entries = [] at hEmpty
          rw [hEmpty] at hLength
          exact h.empty (List.length_eq_zero_iff.mp hLength.symm)
      · exact h

theorem rollbackUnrecoverable_kept (calls : Calls) (s : Cluster) :
    (rollbackUnrecoverable calls s).2 = false → (rollbackUnrecoverable calls s).1.group = s.group := by
  unfold rollbackUnrecoverable
  dsimp only
  split
  · exact fun _ => rfl
  · split
    · nofun
    · split
      · nofun
      · exact fun _ => rfl

section

variable {K : Kube} {cfg : SchedulerConfig} {nodes : List Node} {desired : DesiredVolumeSpec}

theorem scanNodes_eq_zero {sizeOn : Node → ℤ} {used : Finset String} {result : ℤ}
    (hNodes : ∀ node ∈ nodes, 0 ≤ sizeOn node) (h : scanNodes sizeOn used 0 nodes = (result, none)) :
    result = 0 := by
  induction nodes with
  | nil =>
    cases h
    rfl
  | cons node nodes ih =>
    have hRest := ih fun other hOther => hNodes other (List.mem_cons_of_mem _ hOther)
    rw [scanNodes] at h
    split at h
    · exact hRest h
    · split at h
      · cases h
      · rename_i hPos
        rw [le_antisymm (not_lt.mp hPos) (hNodes node List.mem_cons_self)] at h
        exact hRest h

theorem pickNode_ne_skipped {c : Cursor} (hNodes : ∀ node ∈ nodes, 0 ≤ getAllocatableRemoteVolumeSize K node
      (pickSizeFn K desired.sizeRange node c.leftSize) cfg.minLocalStoragePct) :
    pickNode K cfg nodes desired c ≠ .skipped := by
  intro h
  unfold pickNode at h
  dsimp only at h
  split at h
  · cases h
  · rename_i result hScan
    rw [scanNodes_eq_zero hNodes hScan, if_pos rfl] at h
    cases h

end

/-- Where the scheduler starts over, it may place an entry and finds no node on
which it would compute a negative size, or one without an ID. -/
structure Restarts (K : Kube) (cfg : SchedulerConfig) (nodes : List Node) (spec : AntstorVolumeGroupSpec) :
    Prop where
  count : 0 < spec.desiredVolumeSpec.countRange.max
  size : 0 < spec.totalSize
  nodes : ∀ node ∈ nodes, node.info.id ≠ "" ∧ 0 ≤ getAllocatableRemoteVolumeSize K node
    (pickSizeFn K spec.desiredVolumeSpec.sizeRange node spec.totalSize) cfg.minLocalStoragePct

instance (K : Kube) (cfg : SchedulerConfig) (nodes : List Node) (spec : AntstorVolumeGroupSpec) :
    Decidable (Restarts K cfg nodes spec) :=
  decidable_of_iff (0 < spec.desiredVolumeSpec.countRange.max ∧ 0 < spec.totalSize ∧
      ∀ node ∈ nodes, node.info.id ≠ "" ∧ 0 ≤ getAllocatableRemoteVolumeSize K node
        (pickSizeFn K spec.desiredVolumeSpec.sizeRange node spec.totalSize) cfg.minLocalStoragePct)
    ⟨fun h => ⟨h.1, h.2.1, h.2.2⟩, fun h => ⟨h.count, h.size, h.nodes⟩⟩

theorem record_of_unscheduled {vols : List VolumeMeta} (totalSize : ℤ)
    (h : ∀ vol ∈ vols, vol.scheduled = false) : record totalSize vols = ⟨0, totalSize, ∅⟩ := by
  unfold record
  induction vols with
  | nil => rfl
  | cons vol vols ih =>
    rw [List.foldl_cons, h vol List.mem_cons_self]
    exact ih fun other hOther => h other (List.mem_cons_of_mem _ hOther)

theorem exists_pick {K : Kube} {cfg : SchedulerConfig} {nodes : List Node} {spec : AntstorVolumeGroupSpec}
    (hRestarts : Restarts K cfg nodes spec) {n : ℕ} {placed : List (Cursor × String × ℤ)}
    (h : picks K cfg nodes spec.desiredVolumeSpec (n + 1) ⟨0, spec.totalSize, ∅⟩ = some placed) :
    ∃ pick ∈ placed, pick.2.1 ≠ "" ∧ 0 < pick.2.2 := by
  have hLeft : 0 < (⟨0, spec.totalSize, ∅⟩ : Cursor).leftSize := hRestarts.size
  cases hPick : pickNode K cfg nodes spec.desiredVolumeSpec ⟨0, spec.totalSize, ∅⟩ with
  | failed =>
    rw [picks_failed hLeft hPick] at h
    cases h
  | skipped => exact absurd hPick (pickNode_ne_skipped fun node hNode => (hRestarts.nodes node hNode).2)
  | placed nodeID size =>
    rw [picks_placed hLeft hPick] at h
    obtain ⟨rest, _, rfl⟩ := Option.map_eq_some_iff.mp h
    obtain ⟨hPos, _, node, hNode, rfl, _⟩ := pickNode_placed hPick
    exact ⟨_, List.mem_cons_self, (hRestarts.nodes node hNode).1, hPos⟩

theorem schedVolGroup_ne_nil {K : Kube} {rand : Random} {cfg : SchedulerConfig} {nodes : List Node}
    {group out : AntstorVolumeGroup} (h : schedVolGroup K rand cfg nodes group = .ok out)
    (hEntries : group.spec.volumes ≠ [])
    (hRestarts : (∀ vol ∈ group.spec.volumes, vol.scheduled = false) → Restarts K cfg nodes group.spec) :
    out.spec.volumes ≠ [] := by
  by_cases hNone : ∀ vol ∈ group.spec.volumes, vol.scheduled = false
  · obtain ⟨news, placed, hPicks, hPerm, hNews⟩ := schedVolGroup_places h
    have hFirst : ∃ n, placeable (group.spec.volumes.countP fun vol => !vol.scheduled)
        (roomLeft group.spec.desiredVolumeSpec ⟨0, group.spec.totalSize, ∅⟩) = n + 1 := by
      have hCount : group.spec.volumes.countP (fun vol => !vol.scheduled) = group.spec.volumes.length :=
        List.countP_eq_length.mpr fun vol hVol => by simp [hNone vol hVol]
      have hLength := List.length_pos_iff.mpr hEntries
      have hMax := (hRestarts hNone).count
      have hRoom : 0 < roomLeft group.spec.desiredVolumeSpec ⟨0, group.spec.totalSize, ∅⟩ := by
        change 0 < (_ - (0 : ℤ)).toNat
        omega
      refine Nat.exists_eq_succ_of_ne_zero ?_
      rw [hCount, placeable]
      omega
    obtain ⟨n, hn⟩ := hFirst
    rw [record_of_unscheduled group.spec.totalSize hNone, hn] at hPicks
    obtain ⟨pick, hPick, hID, hPos⟩ := exists_pick (hRestarts hNone) hPicks
    have hMem : pick.2 ∈ news.map fun vol => (vol.targetNodeName, vol.size) :=
      hNews ▸ List.mem_map_of_mem hPick
    obtain ⟨vol, hVol, hEq⟩ := List.mem_map.mp hMem
    have hScheduled : vol.scheduled = true := by
      rw [← hEq] at hID hPos
      exact scheduled_iff.mpr ⟨hPos, hID⟩
    exact List.ne_nil_of_mem (hPerm.mem_iff.mpr
      (List.mem_append_right _ (List.mem_filter.mpr ⟨hVol, hScheduled⟩)))
  · push Not at hNone
    obtain ⟨vol, hVol, hScheduled⟩ := hNone
    have hKept := (schedVolGroup_kept h).subset
      (List.mem_filter.mpr ⟨hVol, Bool.not_eq_false _ ▸ hScheduled⟩)
    exact List.ne_nil_of_mem hKept

theorem filterNodes_restarts {K : Kube} {cfg : SchedulerConfig} {allNodes qualified : List Node}
    {group : AntstorVolumeGroup} {results : List (Node × Verdict)}
    (h : filterNodes K cfg allNodes group = some results) (hQualified : matchAll results = .ok qualified)
    (hRestarts : Restarts K cfg allNodes group.spec) : Restarts K cfg qualified group.spec := by
  refine ⟨hRestarts.count, hRestarts.size, ?_⟩
  intro node' hNode'
  obtain ⟨node, hNode, hPass⟩ := Traverse.exists_of_mem_mapM h (matchAll_ok hQualified hNode')
  have hLeaves : node' = node ∨ node' = node.settle := by
    obtain ⟨hReject, -⟩ | ⟨m, hm, hRest⟩ := passAllFilters_cons hPass
    · exact absurd rfl hReject
    · obtain rfl : node = m := congrArg Prod.fst (Option.some.inj hm)
      exact passAllFilters_leaves (forall_loadFilterFromConfig K cfg) hRest
  rcases hLeaves with rfl | rfl
  · exact hRestarts.nodes _ hNode
  · exact hRestarts.nodes node hNode

theorem scheduleVolumeGroup_ne_nil {K : Kube} {rand : Random} {sorter : Sorter moreStorage}
    {cfg : SchedulerConfig} {allNodes nodes : List Node} {group out : AntstorVolumeGroup}
    (h : scheduleVolumeGroup K rand sorter cfg allNodes group = some ⟨nodes, .ok out⟩)
    (hEntries : group.spec.volumes ≠ [])
    (hRestarts : (∀ vol ∈ group.spec.volumes, vol.scheduled = false) → Restarts K cfg allNodes group.spec) :
    out.spec.volumes ≠ [] := by
  unfold scheduleVolumeGroup at h
  split at h
  · cases h
    exact hEntries
  · obtain ⟨results, hResults, hOut⟩ := Option.map_eq_some_iff.mp h
    have hResult := congrArg ScheduledGroup.result hOut
    dsimp only at hResult
    split at hResult
    · cases hResult
    · rename_i qualified hQualified
      refine schedVolGroup_ne_nil hResult hEntries fun hNone => ?_
      have hLeft := filterNodes_restarts hResults hQualified (hRestarts hNone)
      exact ⟨hLeft.count, hLeft.size, fun node hNode => hLeft.nodes node (sorter.mem_sort.mp hNode)⟩

/-- The condition on a pass: where a failure is recorded and no entry has a node,
the scheduler can start over. -/
def PassRestarts (K : Kube) (cfg : SchedulerConfig) (pass : Pass) (group : AntstorVolumeGroup) : Prop :=
  (∀ vol ∈ group.spec.volumes, vol.scheduled = false) →
    (∃ item ∈ group.status.volumeStatus, schedulingFailed item = true) →
      Restarts K cfg pass.allNodes group.spec

instance (K : Kube) (cfg : SchedulerConfig) (pass : Pass) (group : AntstorVolumeGroup) :
    Decidable (PassRestarts K cfg pass group) :=
  inferInstanceAs (Decidable (_ → _ → _))

section

variable {K : Kube} {byStorage : Sorter moreStorage} {cfg : SchedulerConfig}

theorem scheduleVolGroup_settled {pass : Pass} {s : Cluster} (h : Settled s.group)
    (hPass : PassRestarts K cfg pass s.group) :
    Settled (scheduleVolGroup K byStorage cfg pass s).1.group := by
  unfold scheduleVolGroup
  split
  · exact h
  · rename_i hReady
    split
    · exact h
    · dsimp only
      split
      · exact h
      · exact ⟨h.empty, fun hNow => absurd hNow hReady⟩
    · rename_i nodes group hScheduled
      split
      · dsimp only
        split
        · exact h
        · have hStatus : group.status = s.group.status := by
            rcases scheduleVolumeGroup_extends hScheduled with rfl | ⟨hGroup, _⟩
            · rfl
            · rw [hGroup]
              rfl
          refine ⟨?_, fun hNow => absurd (hStatus ▸ hNow) hReady⟩
          intro hEmpty item hItem
          change item ∈ group.status.volumeStatus at hItem
          rw [hStatus] at hItem
          by_cases hEntries : s.group.spec.volumes = []
          · exact h.empty hEntries item hItem
          · by_contra hFailed
            have hLeft : group.spec.volumes ≠ [] := scheduleVolumeGroup_ne_nil hScheduled hEntries
              fun hNone => hPass hNone ⟨item, hItem, Bool.not_eq_false _ ▸ hFailed⟩
            exact hLeft hEmpty
      · exact h

theorem handleReconcile_settled {pass : Pass} {s : Cluster} (h : Settled s.group)
    (hPass : PassRestarts K cfg pass s.group) :
    Settled (handleReconcile K byStorage cfg pass s).group := by
  have hSynced := @syncVolumes_settled pass.calls s h
  have hKept := (syncVolumes_synced pass.calls s).kept
  rw [handleReconcile]
  split
  · exact h
  · split
    · rename_i synced hSync
      rw [hSync] at hSynced
      exact hSynced
    · rename_i synced hSync
      rw [hSync] at hSynced hKept
      have hRolled := @rollbackUnrecoverable_settled pass.calls synced hSynced
      have hSame := rollbackUnrecoverable_kept pass.calls synced
      split
      · rename_i rolled hRollback
        rw [hRollback] at hRolled
        exact hRolled
      · rename_i rolled hRollback
        rw [hRollback] at hRolled hSame
        refine scheduleVolGroup_settled hRolled ?_
        rw [hSame rfl, hKept rfl]
        exact hPass

end

inductive Turn where
  | reconcile (pass : Pass)
  | volumes (vols : Volumes)

section

variable (K : Kube) (byStorage : Sorter moreStorage) (cfg : SchedulerConfig)

def turn (s : Cluster) : Turn → Cluster
  | .reconcile pass => handleReconcile K byStorage cfg pass s
  | .volumes vols => { s with volumes := vols }

def TurnRestarts (s : Cluster) : Turn → Prop
  | .reconcile pass => PassRestarts K cfg pass s.group
  | .volumes _ => True

instance (s : Cluster) : ∀ t, Decidable (TurnRestarts K cfg s t)
  | .reconcile pass => inferInstanceAs (Decidable (PassRestarts K cfg pass s.group))
  | .volumes _ => isTrue trivial

/-- From a group as it is created, whenever a rollback runs its indexes are valid. -/
theorem always_rollbackSafe {s : Cluster} (hNew : s.group.status = {}) {turns : List Turn}
    (hRestarts : Runs.Guarded (turn K byStorage cfg) (TurnRestarts K cfg) s turns) :
    Runs.Always (turn K byStorage cfg) RollbackSafe s turns := by
  have hFirst : Settled s.group := by
    constructor
    · rw [hNew]
      simp
    · rw [hNew]
      nofun
  have hAlways : Runs.Always (turn K byStorage cfg) (fun s => Settled s.group) s turns := by
    refine hRestarts.always hFirst ?_
    intro s t h hTurn
    cases t with
    | reconcile pass => exact handleReconcile_settled h hTurn
    | volumes vols => exact h
  exact hAlways.mono fun s h => h.rollbackSafe

end

def pinnedGroup (maxVolCnt : ℤ) : Cluster where
  group := {
    ns := "d"
    name := "g"
    spec := {
      uuid := "u"
      totalSize := 2 ^ 22
      desiredVolumeSpec := {
        countRange := { max := maxVolCnt }
        sizeRange := { max := 2 ^ 30 }
        sizeSymmetry := .asymmetric }
      stragety := { allowEmptyNode := true }
      volumes := [{ volId := { ns := "d", name := "e", uuid := "e" }, size := 2 ^ 22, targetNodeName := "a" }] } }

/-- The volume of the entry is created and fails within a minute; the pass that
would delete it cannot read it and clears the entry. -/
def youngFailure : List Turn :=
  let pass : Pass := { rand := numbered, allNodes := pair, errorText := fun _ => "" }
  [.reconcile pass,
    .volumes (Finmap.singleton ("d", "e")
      { ns := "d", name := "e", status := { status := .creating, message := noStoragePoolAvailable } }),
    .reconcile { pass with calls := { now := 10 } },
    .reconcile { pass with calls := { now := 20, rollbackGetFails := fun _ => true } },
    .reconcile { pass with calls := { now := 30 } }]

theorem youngFailure_rollbackSafe : Runs.Always (turn .exact insertionByStorage {}) RollbackSafe (pinnedGroup 1)
    youngFailure :=
  always_rollbackSafe .exact insertionByStorage {} rfl (by decide +kernel)

theorem youngFailure_index_out_of_range : ¬ Runs.Always (turn .exact insertionByStorage {}) RollbackSafe
    (pinnedGroup 0) youngFailure := by
  intro h
  have hLast := h.run
  generalize hRun : Runs.run (turn .exact insertionByStorage {}) (pinnedGroup 0) youngFailure = last at hLast
  have hEntries : last.group.spec.volumes = [] := by
    rw [← hRun]
    decide +kernel
  have hFailed : (last.group.status.volumeStatus[0]?).map schedulingFailed = some true := by
    rw [← hRun]
    decide +kernel
  have hValid : (validateAndMutate last.group).toBool = true := by
    rw [← hRun]
    decide +kernel
  obtain ⟨item, hItem, hItemFailed⟩ := Option.map_eq_some_iff.mp hFailed
  have hOk : validateAndMutate last.group = .ok () := by
    cases hResult : validateAndMutate last.group with
    | error err =>
      rw [hResult] at hValid
      cases hValid
    | ok _ => rfl
  obtain ⟨entry, hEntry, _⟩ := hLast {} last hOk (by simp [syncVolumes, hEntries]) 0 item hItem hItemFailed
  rw [hEntries] at hEntry
  cases hEntry

end Liteio.VolumeGroup
