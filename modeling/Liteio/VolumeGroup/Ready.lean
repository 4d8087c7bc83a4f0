import Liteio.Library.Runs
import Liteio.VolumeGroup.Linked

/-! # When a ready group is complete

Over every run of passes, scheduling decisions, reports and removals: if the
group starts with complete and distinct identities that match the volumes there
are, and every rollback finds or makes the volume gone, then the pass that turns
the group ready finds every entry backed by a ready volume of its size on its
node.
-/

namespace Liteio.VolumeGroup

open MachineInt FilterChain

def Backed (vols : Volumes) (entry : VolumeMeta) : Prop :=
  match vols.lookup entry.volId.key with
  | some vol => vol.status.status = .ready ∧ (vol.spec.sizeByte : ℤ) = entry.size ∧
      vol.spec.targetNodeId = entry.targetNodeName
  | none => False

instance (vols : Volumes) (entry : VolumeMeta) : Decidable (Backed vols entry) := by
  unfold Backed
  split <;> infer_instance

def GroupComplete (s : Cluster) : Prop :=
  (∀ entry ∈ s.group.spec.volumes, Backed s.volumes entry) ∧
    s.group.spec.totalSize ≤ (s.group.spec.volumes.map VolumeMeta.size).sum

instance (s : Cluster) : Decidable (GroupComplete s) := inferInstanceAs (Decidable (_ ∧ _))

def ReadyOnlyComplete (before after : Cluster) : Prop :=
  before.group.status.status ≠ .ready → after.group.status.status = .ready → GroupComplete after

instance (before after : Cluster) : Decidable (ReadyOnlyComplete before after) :=
  inferInstanceAs (Decidable (_ → _))

/-- No annotation redirects the volumes of the group, and its entries are linked
to the volumes there are. -/
def WellLinked (s : Cluster) : Prop := selectedTgtNode s.group = none ∧ Linked s.group.spec.volumes s.volumes

theorem backed_of_ready {vols : Volumes} {entry : VolumeMeta} {vol : AntstorVolume}
    (hVol : vols.lookup entry.volId.key = some vol) (hReady : vol.status.status = .ready)
    (hBacks : Backs entry vol) : Backed vols entry := by
  rw [Backed, hVol]
  refine ⟨hReady, hBacks.size, ?_⟩
  rcases hBacks.onNode with hEmpty | hNode
  · exact absurd hEmpty (hBacks.ready hReady)
  · exact hNode

section passes

/-- What a pass over the readiness loop leaves. The status of the group changes
only when the later passes do not run. -/
structure Synced (calls : Calls) (s : Cluster) (out : Cluster × Bool) : Prop where
  volumes : out.1.volumes = s.volumes ∨
    out.1.volumes = (syncEntries calls s.group s.volumes s.group.spec.volumes).2.1
  kept : out.2 = false → out.1.group = s.group
  group : ∃ status, out.1.group = s.group.withStatus status
  ready : s.group.status.status ≠ .ready → out.1.group.status.status = .ready →
    out.1.volumes = (syncEntries calls s.group s.volumes s.group.spec.volumes).2.1 ∧
    (syncEntries calls s.group s.volumes s.group.spec.volumes).2.2 = true ∧
    s.group.spec.totalSize ≤ s.group.spec.volumes.foldl (fun size item => addInt64 size item.size) 0

theorem syncVolumes_synced (calls : Calls) (s : Cluster) : Synced calls s (syncVolumes calls s) := by
  have hSame : Synced calls s (s, false) :=
    ⟨.inl rfl, fun _ => rfl, ⟨s.group.status, rfl⟩, fun hNot hReady => absurd hReady hNot⟩
  unfold syncVolumes
  dsimp only
  split
  · exact hSame
  · split
    · exact hSame
    · split
      · exact ⟨.inr rfl, fun _ => rfl, ⟨s.group.status, rfl⟩, fun hNot hReady => absurd hReady hNot⟩
      · split
        · exact ⟨.inr rfl, fun _ => rfl, ⟨s.group.status, rfl⟩, fun hNot hReady => absurd hReady hNot⟩
        · refine ⟨.inr rfl, nofun, ⟨_, rfl⟩, ?_⟩
          intro _ hReady
          refine ⟨rfl, ?_⟩
          simp only [AntstorVolumeGroup.withStatus, syncedStatus] at hReady
          split at hReady
          · rename_i hDone
            exact ⟨hDone.2, hDone.1⟩
          · cases hReady

theorem syncVolumes_readyOnlyComplete {calls : Calls} {s : Cluster} (h : WellLinked s) :
    ReadyOnlyComplete s (syncVolumes calls s).1 := by
  intro hNotReady hReady
  obtain ⟨_, hLinked⟩ := h
  have hSynced := syncVolumes_synced calls s
  obtain ⟨hVolumes, hAllReady, hTotal⟩ := hSynced.ready hNotReady hReady
  obtain ⟨status, hGroup⟩ := hSynced.group
  obtain ⟨hSame, hVols⟩ := syncEntries_ready hLinked.complete hAllReady
  rw [GroupComplete, hVolumes, hSame, hGroup]
  change (∀ entry ∈ s.group.spec.volumes, _) ∧ s.group.spec.totalSize ≤ _
  have hBacks : ∀ entry ∈ s.group.spec.volumes, ∃ vol, s.volumes.lookup entry.volId.key = some vol ∧
      vol.status.status = .ready ∧ Backs entry vol := by
    intro entry hEntry
    obtain ⟨vol, hVol, hVolReady⟩ := hVols entry hEntry
    exact ⟨vol, hVol, hVolReady, hLinked.backed entry hEntry vol hVol⟩
  constructor
  · intro entry hEntry
    obtain ⟨vol, hVol, hVolReady, hBack⟩ := hBacks entry hEntry
    exact backed_of_ready hVol hVolReady hBack
  · have hNonneg : 0 ≤ (s.group.spec.volumes.map VolumeMeta.size).sum := by
      apply List.sum_nonneg
      intro size hSize
      obtain ⟨entry, hEntry, rfl⟩ := List.mem_map.mp hSize
      obtain ⟨vol, _, _, hBack⟩ := hBacks entry hEntry
      exact (scheduled_iff.mp hBack.scheduled).1.le
    have hFold := foldl_addInt64 VolumeMeta.size s.group.spec.volumes 0
    rw [int64_zero, zero_add] at hFold
    exact (hFold ▸ hTotal).trans (int64_le_of_nonneg hNonneg)

theorem syncVolumes_wellLinked {calls : Calls} {s : Cluster} (h : WellLinked s) :
    WellLinked (syncVolumes calls s).1 := by
  obtain ⟨hSelected, hLinked⟩ := h
  have hSynced := syncVolumes_synced calls s
  obtain ⟨status, hGroup⟩ := hSynced.group
  rw [WellLinked, hGroup]
  refine ⟨hSelected, ?_⟩
  rcases hSynced.volumes with hVolumes | hVolumes
  · rw [hVolumes]
    exact hLinked
  · rw [hVolumes]
    exact syncEntries_linked hLinked hSelected fun _ hItem => hItem

theorem syncVolumes_lookup {calls : Calls} {s : Cluster} {key : Key} {vol : AntstorVolume}
    (h : (syncVolumes calls s).1.volumes.lookup key = some vol) :
    s.volumes.lookup key = some vol ∨
      key ∈ s.group.spec.volumes.map (fun item => item.volId.key) ∧ vol.creationTimestamp = calls.now := by
  rcases (syncVolumes_synced calls s).volumes with hVolumes | hVolumes
  · exact .inl (hVolumes ▸ h)
  · exact syncEntries_lookup (hVolumes ▸ h)

def Recoverable (pass : Pass) (s : Cluster) : Prop :=
  RollbackClears pass.calls s.volumes s.group.status.volumeStatus s.group.spec.volumes ∧
    Fresh pass.rand s.group s.volumes

instance (pass : Pass) (s : Cluster) : Decidable (Recoverable pass s) :=
  inferInstanceAs (Decidable (_ ∧ _))

theorem syncVolumes_recoverable {pass : Pass} {s : Cluster} (h : Recoverable pass s)
    (hGroup : (syncVolumes pass.calls s).1.group = s.group) :
    Recoverable pass (syncVolumes pass.calls s).1 := by
  obtain ⟨hClears, hFresh⟩ := h
  rw [Recoverable, hGroup]
  constructor
  · intro pair hPair hFailed
    obtain ⟨hGet, hVols⟩ := hClears pair hPair hFailed
    refine ⟨hGet, ?_⟩
    intro vol hVol
    rcases syncVolumes_lookup hVol with hOld | ⟨_, hNow⟩
    · exact hVols vol hOld
    · left
      omega
  · apply hFresh.of_lookup
    intro key vol hVol
    exact (syncVolumes_lookup hVol).imp_right And.left

theorem rollbackUnrecoverable_wellLinked {pass : Pass} {s : Cluster} (h : WellLinked s)
    (hRecoverable : Recoverable pass s) :
    WellLinked (rollbackUnrecoverable pass.calls s).1 ∧
      ((rollbackUnrecoverable pass.calls s).2 = false →
        Recoverable pass (rollbackUnrecoverable pass.calls s).1) ∧
      (rollbackUnrecoverable pass.calls s).1.group.status = s.group.status := by
  obtain ⟨hSelected, hLinked⟩ := h
  obtain ⟨hClears, hFresh⟩ := hRecoverable
  obtain ⟨hRolled, hShrinks⟩ := rollbackEntries_linked [] hLinked hClears
  unfold rollbackUnrecoverable
  dsimp only
  split
  · exact ⟨⟨hSelected, hLinked⟩, fun _ => ⟨hClears, hFresh⟩, rfl⟩
  · split
    · exact ⟨⟨hSelected, hLinked.shrink hShrinks⟩, nofun, rfl⟩
    · split
      · refine ⟨?_, nofun, ?_⟩
        · split
          · exact ⟨hSelected, hLinked.shrink hShrinks⟩
          · exact ⟨hSelected, hRolled⟩
        · split <;> rfl
      · refine ⟨⟨hSelected, hLinked.shrink hShrinks⟩, fun _ => ⟨?_, ?_⟩, rfl⟩
        · intro pair hPair hFailed
          exact (hClears pair hPair hFailed).shrink hShrinks
        · exact hFresh.of_lookup fun key vol hVol => .inl (hShrinks key vol hVol)

end passes

section

variable {K : Kube} {sorter : Sorter Priority.better} {byStorage : Sorter moreStorage} {cfg : SchedulerConfig}

theorem scheduleVolGroup_wellLinked {pass : Pass} {s : Cluster} (h : WellLinked s)
    (hFresh : Fresh pass.rand s.group s.volumes) :
    WellLinked (scheduleVolGroup K byStorage cfg pass s).1 ∧
      (scheduleVolGroup K byStorage cfg pass s).1.group.status.status = s.group.status.status := by
  obtain ⟨hSelected, hLinked⟩ := h
  unfold scheduleVolGroup
  split
  · exact ⟨⟨hSelected, hLinked⟩, rfl⟩
  · split
    · exact ⟨⟨hSelected, hLinked⟩, rfl⟩
    · dsimp only
      split <;> exact ⟨⟨hSelected, hLinked⟩, rfl⟩
    · rename_i nodes group hScheduled
      split
      · dsimp only
        split
        · exact ⟨⟨hSelected, hLinked⟩, rfl⟩
        · rcases scheduleVolumeGroup_extends hScheduled with rfl | ⟨hGroup, ⟨hExtends⟩⟩
          · exact ⟨⟨hSelected, hLinked⟩, rfl⟩
          · have hStatus : group.status = s.group.status := by
              rw [hGroup]
              rfl
            have hSame : selectedTgtNode group = selectedTgtNode s.group := by
              rw [hGroup]
              rfl
            refine ⟨⟨hSame.trans hSelected, hLinked.extends hFresh hExtends⟩, ?_⟩
            exact congrArg AntstorVolumeGroupStatus.status hStatus
      · exact ⟨⟨hSelected, hLinked⟩, rfl⟩

theorem handleReconcile_of_ready {pass : Pass} {s : Cluster} (h : s.group.status.status = .ready) :
    handleReconcile K byStorage cfg pass s = s := by
  have hSync : syncVolumes pass.calls s = (s, false) := by simp [syncVolumes, h]
  have hRollback : rollbackUnrecoverable pass.calls s = (s, false) := by simp [rollbackUnrecoverable, h]
  have hSchedule : scheduleVolGroup K byStorage cfg pass s = (s, false) := by simp [scheduleVolGroup, h]
  simp only [handleReconcile, hSync, hRollback, hSchedule]
  split <;> rfl

theorem handleReconcile_wellLinked {pass : Pass} {s : Cluster} (h : WellLinked s)
    (hRecoverable : s.group.status.status ≠ .ready → Recoverable pass s) :
    WellLinked (handleReconcile K byStorage cfg pass s) ∧
      ReadyOnlyComplete s (handleReconcile K byStorage cfg pass s) := by
  by_cases hReady : s.group.status.status = .ready
  · rw [handleReconcile_of_ready hReady]
    exact ⟨h, fun hNot => absurd hReady hNot⟩
  · have hKept : ∀ after : Cluster, after.group.status.status = s.group.status.status →
        ReadyOnlyComplete s after := fun after hSame hNot hAfter => absurd (hSame ▸ hAfter) hNot
    have hSynced : WellLinked (syncVolumes pass.calls s).1 := syncVolumes_wellLinked h
    have hComplete : ReadyOnlyComplete s (syncVolumes pass.calls s).1 := syncVolumes_readyOnlyComplete h
    have hKeeps := (syncVolumes_synced pass.calls s).kept
    have hSyncedRecoverable := syncVolumes_recoverable (hRecoverable hReady)
    rw [handleReconcile]
    split
    · exact ⟨h, hKept s rfl⟩
    · split
      · rename_i synced hSync
        rw [hSync] at hSynced hComplete
        exact ⟨hSynced, hComplete⟩
      · rename_i synced hSync
        rw [hSync] at hSynced hKeeps hSyncedRecoverable
        have hGroup : synced.group = s.group := hKeeps rfl
        obtain ⟨hRolled, hNext, hStatus⟩ := rollbackUnrecoverable_wellLinked hSynced (hSyncedRecoverable hGroup)
        rw [hGroup] at hStatus
        split
        · rename_i rolled hRollback
          rw [hRollback] at hRolled hStatus
          exact ⟨hRolled, hKept rolled (congrArg AntstorVolumeGroupStatus.status hStatus)⟩
        · rename_i rolled hRollback
          rw [hRollback] at hRolled hStatus hNext
          obtain ⟨hLinked, hLast⟩ := scheduleVolGroup_wellLinked hRolled (hNext rfl).2
          exact ⟨hLinked, hKept _ (hLast.trans (congrArg AntstorVolumeGroupStatus.status hStatus))⟩

theorem scheduled_backs (hMatches : K.MatchesIn) (hAffinity : "Affinity" ∈ cfg.filters) {allNodes : List Node}
    (hLabels : Labelled allNodes) {entry : VolumeMeta} {vol : AntstorVolume} (h : Backs entry vol) :
    Backs entry (scheduled K sorter cfg allNodes vol) := by
  unfold scheduled
  split
  · exact h
  · split
    · rename_i nodes out info hOut
      refine { h with onNode := .inr ?_, ready := nofun }
      exact scheduleVolume_pinned hMatches hAffinity hLabels h.pinned h.free hOut rfl
    · exact h

theorem reported_backs {status : AntstorVolumeStatus} {spdkTarget : Option SpdkTarget}
    {finalizers : List String} {entry : VolumeMeta} {vol : AntstorVolume} (h : Backs entry vol) :
    Backs entry (reported status spdkTarget finalizers vol) := by
  unfold reported
  split
  · exact h
  · rename_i hAllowed
    refine { h with ready := ?_ }
    intro hReady hEmpty
    exact hAllowed ⟨hReady, hEmpty⟩

/-- The condition on one step: a pass over a group that is not ready is
recoverable, and volumes are scheduled among labelled pools. -/
def Admissible (s : Cluster) : Event → Prop
  | .reconcile pass => s.group.status.status ≠ .ready → Recoverable pass s
  | .schedule _ allNodes => Labelled allNodes
  | .report .. => True
  | .remove _ => True

instance (s : Cluster) : ∀ e, Decidable (Admissible s e)
  | .reconcile _ => inferInstanceAs (Decidable (_ → _))
  | .schedule _ allNodes => inferInstanceAs (Decidable (Labelled allNodes))
  | .report .. => isTrue trivial
  | .remove _ => isTrue trivial

theorem onVolume_group (s : Cluster) (key : Key) (f : AntstorVolume → AntstorVolume) :
    (onVolume s key f).group = s.group := by
  unfold onVolume
  split <;> rfl

theorem step_wellLinked (hMatches : K.MatchesIn) (hAffinity : "Affinity" ∈ cfg.filters) {s : Cluster}
    {e : Event} (h : WellLinked s) (hAdmissible : Admissible s e) :
    WellLinked (step K sorter byStorage cfg s e) ∧
      ReadyOnlyComplete s (step K sorter byStorage cfg s e) := by
  have hOther : ∀ after : Cluster, after.group = s.group → Linked s.group.spec.volumes after.volumes →
      WellLinked after ∧ ReadyOnlyComplete s after := by
    intro after hGroup hLinked
    rw [WellLinked, hGroup]
    exact ⟨⟨h.1, hLinked⟩, fun hNot hReady => absurd (hGroup ▸ hReady) hNot⟩
  cases e with
  | reconcile pass => exact handleReconcile_wellLinked h hAdmissible
  | schedule key allNodes =>
    exact hOther _ (onVolume_group s key _)
      (h.2.onVolume fun _ _ hBacks => scheduled_backs hMatches hAffinity hAdmissible hBacks)
  | report key status spdkTarget finalizers =>
    exact hOther _ (onVolume_group s key _) (h.2.onVolume fun _ _ hBacks => reported_backs hBacks)
  | remove key =>
    exact hOther _ rfl (h.2.shrink fun _ _ => FiniteMap.lookup_of_erase)

/-- In every run of admissible steps from a linked cluster, the pass that sets
the group ready finds it complete. -/
theorem run_readyOnlyComplete (hMatches : K.MatchesIn) (hAffinity : "Affinity" ∈ cfg.filters) {s : Cluster}
    (h : WellLinked s) {events : List Event}
    (hAdmissible : Runs.Guarded (step K sorter byStorage cfg) Admissible s events) :
    Runs.Guarded (step K sorter byStorage cfg)
      (fun s e => ReadyOnlyComplete s (step K sorter byStorage cfg s e)) s events :=
  hAdmissible.imp h (fun _ _ hLinked hStep => (step_wellLinked hMatches hAffinity hLinked hStep).1)
    fun _ _ hLinked hStep => (step_wellLinked hMatches hAffinity hLinked hStep).2

end

def oneEntry (entry : VolumeMeta) : Cluster where
  group := {
    ns := "d"
    name := "g"
    spec := {
      uuid := "u"
      totalSize := 10
      desiredVolumeSpec := { sizeSymmetry := .asymmetric }
      volumes := [entry] } }

def smoothPass : Pass where
  rand := numbered
  allNodes := labelledPair
  errorText _ := noStoragePoolAvailable

def oneVolumeRun : List Event :=
  [.reconcile smoothPass, .schedule ("d", "g-0") labelledPair,
    .report ("d", "g-0") { status := .ready } none [], .reconcile smoothPass]

theorem oneEntry_wellLinked : WellLinked (oneEntry onA) where
  left := rfl
  right := {
    complete := by decide
    distinct := by decide
    inInt64 := by decide
    backed := by
      intro entry _ vol hVol
      cases hVol }

theorem oneVolumeRun_readyOnlyComplete :
    (Runs.run (step .exact Priority.insertion insertionByStorage basicAndAffinity) (oneEntry onA)
      oneVolumeRun).group.status.status = .ready ∧
    Runs.Guarded (step .exact Priority.insertion insertionByStorage basicAndAffinity)
      (fun s e => ReadyOnlyComplete s
        (step .exact Priority.insertion insertionByStorage basicAndAffinity s e))
      (oneEntry onA) oneVolumeRun :=
  ⟨by decide +kernel, run_readyOnlyComplete Kube.exact_matchesIn (by decide) oneEntry_wellLinked
    (by decide +kernel)⟩

/-- An entry without an identity is passed over by the readiness loop. -/
theorem anonymous_entry_not_complete :
    ¬ Runs.Guarded (step .exact Priority.insertion insertionByStorage basicAndAffinity)
      (fun s e => ReadyOnlyComplete s
        (step .exact Priority.insertion insertionByStorage basicAndAffinity s e))
      (oneEntry { targetNodeName := "a", size := 10 }) [.reconcile smoothPass] := by
  decide +kernel

end Liteio.VolumeGroup
