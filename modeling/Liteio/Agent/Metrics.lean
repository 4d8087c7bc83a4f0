import Liteio.Library.Runs
import Liteio.Spdk.Stats

/-! # Metrics of the volumes of a node

The writers of pkg/agent/metric each set a group of gauges for the targets of a
list and then delete the series of the targets that are no longer in it, which
they find by a cache of the earlier lists. All three delete in the gauges of the
block devices. The series of the other two groups are therefore never deleted,
and those of a volume that has gone stay.
-/

namespace Liteio.Metric

open MachineInt Spdk

structure ItemIdentity where
  devID : ℕ := 0
  devPath : String := ""
  lvolFullName : String := ""
  subsysNQN : String := ""
  deriving DecidableEq

structure MetricTarget where
  nodeName : String := ""
  pvcNSedName : String := ""
  volUUID : String := ""
  itemID : ItemIdentity := {}
  deriving DecidableEq

def MetricTarget.id (mt : MetricTarget) : String :=
  "uuid:" ++ mt.volUUID ++ ",dev:" ++ mt.itemID.devPath ++ ",lvol:" ++ mt.itemID.lvolFullName ++
    ",nqn:" ++ mt.itemID.subsysNQN ++ ","

inductive Gauges where
  | blkDev
  | lvol
  | subsystem
  deriving DecidableEq

structure Labels where
  node : String
  pvc : String
  uuid : String
  item : String
  deriving DecidableEq

def Gauges.labels (g : Gauges) (tgt : MetricTarget) : Labels where
  node := tgt.nodeName
  pvc := tgt.pvcNSedName
  uuid := tgt.volUUID
  item := match g with
    | .blkDev => tgt.itemID.devPath
    | .lvol => tgt.itemID.lvolFullName
    | .subsystem => tgt.itemID.subsysNQN

abbrev Series := FiniteMap Labels (List ℕ)

structure Collected where
  lastMap : Gauges → Option (FiniteMap String MetricTarget) := fun _ => none
  series : Gauges → Series := fun _ => ∅

def setCache (lastMap : Option (FiniteMap String MetricTarget)) (list : List MetricTarget) :
    FiniteMap String MetricTarget :=
  list.foldl (fun lastMap item => lastMap.insert item.id item) (lastMap.getD ∅)

def findDiff (lastMap : Option (FiniteMap String MetricTarget)) (latest : List MetricTarget) :
    Multiset MetricTarget :=
  match lastMap with
  | none => 0
  | some lastMap => FiniteMap.values (FiniteMap.filterKeys (fun id => id ∉ latest.map MetricTarget.id) lastMap)

def deleteLabelValues (g : Gauges) (lost : Multiset MetricTarget) (series : Series) : Series :=
  FiniteMap.filterKeys (fun labels => labels ∉ lost.map g.labels) series

def delBlkDevMetrics (lost : Multiset MetricTarget) (c : Collected) : Collected :=
  { c with series := Function.update c.series .blkDev (deleteLabelValues .blkDev lost (c.series .blkDev)) }

/-- A call of a writer: the key under which it looks for a target, and the rows
of statistics it is given. The conversion of a row may panic. -/
structure Request (κ : Type) where
  gauges : Gauges
  key : ItemIdentity → κ
  absent : κ
  rows : Except String (List (κ × Option (List ℕ)))
  list : List MetricTarget

namespace Request

variable {κ : Type} [DecidableEq κ] (r : Request κ)

def addTarget (targets : FiniteMap κ MetricTarget) (item : MetricTarget) : FiniteMap κ MetricTarget :=
  if r.key item.itemID ≠ r.absent then targets.insert (r.key item.itemID) item else targets

def targets : FiniteMap κ MetricTarget := r.list.foldl r.addTarget ∅

def setRow (series : Series) (row : κ × Option (List ℕ)) : Option Series :=
  match r.targets.lookup row.1 with
  | some tgt => row.2.map (series.insert (r.gauges.labels tgt))
  | none => some series

def writeMetrics (c : Collected) : Option (Collected × Option String) :=
  if r.targets = ∅ then some (c, none)
  else
    match r.rows with
    | .error err => some (c, some err)
    | .ok rows =>
      (rows.foldlM r.setRow (c.series r.gauges)).map fun series =>
        let lost := findDiff (c.lastMap r.gauges) r.list
        let lastMap := setCache (c.lastMap r.gauges) r.list
        (delBlkDevMetrics lost
          { lastMap := Function.update c.lastMap r.gauges (some lastMap)
            series := Function.update c.series r.gauges series }, none)

def written : List Labels :=
  match r.rows with
  | .error _ => []
  | .ok rows => rows.filterMap fun row => (r.targets.lookup row.1).map r.gauges.labels

end Request

structure Bdev where
  uuid : String
  aliases : List String
  deriving DecidableEq

structure BdevIostat where
  name : String
  bytesRead : ℕ := 0
  numReadOps : ℕ := 0
  bytesWritten : ℕ := 0
  numWriteOps : ℕ := 0
  bytesUnmapped : ℕ := 0
  numUnmapOps : ℕ := 0
  readLatencyTicks : ℕ := 0
  writeLatencyTicks : ℕ := 0
  unmapLatencyTicks : ℕ := 0
  timeInQueue : ℕ := 0
  deriving DecidableEq

structure BdevIostats where
  tickRate : ℕ
  bdevs : List BdevIostat
  deriving DecidableEq

/-- The fifteen numbers of the disk stand in the order of the gauges. -/
structure DiskStats where
  major : ℤ
  minor : ℤ
  numbers : List ℕ
  deriving DecidableEq

def BdevIostat.numbers (tickRate : ℕ) (iostat : BdevIostat) : Option (List ℕ) :=
  if tickRate = 0 then none
  else some
    [iostat.bytesRead, iostat.numReadOps, iostat.bytesWritten, iostat.numWriteOps, iostat.bytesUnmapped,
      iostat.numUnmapOps, uint64 (iostat.readLatencyTicks * 1000000) / tickRate,
      uint64 (iostat.writeLatencyTicks * 1000000) / tickRate,
      uint64 (iostat.unmapLatencyTicks * 1000000) / tickRate, uint64 (iostat.timeInQueue * 1000000) / tickRate]

def uuid2Alias (bdevs : List Bdev) : FiniteMap String String :=
  bdevs.foldl (fun uuid2Alias bdev =>
    match bdev.aliases with
    | [] => uuid2Alias
    | first :: _ => uuid2Alias.insert bdev.uuid first) ∅

def spdkSubsystemMetrics (list : List MetricTarget) (allStats : Except String (List SubsystemStatResp)) :
    Request String where
  gauges := .subsystem
  key := ItemIdentity.subsysNQN
  absent := ""
  rows := match allStats with
    | .error err => .error ("error of getting subsystem stat: " ++ err)
    | .ok allStats => .ok (allStats.map fun stat => (stat.subsysName, some stat.numbers))
  list := list

def spdkLvolMetrics (list : List MetricTarget) (bdevs : Except String (List Bdev))
    (iostats : Except String BdevIostats) : Request String where
  gauges := .lvol
  key := ItemIdentity.lvolFullName
  absent := ""
  rows := match bdevs, iostats with
    | .error err, _ => .error ("error of listing bdev metadata: " ++ err)
    | .ok _, .error err => .error ("error of getting lvol stat: " ++ err)
    | .ok bdevs, .ok iostats => .ok (iostats.bdevs.map fun iostat =>
        (((uuid2Alias bdevs).lookup iostat.name).getD "", iostat.numbers iostats.tickRate))
  list := list

def blockDeviceMetrics (list : List MetricTarget) (diskStats : Except String (List DiskStats)) : Request ℕ where
  gauges := .blkDev
  key := ItemIdentity.devID
  absent := 0
  rows := match diskStats with
    | .error err => .error ("error of reading blkdev stats: " ++ err)
    | .ok diskStats => .ok (diskStats.map fun stat => (uint64 (stat.major * 256 + stat.minor), some stat.numbers))
  list := list

inductive Call where
  | spdkSubsystem (list : List MetricTarget) (allStats : Except String (List SubsystemStatResp))
  | spdkLvol (list : List MetricTarget) (bdevs : Except String (List Bdev)) (iostats : Except String BdevIostats)
  | blockDevice (list : List MetricTarget) (diskStats : Except String (List DiskStats))

namespace Call

def gauges : Call → Gauges
  | .spdkSubsystem _ _ => .subsystem
  | .spdkLvol _ _ _ => .lvol
  | .blockDevice _ _ => .blkDev

def list : Call → List MetricTarget
  | .spdkSubsystem list _ | .spdkLvol list _ _ | .blockDevice list _ => list

def writeMetrics : Call → Collected → Option (Collected × Option String)
  | .spdkSubsystem list allStats => (spdkSubsystemMetrics list allStats).writeMetrics
  | .spdkLvol list bdevs iostats => (spdkLvolMetrics list bdevs iostats).writeMetrics
  | .blockDevice list diskStats => (blockDeviceMetrics list diskStats).writeMetrics

def written : Call → List Labels
  | .spdkSubsystem list allStats => (spdkSubsystemMetrics list allStats).written
  | .spdkLvol list bdevs iostats => (spdkLvolMetrics list bdevs iostats).written
  | .blockDevice list diskStats => (blockDeviceMetrics list diskStats).written

def Lists (call : Call) (labels : Labels) : Prop := ∃ tgt ∈ call.list, call.gauges.labels tgt = labels

instance (call : Call) (labels : Labels) : Decidable (call.Lists labels) :=
  inferInstanceAs (Decidable (∃ _ ∈ _, _))

end Call

namespace Collected

def step (c : Collected) (call : Call) : Collected :=
  match call.writeMetrics c with
  | some (c', _) => c'
  | none => c

def ReturnsNil (c : Collected) (call : Call) : Prop := (call.writeMetrics c).map Prod.snd = some none

/-- After a call of the writer its gauges have no series of other labels than
those of the targets of its list. -/
def Current (g : Gauges) (c : Collected) (call : Call) : Prop :=
  call.gauges = g → ∀ labels ∈ ((c.step call).series g).keys, call.Lists labels

instance (c : Collected) (call : Call) : Decidable (c.ReturnsNil call) :=
  inferInstanceAs (Decidable (_ = _))

instance (g : Gauges) (c : Collected) (call : Call) : Decidable (c.Current g call) :=
  inferInstanceAs (Decidable (_ → ∀ _ ∈ Finmap.keys _, _))

end Collected

/-- A target with a series keeps its place in all later lists. -/
def StillListed (g : Gauges) (calls : List Call) : Prop :=
  calls.Pairwise fun earlier later =>
    earlier.gauges = g → later.gauges = g → ∀ labels ∈ earlier.written, later.Lists labels

instance (g : Gauges) (calls : List Call) : Decidable (StillListed g calls) :=
  inferInstanceAs (Decidable (List.Pairwise _ _))

namespace Request

variable {κ : Type} [DecidableEq κ] {r : Request κ}

theorem mem_list_of_lookup_targets {key : κ} {tgt : MetricTarget} (h : r.targets.lookup key = some tgt) :
    tgt ∈ r.list := by
  have hTargets : ∀ tgt, r.targets.lookup key = some tgt → tgt ∈ r.list := by
    refine List.foldlRecOn (motive := fun targets => ∀ tgt, targets.lookup key = some tgt → tgt ∈ r.list)
      r.list r.addTarget ?_ ?_
    · intro tgt hTgt
      rw [Finmap.lookup_empty] at hTgt
      cases hTgt
    · intro targets ih item hItem tgt hTgt
      rw [addTarget] at hTgt
      split at hTgt
      · rw [FiniteMap.lookup_insert_eq] at hTgt
        split at hTgt
        · exact Option.some.inj hTgt ▸ hItem
        · exact ih tgt hTgt
      · exact ih tgt hTgt
  exact hTargets tgt h

theorem listed_of_mem_written {labels : Labels} (h : labels ∈ r.written) :
    ∃ tgt ∈ r.list, r.gauges.labels tgt = labels := by
  unfold written at h
  split at h
  · cases h
  · obtain ⟨row, _, hRow⟩ := List.mem_filterMap.mp h
    obtain ⟨tgt, hTgt, rfl⟩ := Option.map_eq_some_iff.mp hRow
    exact ⟨tgt, mem_list_of_lookup_targets hTgt, rfl⟩

theorem mem_setRow {series series' : Series} {row : κ × Option (List ℕ)} (h : r.setRow series row = some series')
    (labels : Labels) : labels ∈ series' ↔
      labels ∈ series ∨ (r.targets.lookup row.1).map r.gauges.labels = some labels := by
  unfold setRow at h
  split at h
  · rename_i tgt hTgt
    obtain ⟨numbers, _, rfl⟩ := Option.map_eq_some_iff.mp h
    rw [Finmap.mem_insert, hTgt, Option.map_some, Option.some.injEq, or_comm, eq_comm]
  · rename_i hTgt
    cases h
    simp [hTgt]

theorem mem_setRows {rows : List (κ × Option (List ℕ))} {series series' : Series}
    (h : rows.foldlM r.setRow series = some series') (labels : Labels) : labels ∈ series' ↔
      labels ∈ series ∨ labels ∈ rows.filterMap fun row => (r.targets.lookup row.1).map r.gauges.labels := by
  induction rows generalizing series with
  | nil =>
    cases h
    simp
  | cons row rows ih =>
    rw [List.foldlM_cons] at h
    obtain ⟨next, hNext, hRest⟩ := Option.bind_eq_some_iff.mp h
    rw [ih hRest, mem_setRow hNext, or_assoc]
    simp only [List.mem_filterMap, List.exists_mem_cons_iff]

theorem written_of_targets_empty (h : r.targets = ∅) : r.written = [] := by
  unfold written
  split
  · rfl
  · rw [h]
    simp

theorem mem_series {c c' : Collected} (h : r.writeMetrics c = some (c', none)) {g : Gauges} (hSpdk : g ≠ .blkDev)
    (labels : Labels) : labels ∈ c'.series g ↔ labels ∈ c.series g ∨ r.gauges = g ∧ labels ∈ r.written := by
  unfold writeMetrics at h
  split at h
  · rename_i hEmpty
    cases h
    simp [written_of_targets_empty hEmpty]
  · split at h
    · cases h
    · rename_i rows hRows
      obtain ⟨series, hSeries, hLeft⟩ := Option.map_eq_some_iff.mp h
      cases hLeft
      rw [written, hRows, delBlkDevMetrics]
      dsimp only
      rw [Function.update_of_ne hSpdk]
      by_cases hGauges : r.gauges = g
      · subst hGauges
        rw [Function.update_self, mem_setRows hSeries]
        simp
      · rw [Function.update_of_ne (Ne.symm hGauges)]
        simp [hGauges]

end Request

theorem Call.lists_of_mem_written {call : Call} {labels : Labels} (h : labels ∈ call.written) :
    call.Lists labels := by
  cases call with
  | spdkSubsystem _ _ | spdkLvol _ _ _ | blockDevice _ _ => exact Request.listed_of_mem_written h

theorem Collected.mem_series_step {c : Collected} {call : Call} (h : c.ReturnsNil call) {g : Gauges}
    (hSpdk : g ≠ .blkDev) (labels : Labels) : labels ∈ ((c.step call).series g).keys ↔
      labels ∈ (c.series g).keys ∨ call.gauges = g ∧ labels ∈ call.written := by
  obtain ⟨⟨c', err⟩, hCall, rfl⟩ := Option.map_eq_some_iff.mp h
  rw [step, hCall, Finmap.mem_keys, Finmap.mem_keys]
  cases call with
  | spdkSubsystem _ _ | spdkLvol _ _ _ | blockDevice _ _ => exact Request.mem_series hCall hSpdk labels

theorem stillListed_cons {g : Gauges} {call : Call} {calls : List Call} : StillListed g (call :: calls) ↔
    (∀ later ∈ calls, call.gauges = g → later.gauges = g → ∀ labels ∈ call.written, later.Lists labels) ∧
      StillListed g calls :=
  List.pairwise_cons

theorem guarded_current_iff {g : Gauges} (hSpdk : g ≠ .blkDev) {c : Collected} {calls : List Call}
    (hNil : Runs.Guarded Collected.step Collected.ReturnsNil c calls) :
    Runs.Guarded Collected.step (Collected.Current g) c calls ↔
      (∀ call ∈ calls, call.gauges = g → ∀ labels ∈ (c.series g).keys, call.Lists labels) ∧
        StillListed g calls := by
  induction calls generalizing c with
  | nil => simp [Runs.Guarded, StillListed]
  | cons call calls ih =>
    obtain ⟨hCall, hRest⟩ := hNil
    rw [Runs.Guarded, ih hRest, stillListed_cons, List.forall_mem_cons]
    have hCurrent : c.Current g call ↔ (call.gauges = g → ∀ labels ∈ (c.series g).keys, call.Lists labels) := by
      refine imp_congr_right fun hGauges => ?_
      constructor
      · intro h labels hLabels
        exact h labels ((Collected.mem_series_step hCall hSpdk labels).mpr (.inl hLabels))
      · intro h labels hLabels
        rcases (Collected.mem_series_step hCall hSpdk labels).mp hLabels with hOld | ⟨-, hNew⟩
        · exact h labels hOld
        · exact Call.lists_of_mem_written hNew
    simp only [Collected.mem_series_step hCall hSpdk]
    rw [hCurrent]
    constructor
    · rintro ⟨hHead, hLater, hPairs⟩
      refine ⟨⟨hHead, ?_⟩, ?_, hPairs⟩
      · intro later hMem hGauges labels hLabels
        exact hLater later hMem hGauges labels (.inl hLabels)
      · intro later hMem hFirst hGauges labels hLabels
        exact hLater later hMem hGauges labels (.inr ⟨hFirst, hLabels⟩)
    · rintro ⟨⟨hHead, hOld⟩, hWritten, hPairs⟩
      refine ⟨hHead, ?_, hPairs⟩
      rintro later hMem hGauges labels (hLabels | ⟨hFirst, hLabels⟩)
      · exact hOld later hMem hGauges labels hLabels
      · exact hWritten later hMem hFirst hGauges labels hLabels

/-- The gauges of subsystems and of logical volumes are current after every call
exactly when no target whose series was set leaves the lists. -/
theorem current_iff_stillListed {g : Gauges} (hSpdk : g ≠ .blkDev) {calls : List Call}
    (hNil : Runs.Guarded Collected.step Collected.ReturnsNil {} calls) :
    Runs.Guarded Collected.step (Collected.Current g) {} calls ↔ StillListed g calls := by
  rw [guarded_current_iff hSpdk hNil]
  refine and_iff_right ?_
  intro call _ _ labels hLabels
  rw [Finmap.mem_keys] at hLabels
  exact absurd hLabels Finmap.notMem_empty

def served : MetricTarget where
  nodeName := "n"
  pvcNSedName := "ns/a"
  volUUID := "a"
  itemID := { lvolFullName := "lvs/a", subsysNQN := "nqn.a" }

def servedNext : MetricTarget where
  nodeName := "n"
  pvcNSedName := "ns/b"
  volUUID := "b"
  itemID := { lvolFullName := "lvs/b", subsysNQN := "nqn.b" }

def statsOf (tgt : MetricTarget) : List SubsystemStatResp := [{ subsysName := tgt.itemID.subsysNQN }]

def bdevsOf (tgt : MetricTarget) : List Bdev := [{ uuid := tgt.volUUID, aliases := [tgt.itemID.lvolFullName] }]

def iostatsOf (tgt : MetricTarget) : BdevIostats := { tickRate := 1000, bdevs := [{ name := tgt.volUUID }] }

def subsystemCall (tgt : MetricTarget) : Call := .spdkSubsystem [tgt] (.ok (statsOf tgt))

def lvolCall (tgt : MetricTarget) : Call := .spdkLvol [tgt] (.ok (bdevsOf tgt)) (.ok (iostatsOf tgt))

/-- The first volume is deleted between two collections. -/
theorem series_stays : Runs.Guarded Collected.step Collected.ReturnsNil {}
      [subsystemCall served, lvolCall served, subsystemCall servedNext, lvolCall servedNext] ∧
    ¬ Runs.Guarded Collected.step (Collected.Current .subsystem) {}
      [subsystemCall served, lvolCall served, subsystemCall servedNext, lvolCall servedNext] ∧
    ¬ Runs.Guarded Collected.step (Collected.Current .lvol) {}
      [subsystemCall served, lvolCall served, subsystemCall servedNext, lvolCall servedNext] := by
  decide +kernel

def bothListed : List Call :=
  [subsystemCall served, lvolCall served,
    .spdkSubsystem [served, servedNext] (.ok (statsOf served ++ statsOf servedNext)),
    .spdkLvol [served, servedNext] (.ok (bdevsOf served ++ bdevsOf servedNext))
      (.ok { tickRate := 1000, bdevs := [{ name := "a" }, { name := "b" }] })]

theorem current_of_both_listed : Runs.Guarded Collected.step (Collected.Current .subsystem) {} bothListed ∧
    Runs.Guarded Collected.step (Collected.Current .lvol) {} bothListed := by
  have hNil : Runs.Guarded Collected.step Collected.ReturnsNil {} bothListed := by decide +kernel
  exact ⟨(current_iff_stillListed (by decide) hNil).mpr (by decide +kernel),
    (current_iff_stillListed (by decide) hNil).mpr (by decide +kernel)⟩

end Liteio.Metric
