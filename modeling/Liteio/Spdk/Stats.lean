import Liteio.Library.MachineInt
import Liteio.Library.Tally

/-! # Statistics of the subsystems

`GetTargetStats` of pkg/spdk goes through the poll groups of the report SPDK
gives and gathers one entry for each subsystem, with the ticks of each group
converted to microseconds. All numbers are added up but the time in the queue,
which each group overwrites, so that the entry has that of the last group.
-/

namespace Liteio.Spdk

open MachineInt

structure Ios where
  subsysName : String
  bytesRead : ℕ := 0
  numReadOps : ℕ := 0
  bytesWritten : ℕ := 0
  numWriteOps : ℕ := 0
  readLatencyTicks : ℕ := 0
  writeLatencyTicks : ℕ := 0
  timeInQueue : ℕ := 0
  deriving DecidableEq

structure SubSystem where
  ios : Ios
  deriving DecidableEq

structure PoolGroup where
  subsystems : List SubSystem
  deriving DecidableEq

structure SubsystemStat where
  tickRate : ℕ
  pollGroups : List PoolGroup
  deriving DecidableEq

structure SubsystemStatResp where
  subsysName : String := ""
  bytesRead : ℕ := 0
  numReadOps : ℕ := 0
  bytesWrite : ℕ := 0
  numWriteOps : ℕ := 0
  readLatencyTime : ℕ := 0
  writeLatencyTime : ℕ := 0
  timeInQueue : ℕ := 0
  deriving DecidableEq

def addIos (tickRate : ℕ) (stat : SubsystemStatResp) (ios : Ios) : SubsystemStatResp where
  subsysName := ios.subsysName
  bytesRead := uint64 (stat.bytesRead + ios.bytesRead)
  numReadOps := uint64 (stat.numReadOps + ios.numReadOps)
  bytesWrite := uint64 (stat.bytesWrite + ios.bytesWritten)
  numWriteOps := uint64 (stat.numWriteOps + ios.numWriteOps)
  readLatencyTime := uint64 (stat.readLatencyTime + uint64 (ios.readLatencyTicks * 1000000) / tickRate)
  writeLatencyTime := uint64 (stat.writeLatencyTime + uint64 (ios.writeLatencyTicks * 1000000) / tickRate)
  timeInQueue := uint64 (ios.timeInQueue * 1000000) / tickRate

/-- A tick rate of zero makes the conversions panic. -/
def addSubsystem (tickRate : ℕ) (statsMap : FiniteMap String SubsystemStatResp) (subsys : SubSystem) :
    Option (FiniteMap String SubsystemStatResp) :=
  if tickRate = 0 then none
  else some (statsMap.insert subsys.ios.subsysName
    (addIos tickRate ((statsMap.lookup subsys.ios.subsysName).getD {}) subsys.ios))

/-- The answer is what `client` and `NVMFGetStats` give. -/
def getTargetStats (answer : Except String SubsystemStat) :
    Option (Except String (Multiset SubsystemStatResp)) :=
  match answer with
  | .error err => some (.error err)
  | .ok stats =>
    (stats.pollGroups.foldlM
      (fun statsMap (group : PoolGroup) => group.subsystems.foldlM (addSubsystem stats.tickRate) statsMap) ∅).map
        fun statsMap => .ok (FiniteMap.values statsMap)

namespace SubsystemStat

variable (report : SubsystemStat)

def ios : List Ios := report.pollGroups.flatMap fun group => group.subsystems.map SubSystem.ios

def iosOf (name : String) : List Ios := report.ios.filter fun ios => ios.subsysName = name

def sumOf (name : String) (number : Ios → ℕ) : ℕ := ((report.iosOf name).map number).sum

def micros (ticks : ℕ) : ℕ := ticks * 1000000 / report.tickRate

def total (name : String) : SubsystemStatResp where
  subsysName := name
  bytesRead := report.sumOf name Ios.bytesRead
  numReadOps := report.sumOf name Ios.numReadOps
  bytesWrite := report.sumOf name Ios.bytesWritten
  numWriteOps := report.sumOf name Ios.numWriteOps
  readLatencyTime := report.sumOf name fun ios => report.micros ios.readLatencyTicks
  writeLatencyTime := report.sumOf name fun ios => report.micros ios.writeLatencyTicks
  timeInQueue := report.sumOf name fun ios => report.micros ios.timeInQueue

end SubsystemStat

def SubsystemStatResp.numbers (resp : SubsystemStatResp) : List ℕ :=
  [resp.bytesRead, resp.numReadOps, resp.bytesWrite, resp.numWriteOps, resp.readLatencyTime,
    resp.writeLatencyTime, resp.timeInQueue]

/-- No product and no sum of the report leaves the range of `uint64`. -/
def SubsystemStat.NoOverflow (report : SubsystemStat) : Prop :=
  ∀ ios ∈ report.ios,
    (∀ ticks ∈ [ios.readLatencyTicks, ios.writeLatencyTicks, ios.timeInQueue], ticks * 1000000 < 2 ^ 64) ∧
    ∀ number ∈ (report.total ios.subsysName).numbers, number < 2 ^ 64

instance (report : SubsystemStat) : Decidable report.NoOverflow :=
  inferInstanceAs (Decidable (∀ _ ∈ _, _ ∧ _))

/-- Of the reports on one subsystem only the last has any time in the queue. -/
def SubsystemStat.QueuedLast (report : SubsystemStat) : Prop :=
  report.ios.Pairwise fun earlier later =>
    earlier.subsysName = later.subsysName → report.micros earlier.timeInQueue = 0

instance (report : SubsystemStat) : Decidable report.QueuedLast := inferInstanceAs (Decidable (List.Pairwise _ _))

theorem uint64_of_lt {n : ℕ} (h : n < 2 ^ 64) : uint64 n = n := by
  rw [uint64]
  omega

theorem uint64_uint64_add (a b : ℤ) : uint64 (uint64 a + b) = uint64 (a + b) := by
  simp only [uint64]
  omega

theorem foldl_addIos (tickRate : ℕ) (items : List Ios) : items.foldl (addIos tickRate) {} =
    { subsysName := ((items.map Ios.subsysName).getLast?).getD ""
      bytesRead := uint64 (items.map Ios.bytesRead).sum
      numReadOps := uint64 (items.map Ios.numReadOps).sum
      bytesWrite := uint64 (items.map Ios.bytesWritten).sum
      numWriteOps := uint64 (items.map Ios.numWriteOps).sum
      readLatencyTime :=
        uint64 (items.map fun ios => uint64 (ios.readLatencyTicks * 1000000) / tickRate).sum
      writeLatencyTime :=
        uint64 (items.map fun ios => uint64 (ios.writeLatencyTicks * 1000000) / tickRate).sum
      timeInQueue :=
        ((items.map fun ios => uint64 (ios.timeInQueue * 1000000) / tickRate).getLast?).getD 0 } := by
  induction items using List.reverseRecOn with
  | nil => rfl
  | append_singleton items ios ih =>
    rw [List.foldl_concat, ih, addIos]
    simp [uint64_uint64_add]

theorem addSubsystem_of_pos {tickRate : ℕ} (h : 0 < tickRate) :
    addSubsystem tickRate = fun statsMap subsys =>
      pure (Tally.record Ios.subsysName (addIos tickRate) {} statsMap subsys.ios) := by
  funext statsMap subsys
  exact if_neg h.ne'

theorem getTargetStats_of_pos {report : SubsystemStat} (h : 0 < report.tickRate) :
    getTargetStats (.ok report) =
      some (.ok (Tally.tally Ios.subsysName (addIos report.tickRate) {} report.ios).values) := by
  have hGroup : ∀ (statsMap : FiniteMap String SubsystemStatResp) (group : PoolGroup),
      group.subsystems.foldlM (addSubsystem report.tickRate) statsMap =
        pure ((group.subsystems.map SubSystem.ios).foldl
          (Tally.record Ios.subsysName (addIos report.tickRate) {}) statsMap) := by
    intro statsMap group
    rw [addSubsystem_of_pos h, List.foldlM_pure, List.foldl_map]
  rw [getTargetStats]
  simp only [hGroup, List.foldlM_pure]
  rw [Tally.tally, SubsystemStat.ios, List.foldl_flatMap]
  rfl

namespace SubsystemStat

variable {report : SubsystemStat}

theorem mem_iosOf {name : String} {ios : Ios} :
    ios ∈ report.iosOf name ↔ ios ∈ report.ios ∧ ios.subsysName = name := by
  simp [iosOf]

theorem map_micros (hFits : report.NoOverflow) {name : String} {ticks : Ios → ℕ}
    (hTicks : ∀ ios : Ios, ticks ios ∈ [ios.readLatencyTicks, ios.writeLatencyTicks, ios.timeInQueue]) :
    ((report.iosOf name).map fun ios => uint64 (ticks ios * 1000000) / report.tickRate) =
      (report.iosOf name).map fun ios => report.micros (ticks ios) := by
  apply List.map_congr_left
  intro ios hIos
  have hProduct := (hFits ios (mem_iosOf.mp hIos).1).1 (ticks ios) (hTicks ios)
  have hSame : uint64 (ticks ios * 1000000) = ticks ios * 1000000 := by
    exact_mod_cast uint64_of_lt hProduct
  rw [hSame, micros]

theorem foldl_iosOf (hFits : report.NoOverflow) {name : String} (hName : name ∈ report.ios.map Ios.subsysName) :
    (report.iosOf name).foldl (addIos report.tickRate) {} =
      { report.total name with
        timeInQueue := (((report.iosOf name).map fun ios => report.micros ios.timeInQueue).getLast?).getD 0 } := by
  obtain ⟨ios, hIos, rfl⟩ := List.mem_map.mp hName
  have hSums := (hFits ios hIos).2
  simp only [SubsystemStatResp.numbers, List.forall_mem_cons] at hSums
  obtain ⟨h1, h2, h3, h4, h5, h6, -⟩ := hSums
  rw [foldl_addIos, map_micros hFits (by simp), map_micros hFits (by simp), map_micros hFits (by simp)]
  simp only [total, SubsystemStatResp.mk.injEq]
  refine ⟨?_, uint64_of_lt h1, uint64_of_lt h2, uint64_of_lt h3, uint64_of_lt h4, uint64_of_lt h5,
    uint64_of_lt h6, trivial⟩
  have hMem : ios ∈ report.iosOf ios.subsysName := mem_iosOf.mpr ⟨hIos, rfl⟩
  cases hLast : (report.iosOf ios.subsysName).getLast? with
  | none =>
    rw [List.getLast?_eq_none_iff.mp hLast] at hMem
    cases hMem
  | some last =>
    rw [List.getLast?_map, hLast]
    exact (mem_iosOf.mp (List.mem_of_getLast? hLast)).2

theorem queuedLast_iff : report.QueuedLast ↔ ∀ name,
    (((report.iosOf name).map fun ios => report.micros ios.timeInQueue).getLast?).getD 0 =
      (report.total name).timeInQueue := by
  have hName : ∀ name, (((report.iosOf name).map fun ios => report.micros ios.timeInQueue).getLast?).getD 0 =
      (report.total name).timeInQueue ↔ report.ios.Pairwise fun earlier later =>
        earlier.subsysName = name → later.subsysName = name → report.micros earlier.timeInQueue = 0 := by
    intro name
    change _ = ((report.iosOf name).map _).sum ↔ _
    rw [Tally.last_eq_sum_iff, List.pairwise_map, iosOf, List.pairwise_filter]
    simp
  simp only [hName, QueuedLast, List.pairwise_iff_forall_sublist]
  constructor
  · intro h name earlier later hSub hEarlier hLater
    exact h hSub (hEarlier.trans hLater.symm)
  · intro h earlier later hSub hSame
    exact h later.subsysName hSub hSame rfl

end SubsystemStat

/-- Each subsystem of the report has one entry with its sums exactly when its
time in the queue comes from the last poll group alone. -/
theorem getTargetStats_sums_iff (report : SubsystemStat) (hRate : 0 < report.tickRate)
    (hFits : report.NoOverflow) :
    getTargetStats (.ok report) =
        some (.ok ((report.ios.map Ios.subsysName).toFinset.val.map report.total)) ↔ report.QueuedLast := by
  rw [getTargetStats_of_pos hRate, Tally.values_tally, Option.some.injEq, Except.ok.injEq,
    SubsystemStat.queuedLast_iff]
  have hEntry : ∀ name ∈ (report.ios.map Ios.subsysName).toFinset.val,
      (report.iosOf name).foldl (addIos report.tickRate) {} = { report.total name with
        timeInQueue := (((report.iosOf name).map fun ios => report.micros ios.timeInQueue).getLast?).getD 0 } :=
    fun name hName => SubsystemStat.foldl_iosOf hFits (List.mem_toFinset.mp hName)
  change Multiset.map (fun name => (report.iosOf name).foldl (addIos report.tickRate) {}) _ = _ ↔ _
  rw [Tally.map_eq_map_iff SubsystemStatResp.subsysName (fun name hName => by rw [hEntry name hName]; rfl)
    fun _ _ => rfl]
  constructor
  · intro h name
    by_cases hName : name ∈ (report.ios.map Ios.subsysName).toFinset.val
    · have hSame := (hEntry name hName).symm.trans (h name hName)
      exact congrArg SubsystemStatResp.timeInQueue hSame
    · have hNone : report.iosOf name = [] := by
        rw [SubsystemStat.iosOf, List.filter_eq_nil_iff]
        intro ios hIos
        simpa using fun hSame => hName (by simpa using ⟨ios, hIos, hSame⟩)
      simp [SubsystemStat.total, SubsystemStat.sumOf, hNone]
  · intro h name hName
    rw [hEntry name hName, h name]

def twoGroups : SubsystemStat where
  tickRate := 1000000
  pollGroups := [⟨[⟨{ subsysName := "s", timeInQueue := 3 }⟩]⟩, ⟨[⟨{ subsysName := "s", timeInQueue := 4 }⟩]⟩]

theorem twoGroups_not_summed : 0 < twoGroups.tickRate ∧ twoGroups.NoOverflow ∧
    getTargetStats (.ok twoGroups) = some (.ok {{ subsysName := "s", timeInQueue := 4 }}) ∧
    (twoGroups.total "s").timeInQueue = 7 ∧ getTargetStats (.ok twoGroups) ≠
      some (.ok ((twoGroups.ios.map Ios.subsysName).toFinset.val.map twoGroups.total)) := by
  decide +kernel

def lastGroup : SubsystemStat where
  tickRate := 1000000
  pollGroups := [⟨[⟨{ subsysName := "s", bytesRead := 5 }⟩]⟩,
    ⟨[⟨{ subsysName := "s", bytesRead := 6, timeInQueue := 4 }⟩]⟩]

theorem lastGroup_summed : getTargetStats (.ok lastGroup) =
    some (.ok ((lastGroup.ios.map Ios.subsysName).toFinset.val.map lastGroup.total)) :=
  (getTargetStats_sums_iff lastGroup (by decide) (by decide)).mpr (by decide)

end Liteio.Spdk
