import Liteio.Scheduler.Choice

/-! # Scheduling a volume that has no host node

The basic filter, the filter for local storage and the priority for the position
read the host node of the volume without asking whether it is set. Whether a call
comes to them depends on the order of the filters, since a filter that rejects a
node keeps the node from those after it, and on the nodes that are left for the
priorities.
-/

namespace Liteio

open MachineInt

namespace FilterChain

def ReadsHost (vol : AntstorVolume) (n : Node) (name : String) : Prop :=
  name = "MinLocalStorage" ∨ name = "Basic" ∧ n.pool.isSchedulable = true ∧
    vol.annotationAt reservationIDKey = none ∧ (int64 vol.spec.sizeByte : ℚ) ≤ n.freeStorage ∧
    (tgtConditionOk n.pool = true ∨ n.pool.spec.spdkLVStore.name = "")

def Rejects (K : Kube) (cfg : SchedulerConfig) (vol : AntstorVolume) (n : Node) (name : String) : Prop :=
  ∃ f n' reason, getFilterByName K name = some f ∧ f cfg vol n = some (n', .reject reason)

/-- Each of the filters that reads the host node comes after one that rejects
this node. -/
def HostUnread (K : Kube) (cfg : SchedulerConfig) (vol : AntstorVolume) (n : Node) (names : List String) : Prop :=
  ∀ before name after, names = before ++ name :: after → ReadsHost vol n name →
    ∃ other ∈ before, Rejects K cfg vol n other

variable {K : Kube} {cfg : SchedulerConfig} {vol : AntstorVolume} {n n' : Node}

theorem basicFilterFunc_eq_none_iff (hHost : vol.spec.hostNode = none) :
    basicFilterFunc cfg vol n = none ↔ n.pool.isSchedulable = true ∧
      vol.annotationAt reservationIDKey = none ∧ (int64 vol.spec.sizeByte : ℚ) ≤ n.freeStorage ∧
      (tgtConditionOk n.pool = true ∨ n.pool.spec.spdkLVStore.name = "") := by
  unfold basicFilterFunc
  split
  · rename_i hPool
    simp_all
  · rename_i hPool
    rw [Bool.not_eq_true', Bool.not_eq_false] at hPool
    rw [and_iff_right hPool, ← @matchReservationFilter_eq_none vol n]
    split
    · rename_i verdict hMatch
      simp [hMatch]
    · rename_i hMatch
      rw [and_iff_right hMatch]
      change (if n.freeStorage < _ then _ else _) = none ↔ _
      split
      · rename_i hFree
        simp [hFree]
      · rename_i hFree
        rw [and_iff_right (not_lt.mp hFree), hHost]
        change (if !tgtConditionOk n.pool && n.pool.spec.spdkLVStore.name ≠ "" then _ else _) = none ↔ _
        cases tgtConditionOk n.pool <;> simp

theorem filter_eq_none_iff {name : String} {f : PredicateFunc} (hName : getFilterByName K name = some f)
    (hHost : vol.spec.hostNode = none) : f cfg vol n = none ↔ ReadsHost vol n name := by
  unfold getFilterByName at hName
  split at hName
  · rename_i hBasic
    cases hName
    rw [basicFilterFunc_eq_none_iff hHost]
    simp [ReadsHost, hBasic]
  · rename_i hBasic
    split at hName
    · rename_i hAffinity
      cases hName
      simp [affinityFilterFunc, ReadsHost, hAffinity]
    · split at hName
      · rename_i hLocal
        cases hName
        simp [minLocalStorageFilterFunc, hHost, ReadsHost, hLocal]
      · rename_i hLocal
        split at hName
        · rename_i hReplica
          cases hName
          simp [obReplicaFilterFunc, ReadsHost, hReplica]
        · cases hName

theorem registered_of_readsHost {name : String} (h : ReadsHost vol n name) : ∃ f, getFilterByName K name = some f := by
  rcases h with rfl | ⟨rfl, -⟩
  · exact ⟨minLocalStorageFilterFunc K, rfl⟩
  · exact ⟨basicFilterFunc, rfl⟩

/-- Without a host node a filter that passes has not settled the node: the basic
filter passes by a reservation only. -/
theorem filter_pass_same {name : String} {f : PredicateFunc} (hName : getFilterByName K name = some f)
    (hHost : vol.spec.hostNode = none) (h : f cfg vol n = some (n', .pass)) : n' = n := by
  rcases getFilterByName_cases hName with rfl | hOther
  · rcases basicFilterFunc_pass h with ⟨hSame, -⟩ | ⟨-, -, -, host, hSome, -⟩
    · exact hSame
    · rw [hHost] at hSome
      cases hSome
  · obtain ⟨verdict, hVerdict, -⟩ := hOther cfg vol n
    obtain ⟨_, _, hSame⟩ := Option.map_eq_some_iff.mp (hVerdict.symm.trans h)
    exact (congrArg Prod.fst hSame).symm

theorem hostUnread_cons {name : String} {names : List String} : HostUnread K cfg vol n (name :: names) ↔
    ¬ ReadsHost vol n name ∧ (Rejects K cfg vol n name ∨ HostUnread K cfg vol n names) := by
  constructor
  · intro h
    refine ⟨fun hReads => ?_, ?_⟩
    · obtain ⟨_, hOther, _⟩ := h [] name names rfl hReads
      cases hOther
    · by_cases hRejects : Rejects K cfg vol n name
      · exact .inl hRejects
      · refine .inr fun before other after hNames hReads => ?_
        obtain ⟨first, hFirst, hRejected⟩ := h (name :: before) other after (by rw [hNames]; rfl) hReads
        rcases List.mem_cons.mp hFirst with rfl | hBefore
        · exact absurd hRejected hRejects
        · exact ⟨first, hBefore, hRejected⟩
  · rintro ⟨hReads, hRest⟩ before other after hNames hOther
    cases before with
    | nil =>
      cases hNames
      exact absurd hOther hReads
    | cons first before =>
      cases hNames
      rcases hRest with hRejects | hRest
      · exact ⟨name, List.mem_cons_self, hRejects⟩
      · obtain ⟨earlier, hMem, hRejected⟩ := hRest before other after rfl hOther
        exact ⟨earlier, List.mem_cons_of_mem name hMem, hRejected⟩

/-- The chain returns exactly when no filter it comes to reads the host node, and
passes the node exactly when moreover no filter rejects it. -/
theorem passAllFilters_of_no_host (hHost : vol.spec.hostNode = none) (names : List String) :
    ((passAllFilters cfg vol (names.filterMap (getFilterByName K)) n).isSome ↔
      HostUnread K cfg vol n names) ∧
    ((∃ n', passAllFilters cfg vol (names.filterMap (getFilterByName K)) n = some (n', .pass)) ↔
      HostUnread K cfg vol n names ∧ ∀ name ∈ names, ¬ Rejects K cfg vol n name) := by
  induction names with
  | nil => simp [passAllFilters, HostUnread]
  | cons name names ih =>
    rw [hostUnread_cons, List.filterMap_cons, List.forall_mem_cons]
    cases hName : getFilterByName K name with
    | none =>
      have hReads : ¬ ReadsHost vol n name := by
        intro hReads
        obtain ⟨f, hf⟩ := @registered_of_readsHost K vol n name hReads
        rw [hName] at hf
        cases hf
      have hRejects : ¬ Rejects K cfg vol n name := by
        rintro ⟨f, _, _, hf, _⟩
        rw [hName] at hf
        cases hf
      simpa [hReads, hRejects] using ih
    | some f =>
      have hNone := @filter_eq_none_iff K cfg vol n name f hName hHost
      have hRejects : Rejects K cfg vol n name ↔ ∃ n' reason, f cfg vol n = some (n', .reject reason) := by
        simp [Rejects, hName]
      dsimp only
      rw [passAllFilters, hRejects]
      cases hf : f cfg vol n with
      | none => simp [hNone.mp hf]
      | some out =>
        have hReads : ¬ ReadsHost vol n name := by
          rw [← hNone, hf]
          exact Option.some_ne_none out
        obtain ⟨next, verdict⟩ := out
        cases verdict with
        | reject reason => simp [hReads]
        | pass =>
          rw [filter_pass_same hName hHost hf]
          simpa [hReads] using ih

end FilterChain

namespace Priority

def ReadsHost (cfg : SchedulerConfig) (vol : AntstorVolume) : Prop :=
  "PositionAdvice" ∈ cfg.priorities ∧
    (vol.spec.positionAdvice = .preferLocal ∨ vol.spec.positionAdvice = .preferRemote)

variable {K : Kube} {cfg : SchedulerConfig} {vol : AntstorVolume}

theorem priorityByPositionAdivce_isSome_iff (hHost : vol.spec.hostNode = none) (n : Node) :
    (priorityByPositionAdivce vol n).isSome ↔
      ¬ (vol.spec.positionAdvice = .preferLocal ∨ vol.spec.positionAdvice = .preferRemote) := by
  unfold priorityByPositionAdivce
  split <;> simp_all

theorem result_isSome_iff (hHost : vol.spec.hostNode = none) (n : Node) :
    (result (loadPriorityFromConfig K cfg) vol n).isSome ↔ ¬ ReadsHost cfg vol := by
  rw [result, Option.isSome_map, Traverse.mapM_isSome_iff]
  constructor
  · rintro h ⟨hName, hAdvice⟩
    have hMem : priorityByPositionAdivce ∈ loadPriorityFromConfig K cfg :=
      List.mem_filterMap.mpr ⟨"PositionAdvice", hName, rfl⟩
    exact (priorityByPositionAdivce_isSome_iff hHost n).mp (h _ hMem) hAdvice
  · intro h pfunc hMem
    obtain ⟨name, hPriority, hName⟩ := List.mem_filterMap.mp hMem
    unfold getPriorityByName at hName
    split at hName
    · cases hName
      unfold priorityByLeastResource
      dsimp only
      split <;> rfl
    · split at hName
      · rename_i hPosition
        cases hName
        exact (priorityByPositionAdivce_isSome_iff hHost n).mpr fun hAdvice => h ⟨hPosition ▸ hPriority, hAdvice⟩
      · cases hName

end Priority

/-- No filter reads the host node of the volume for any of the nodes, and if the
priority for the position would, no node is left for it. -/
structure HostUnused (K : Kube) (cfg : SchedulerConfig) (nodes : List Node) (vol : AntstorVolume) : Prop where
  filters : ∀ n ∈ nodes, FilterChain.HostUnread K cfg vol n cfg.filters
  priorities : Priority.ReadsHost cfg vol → ∀ n ∈ nodes, ∃ name ∈ cfg.filters, FilterChain.Rejects K cfg vol n name

section

variable {K : Kube} {sorter : Sorter Priority.better} {cfg : SchedulerConfig} {nodes : List Node}
  {vol : AntstorVolume}

theorem FilterChain.matchEach_isSome_iff (hHost : vol.spec.hostNode = none) :
    (matchEach cfg vol (loadFilterFromConfig K cfg) nodes).isSome ↔
      ∀ n ∈ nodes, HostUnread K cfg vol n cfg.filters := by
  rw [matchEach, Traverse.mapM_isSome_iff]
  exact forall₂_congr fun n _ => (passAllFilters_of_no_host hHost cfg.filters).1

theorem FilterChain.exists_candidate_iff (hHost : vol.spec.hostNode = none) {results : List (Node × Verdict)}
    (h : matchEach cfg vol (loadFilterFromConfig K cfg) nodes = some results) :
    candidates results ≠ [] ↔ ∃ n ∈ nodes, ∀ name ∈ cfg.filters, ¬ Rejects K cfg vol n name := by
  have hUnread := (matchEach_isSome_iff hHost).mp (Option.isSome_of_eq_some h)
  constructor
  · intro hSome
    obtain ⟨n', hn'⟩ := List.exists_mem_of_ne_nil _ hSome
    obtain ⟨n, hn, hPass⟩ := Traverse.exists_of_mem_mapM h (mem_candidates.mp hn')
    exact ⟨n, hn, ((passAllFilters_of_no_host hHost cfg.filters).2.mp ⟨n', hPass⟩).2⟩
  · rintro ⟨n, hn, hNone⟩
    obtain ⟨n', hPass⟩ := (passAllFilters_of_no_host hHost cfg.filters).2.mpr ⟨hUnread n hn, hNone⟩
    obtain ⟨out, hMem, hOut⟩ := Traverse.exists_of_mapM h hn
    rw [← Option.some.inj (hPass.symm.trans hOut)] at hMem
    exact List.ne_nil_of_mem (mem_candidates.mpr hMem)

theorem Priority.getFirstByScore_isSome_iff (hHost : vol.spec.hostNode = none) (hNodes : nodes ≠ []) :
    (getFirstByScore sorter (loadPriorityFromConfig K cfg) vol nodes).isSome ↔ ¬ ReadsHost cfg vol := by
  constructor
  · intro h
    obtain ⟨n, hn⟩ := List.exists_mem_of_ne_nil nodes hNodes
    rw [← @result_isSome_iff K cfg vol hHost n]
    refine Traverse.mapM_isSome_iff.mp ?_ n hn
    rw [getFirstByScore] at h
    split at h
    · cases h
    · rename_i resultList hResults
      exact Option.isSome_of_eq_some hResults
  · intro h
    exact getFirstByScore_isSome (fun n _ => (result_isSome_iff hHost n).mpr h) hNodes

theorem scheduleVolume_isSome_iff (hHost : vol.spec.hostNode = none)
    (hSelected : vol.annotationAt selectedTgtNodeKey = none) :
    (scheduleVolume K sorter cfg nodes vol).isSome ↔ HostUnused K cfg nodes vol := by
  rw [scheduleVolume, hSelected]
  dsimp only
  cases hEach : FilterChain.matchEach cfg vol (FilterChain.loadFilterFromConfig K cfg) nodes with
  | none =>
    refine iff_of_false Bool.false_ne_true fun h => ?_
    have hSome := (FilterChain.matchEach_isSome_iff hHost).mpr h.filters
    rw [hEach] at hSome
    cases hSome
  | some results =>
    have hFilters := (FilterChain.matchEach_isSome_iff hHost).mp (Option.isSome_of_eq_some hEach)
    have hLeft := FilterChain.exists_candidate_iff hHost hEach
    dsimp only
    cases hAll : FilterChain.matchAll results with
    | error err =>
      refine iff_of_true rfl ⟨hFilters, fun _ n hn => ?_⟩
      by_contra hKept
      push Not at hKept
      exact hLeft.mpr ⟨n, hn, hKept⟩ (FilterChain.candidates_of_matchAll_error hAll)
    | ok qualified =>
      have hSome := FilterChain.ne_nil_of_matchAll hAll
      rw [← FilterChain.candidates_of_matchAll hAll] at hSome
      dsimp only
      rw [Option.isSome_map, ← FilterChain.candidates_of_matchAll hAll,
        Priority.getFirstByScore_isSome_iff hHost hSome]
      constructor
      · intro hReads
        exact ⟨hFilters, fun h => absurd h hReads⟩
      · intro h hReads
        obtain ⟨n, hn, hKept⟩ := hLeft.mp hSome
        obtain ⟨name, hName, hRejects⟩ := h.priorities hReads n hn
        exact hKept name hName hRejects

end

end Liteio
