import Liteio.Scheduler.Winners

/-! # Scheduling is sound and optimal

The filters of the chain run one after the other on a node that the basic filter
may settle in between. No later filter can tell: a volume for which the basic
filter settles names no reservation. So a node qualifies exactly when each
configured filter accepts it as it stands, and the call returns one of those with
the highest sum of scores.
-/

namespace Liteio

open MachineInt FilterChain

def PassesAll (K : Kube) (cfg : SchedulerConfig) (vol : AntstorVolume) (n : Node) : Prop :=
  ∀ name ∈ cfg.filters, ∀ filterFunc, getFilterByName K name = some filterFunc →
    ∃ n', filterFunc cfg vol n = some (n', .pass)

def totalScore (K : Kube) (cfg : SchedulerConfig) (vol : AntstorVolume) (n : Node) : ℤ :=
  int64 (cfg.priorities.map fun name =>
    ((Priority.getPriorityByName K name).bind fun priorityFunc => priorityFunc vol n).getD 0).sum

/-- The node is left as it was, but for reservations that a bound volume stands
for. -/
structure OnlySettled (n n' : Node) : Prop where
  rest : n' = { n with resvSet := n'.resvSet }
  reservations : ∀ id, n'.getReservation id = n.getReservation id ∨
    n'.getReservation id = none ∧ ∃ vol ∈ n.volumes, getVolumeReservationID vol = id

theorem onlySettled_settle (n : Node) : OnlySettled n n.settle := by
  refine ⟨rfl, ?_⟩
  intro id
  change (n.resvSet.unreserveAll n.volResvIDs).getById id = _ ∨ _
  rw [ReservationSet.getById_unreserveAll]
  split
  · exact .inl rfl
  · rename_i hBound
    refine .inr ⟨?_, List.mem_map.mp (n.volResvIDs_subset (not_not.mp hBound))⟩
    change (n.resvSet.unreserveAll n.volResvIDs).getById id = none
    rw [ReservationSet.getById_unreserveAll, if_neg hBound]

theorem onlySettled_of_leaves {n n' : Node} (h : n' = n ∨ n' = n.settle) : OnlySettled n n' := by
  rcases h with rfl | rfl
  · exact ⟨rfl, fun _ => .inl rfl⟩
  · exact onlySettled_settle n

namespace FilterChain

variable {K : Kube} {cfg : SchedulerConfig} {vol : AntstorVolume} {n n' : Node}

theorem basicFilterFunc_eq (h : vol.annotationAt reservationIDKey = none) (n : Node) :
    basicFilterFunc cfg vol n =
      if !n.pool.isSchedulable then some (n, .reject (some reasonPoolUnschedulable))
      else if n.freeStorage < int64 vol.spec.sizeByte then some (n.settle, .reject (some reasonPoolFreeSize))
      else if !tgtConditionOk n.pool && n.pool.spec.spdkLVStore.name ≠ "" then
        some (n.settle, .reject (some reasonSpdkUnhealthy))
      else vol.spec.hostNode.map fun host => (n.settle, .ofChecks (placementChecks cfg vol n host)) := by
  rw [basicFilterFunc, matchReservationFilter_eq_none.mpr h]
  rfl

theorem basicFilterFunc_settle (h : vol.annotationAt reservationIDKey = none) (n : Node) :
    (basicFilterFunc cfg vol n.settle).map Prod.snd = (basicFilterFunc cfg vol n).map Prod.snd := by
  rw [basicFilterFunc_eq h n, basicFilterFunc_eq h n.settle, Node.settle_freeStorage, Node.settle_pool]
  split
  · rfl
  · split
    · rfl
    · split
      · rfl
      · rw [Option.map_map, Option.map_map]
        rfl

theorem basicFilterFunc_reservation {verdict : Verdict} (hReservation : vol.annotationAt reservationIDKey ≠ none)
    (h : basicFilterFunc cfg vol n = some (n', verdict)) : n' = n := by
  unfold basicFilterFunc at h
  split at h
  · cases h
    rfl
  · split at h
    · cases h
      rfl
    · rename_i hNone
      exact absurd (matchReservationFilter_eq_none.mp hNone) hReservation

theorem verdict_of_leaves {name other : String} {f g : PredicateFunc} {verdict : Verdict}
    (hf : getFilterByName K name = some f) (hg : getFilterByName K other = some g)
    (h : f cfg vol n = some (n', verdict)) :
    (g cfg vol n').map Prod.snd = (g cfg vol n).map Prod.snd := by
  rcases getFilterByName_leaves hf h with rfl | rfl
  · rfl
  · rcases getFilterByName_cases hg with rfl | hOther
    · by_cases hReservation : vol.annotationAt reservationIDKey = none
      · exact basicFilterFunc_settle hReservation n
      · rcases getFilterByName_cases hf with rfl | hKeeps
        · rw [basicFilterFunc_reservation hReservation h]
        · obtain ⟨_, hVerdict, _⟩ := hKeeps cfg vol n
          obtain ⟨_, _, hSame⟩ := Option.map_eq_some_iff.mp (hVerdict.symm.trans h)
          rw [← (Prod.mk.inj hSame).1]
    · obtain ⟨_, hNode, hSettled⟩ := hOther cfg vol n
      rw [hNode, hSettled, Option.map_map, Option.map_map]
      rfl

theorem exists_pass_iff {f : PredicateFunc} :
    (∃ n', f cfg vol n = some (n', .pass)) ↔ (f cfg vol n).map Prod.snd = some .pass := by
  simp [Option.map_eq_some_iff]

/-- The chain passes on a node exactly when each filter by itself does. -/
theorem passAllFilters_iff {filters : List PredicateFunc}
    (hFilters : ∀ f ∈ filters, ∃ name, getFilterByName K name = some f) :
    (∃ n', passAllFilters cfg vol filters n = some (n', .pass)) ↔
      ∀ f ∈ filters, ∃ n', f cfg vol n = some (n', .pass) := by
  induction filters generalizing n with
  | nil => simp [passAllFilters]
  | cons f filters ih =>
    obtain ⟨name, hName⟩ := hFilters f List.mem_cons_self
    have hRest : ∀ g ∈ filters, ∃ name, getFilterByName K name = some g :=
      fun g hg => hFilters g (List.mem_cons_of_mem f hg)
    rw [List.forall_mem_cons, passAllFilters]
    cases hf : f cfg vol n with
    | none => simp
    | some out =>
      obtain ⟨m, verdict⟩ := out
      cases verdict with
      | reject reason => simp
      | pass =>
        have hSame : (∀ g ∈ filters, ∃ n', g cfg vol m = some (n', .pass)) ↔
            ∀ g ∈ filters, ∃ n', g cfg vol n = some (n', .pass) := by
          refine forall₂_congr fun g hg => ?_
          obtain ⟨other, hOther⟩ := hRest g hg
          rw [exists_pass_iff, exists_pass_iff, verdict_of_leaves hName hOther hf]
        rw [ih hRest, hSame]
        exact (and_iff_right ⟨m, rfl⟩).symm

theorem exists_qualifies_iff : (∃ n', Qualifies K cfg vol n n') ↔ PassesAll K cfg vol n := by
  refine (passAllFilters_iff (forall_loadFilterFromConfig K cfg)).trans ?_
  simp only [mem_loadFilterFromConfig, PassesAll]
  constructor
  · intro h name hName f hf
    exact h f ⟨name, hName, hf⟩
  · rintro h f ⟨name, hName, hf⟩
    exact h name hName f hf

end FilterChain

section

variable {K : Kube} {cfg : SchedulerConfig} {vol : AntstorVolume} {allNodes : List Node}

theorem Priority.getPriorityByName_congr {name : String} {pfunc : PriorityFunc} {n n' : Node}
    (h : getPriorityByName K name = some pfunc) (hPool : n'.pool = n.pool) : pfunc vol n' = pfunc vol n := by
  unfold getPriorityByName at h
  split at h
  · cases h
    rw [priorityByLeastResource, priorityByLeastResource, hPool]
  · split at h
    · cases h
      rw [priorityByPositionAdivce, priorityByPositionAdivce, hPool]
    · cases h

theorem totalScore_congr {n n' : Node} (hPool : n'.pool = n.pool) :
    totalScore K cfg vol n' = totalScore K cfg vol n := by
  unfold totalScore
  congr 2
  refine List.map_congr_left fun name _ => ?_
  cases hName : Priority.getPriorityByName K name with
  | none => rfl
  | some pfunc => rw [Option.bind_some, Option.bind_some, Priority.getPriorityByName_congr hName hPool]

theorem totalScore_eq (n : Node) : totalScore K cfg vol n =
    int64 ((Priority.loadPriorityFromConfig K cfg).map fun pfunc => (pfunc vol n).getD 0).sum := by
  unfold totalScore Priority.loadPriorityFromConfig
  congr 1
  induction cfg.priorities with
  | nil => rfl
  | cons name rest ih => cases hName : Priority.getPriorityByName K name <;> simp [hName, ih]

theorem Priority.result_score {n : Node} {r : PriorityResult}
    (h : result (loadPriorityFromConfig K cfg) vol n = some r) : r.score = totalScore K cfg vol n := by
  obtain ⟨scores, hScores, rfl⟩ := Option.map_eq_some_iff.mp h
  have hEach : scores = (loadPriorityFromConfig K cfg).map fun pfunc => (pfunc vol n).getD 0 := by
    have hScore : List.Forall₂ (fun pfunc score => (pfunc vol n).getD 0 = score)
        (loadPriorityFromConfig K cfg) scores :=
      (Traverse.forall₂_of_mapM hScores).imp fun pfunc score hScore => by rw [hScore, Option.getD_some]
    rw [← List.forall₂_map_left_iff, List.forall₂_eq_eq_eq] at hScore
    exact hScore.symm
  have hSum := foldl_addInt64 (fun score : ℤ => score) scores 0
  rw [int64_zero, zero_add, List.map_id'] at hSum
  rw [totalScore_eq, ← hEach, ← hSum]

structure Chosen (K : Kube) (cfg : SchedulerConfig) (vol : AntstorVolume) (allNodes : List Node) (n : Node) :
    Prop where
  mem : n ∈ allNodes
  passes : PassesAll K cfg vol n
  optimal : ∀ m ∈ allNodes, PassesAll K cfg vol m → totalScore K cfg vol m ≤ totalScore K cfg vol n

theorem chosen_of_wins {n : Node} (hHost : vol.spec.hostNode.isSome) (hMem : n ∈ allNodes)
    (h : Wins K cfg vol allNodes n) : Chosen K cfg vol allNodes n := by
  obtain ⟨n', r, hQualifies, hResult, hMax⟩ := h
  refine ⟨hMem, exists_qualifies_iff.mp ⟨n', hQualifies⟩, ?_⟩
  intro m hm hPasses
  obtain ⟨m', hOther⟩ := exists_qualifies_iff.mpr hPasses
  obtain ⟨s, hs⟩ := Option.isSome_iff_exists.mp (@Priority.result_total K cfg vol hHost m')
  have hLe := hMax m hm m' s hOther hs
  rwa [Priority.result_score hs, Priority.result_score hResult, totalScore_congr hOther.pool,
    totalScore_congr hQualifies.pool] at hLe

theorem candidates_eq_nil_iff {results : List (Node × Verdict)}
    (h : matchEach cfg vol (loadFilterFromConfig K cfg) allNodes = some results) :
    candidates results = [] ↔ ∀ n ∈ allNodes, ¬ PassesAll K cfg vol n := by
  simp only [List.eq_nil_iff_forall_not_mem, mem_candidates_matchEach h, ← exists_qualifies_iff]
  constructor
  · rintro hNone n hn ⟨n', hQualifies⟩
    exact hNone n' ⟨n, hn, hQualifies⟩
  · rintro hNone n' ⟨n, hn, hQualifies⟩
    exact hNone n hn ⟨n', hQualifies⟩

structure SoundOptimal (K : Kube) (cfg : SchedulerConfig) (allNodes : List Node) (vol : AntstorVolume)
    (out : Scheduled) : Prop where
  nodes : List.Forall₂ OnlySettled allNodes out.nodes
  error_iff : (∃ err, out.result = .error err) ↔ ∀ n ∈ allNodes, ¬ PassesAll K cfg vol n
  chosen : ∀ info, out.result = .ok info → ∃ n, n.info = info ∧ Chosen K cfg vol allNodes n ∧
    out.vol = { vol with spec := { vol.spec with targetNodeId := info.id } }

theorem scheduleVolume_soundOptimal (K : Kube) (sorter : Sorter Priority.better) (cfg : SchedulerConfig)
    {allNodes : List Node} {vol : AntstorVolume} (hDistinct : DistinctIds allNodes)
    (hSelected : vol.annotationAt selectedTgtNodeKey = none) (hHost : vol.spec.hostNode.isSome) :
    ∃ out, scheduleVolume K sorter cfg allNodes vol = some out ∧ SoundOptimal K cfg allNodes vol out := by
  obtain ⟨out, hOut⟩ := Option.isSome_iff_exists.mp (scheduleVolume_total K sorter cfg allNodes hHost)
  obtain ⟨results, hEach⟩ := Option.isSome_iff_exists.mp
    (matchEach_isSome_iff.mpr fun n _ => (@evaluates_of_host K cfg vol hHost n).1)
  have hResult := scheduleVolume_of_candidates hSelected hEach sorter
  rw [hOut, Option.map_some] at hResult
  refine ⟨out, hOut, (scheduleVolume_leaves hOut).imp fun _ _ => onlySettled_of_leaves, ?_, ?_⟩
  · rw [← candidates_eq_nil_iff hEach]
    split at hResult
    · rename_i hNone
      exact iff_of_true ⟨_, Option.some.inj hResult⟩ hNone
    · rename_i hSome
      obtain ⟨n, _, hOk⟩ := Option.map_eq_some_iff.mp hResult.symm
      rw [← hOk]
      exact iff_of_false (by simp) hSome
  · intro info hInfo
    obtain ⟨_, _, hChosen, hVol, _⟩ := scheduleVolume_chosen hSelected hOut hInfo
    rw [← hChosen] at hVol
    rw [hInfo] at hResult
    split at hResult
    · cases hResult
    · obtain ⟨n', hFirst, hOk⟩ := Option.map_eq_some_iff.mp hResult.symm
      have hBest := Priority.best_of_getFirstByScore (distinctIds_candidates hDistinct hEach) hFirst
      obtain ⟨n, hMem, hQualifies⟩ := (mem_candidates_matchEach hEach).mp (Priority.mem_of_getFirstByScore hFirst)
      have hWins := (best_candidates_iff hEach hQualifies).mp hBest
      refine ⟨n, ?_, chosen_of_wins hHost hMem hWins, hVol⟩
      rw [Node.info, ← hQualifies.pool]
      exact Except.ok.inj hOk

end

def otherPool : StoragePool :=
  { readyPool with
    spec := { nodeInfo := { id := "m" } }
    status := { readyPool.status with conditions := [⟨.spdk, .ok, ""⟩] } }

def hostAndOther : List Node := [.newNode otherPool, .newNode readyPool]

def preferringVolume : AntstorVolume :=
  { localVolume none with spec := { (localVolume none).spec with positionAdvice := .preferLocal } }

/-- Both nodes are left by the filters, and the second has the higher score. -/
theorem hostAndOther_soundOptimal :
    ((matchEach basicAndAffinity preferringVolume (loadFilterFromConfig .exact basicAndAffinity) hostAndOther).map
        fun results => (candidates results).map Node.info) = some (hostAndOther.map Node.info) ∧
      (scheduleVolume .exact Priority.insertion basicAndAffinity hostAndOther preferringVolume).map
        (fun out => out.result.toOption.map NodeInfo.id) = some (some "n") ∧
      ∃ out, scheduleVolume .exact Priority.insertion basicAndAffinity hostAndOther preferringVolume = some out ∧
        SoundOptimal .exact basicAndAffinity hostAndOther preferringVolume out := by
  refine ⟨by decide +kernel, by decide +kernel, scheduleVolume_soundOptimal .exact Priority.insertion _ ?_ ?_ ?_⟩
  · intro n hn m hm hId
    revert n m
    decide +kernel
  · decide
  · decide

end Liteio
