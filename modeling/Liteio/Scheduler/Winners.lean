import Liteio.Scheduler.Choice

/-! # The nodes a volume may be given

Among the nodes that pass every filter the scheduler takes one with the highest
score, and which one of those depends on the sorting routine. A property of the
node holds whatever the routine is exactly when every such node has it.
-/

namespace Liteio

open FilterChain

/-- The call returns, with an error or with a node that has the property. -/
def RejectedOr (P : NodeInfo → Prop) (out : Option Scheduled) : Prop :=
  match out.map Scheduled.result with
  | none => False
  | some (.error _) => True
  | some (.ok info) => P info

instance (P : NodeInfo → Prop) [DecidablePred P] (out : Option Scheduled) : Decidable (RejectedOr P out) :=
  match h : out.map Scheduled.result with
  | none => .isFalse (by simp [RejectedOr, h])
  | some (.error _) => .isTrue (by simp [RejectedOr, h])
  | some (.ok info) => decidable_of_iff (P info) (by simp [RejectedOr, h])

def DistinctIds (nodes : List Node) : Prop := ∀ n ∈ nodes, ∀ m ∈ nodes, n.info.id = m.info.id → n = m

theorem DistinctIds.find_iff {nodes : List Node} (h : DistinctIds nodes) {id : String} {n : Node} :
    (nodes.find? fun node => node.pool.spec.nodeInfo.id = id) = some n ↔ n ∈ nodes ∧ n.info.id = id := by
  constructor
  · intro hFound
    exact ⟨List.mem_of_find?_eq_some hFound, by simpa [Node.info] using List.find?_some hFound⟩
  · rintro ⟨hMem, rfl⟩
    have hSome : (nodes.find? fun node => node.pool.spec.nodeInfo.id = n.info.id).isSome :=
      List.find?_isSome.mpr ⟨n, hMem, by simp [Node.info]⟩
    obtain ⟨m, hm⟩ := Option.isSome_iff_exists.mp hSome
    have hId : m.info.id = n.info.id := by
      have hFound := List.find?_some hm
      rwa [decide_eq_true_eq] at hFound
    rw [hm, h m (List.mem_of_find?_eq_some hm) n hMem hId]

namespace Priority

variable {funcs : List PriorityFunc} {vol : AntstorVolume} {nodes : List Node}

def Best (funcs : List PriorityFunc) (vol : AntstorVolume) (nodes : List Node) (n : Node) : Prop :=
  ∃ r, result funcs vol n = some r ∧ ∀ m ∈ nodes, ∀ s, result funcs vol m = some s → s.score ≤ r.score

theorem results_of_getFirstByScore {sorter : Sorter better} {n : Node}
    (h : getFirstByScore sorter funcs vol nodes = some n) : ∀ m ∈ nodes, (result funcs vol m).isSome := by
  unfold getFirstByScore at h
  split at h
  · cases h
  · rename_i resultList hResults
    intro m hm
    obtain ⟨s, -, hs⟩ := Traverse.exists_of_mapM hResults hm
    rw [hs]
    rfl

theorem best_of_getFirstByScore {sorter : Sorter better} (hDistinct : DistinctIds nodes) {n : Node}
    (h : getFirstByScore sorter funcs vol nodes = some n) : Best funcs vol nodes n := by
  unfold getFirstByScore at h
  split at h
  · cases h
  · rename_i resultList hResults
    split at h
    · cases h
    · rename_i best rest hSorted
      have hBest : best ∈ resultList := sorter.mem_sort.mp (hSorted ▸ List.mem_cons_self)
      obtain ⟨m, hm, hResult⟩ := Traverse.exists_of_mem_mapM hResults hBest
      obtain ⟨hMem, hId⟩ := hDistinct.find_iff.mp h
      obtain rfl := hDistinct n hMem m hm (hId.trans (result_nodeID hResult))
      refine ⟨best, hResult, ?_⟩
      intro other hOther s hs
      obtain ⟨s', hs', hEq⟩ := Traverse.exists_of_mapM hResults hOther
      rw [hs] at hEq
      obtain rfl := Option.some.inj hEq
      simpa [better] using sorter.not_less_head (by simp [better]) hSorted s hs'

theorem exists_getFirstByScore (hDistinct : DistinctIds nodes)
    (hResults : ∀ m ∈ nodes, (result funcs vol m).isSome) {n : Node} (hMem : n ∈ nodes)
    (hBest : Best funcs vol nodes n) : ∃ sorter, getFirstByScore sorter funcs vol nodes = some n := by
  obtain ⟨r, hr, hMax⟩ := hBest
  obtain ⟨resultList, hList⟩ := Option.isSome_iff_exists.mp (Traverse.mapM_isSome hResults)
  have hrMem : r ∈ resultList := by
    obtain ⟨r', hr', hEq⟩ := Traverse.exists_of_mapM hList hMem
    rw [hr] at hEq
    exact Option.some.inj hEq ▸ hr'
  have hFirst : ∀ s ∈ resultList, better s r = false := by
    intro s hs
    obtain ⟨m, hm, hResult⟩ := Traverse.exists_of_mem_mapM hList hs
    simpa [better] using hMax m hm s hResult
  refine ⟨insertion.preferring r, ?_⟩
  rw [getFirstByScore, hList]
  dsimp only
  rw [insertion.sort_preferring hrMem hFirst]
  exact hDistinct.find_iff.mpr ⟨hMem, (result_nodeID hr).symm⟩

theorem getFirstByScore_forall_iff (hDistinct : DistinctIds nodes) (hNodes : nodes ≠ [])
    (P : Node → Prop) :
    (∀ sorter, ∃ n, getFirstByScore sorter funcs vol nodes = some n ∧ P n) ↔
      (∀ m ∈ nodes, (result funcs vol m).isSome) ∧ ∀ n ∈ nodes, Best funcs vol nodes n → P n := by
  constructor
  · intro h
    obtain ⟨n, hFirst, -⟩ := h insertion
    have hResults := results_of_getFirstByScore hFirst
    refine ⟨hResults, ?_⟩
    intro m hm hBest
    obtain ⟨sorter, hSorter⟩ := exists_getFirstByScore hDistinct hResults hm hBest
    obtain ⟨m', hm', hP⟩ := h sorter
    rw [hSorter] at hm'
    exact Option.some.inj hm' ▸ hP
  · rintro ⟨hResults, hBest⟩ sorter
    obtain ⟨n, hFirst⟩ := Option.isSome_iff_exists.mp (getFirstByScore_isSome hResults hNodes)
    exact ⟨n, hFirst, hBest n (mem_of_getFirstByScore hFirst) (best_of_getFirstByScore hDistinct hFirst)⟩

end Priority

section

variable {K : Kube} {cfg : SchedulerConfig} {vol : AntstorVolume} {allNodes : List Node}

def Qualifies (K : Kube) (cfg : SchedulerConfig) (vol : AntstorVolume) (n n' : Node) : Prop :=
  passAllFilters cfg vol (loadFilterFromConfig K cfg) n = some (n', .pass)

/-- No filter panics on the node, and no priority does if the filters pass. -/
def Evaluates (K : Kube) (cfg : SchedulerConfig) (vol : AntstorVolume) (n : Node) : Prop :=
  (passAllFilters cfg vol (loadFilterFromConfig K cfg) n).isSome ∧
    ∀ n', Qualifies K cfg vol n n' →
      (Priority.result (Priority.loadPriorityFromConfig K cfg) vol n').isSome

def Wins (K : Kube) (cfg : SchedulerConfig) (vol : AntstorVolume) (allNodes : List Node) (n : Node) : Prop :=
  ∃ n' r, Qualifies K cfg vol n n' ∧
    Priority.result (Priority.loadPriorityFromConfig K cfg) vol n' = some r ∧
    ∀ m ∈ allNodes, ∀ m' s, Qualifies K cfg vol m m' →
      Priority.result (Priority.loadPriorityFromConfig K cfg) vol m' = some s → s.score ≤ r.score

theorem selected_rejectedOr_iff {nodeName : String} (h : vol.annotationAt selectedTgtNodeKey = some nodeName)
    (sorter : Sorter Priority.better) (P : String → Prop) :
    RejectedOr (fun info => P info.id) (scheduleVolume K sorter cfg allNodes vol) ↔ P nodeName := by
  obtain ⟨info, rfl, hOut⟩ := scheduleVolume_selected h
  rw [hOut]
  rfl

theorem Qualifies.pool {n n' : Node} (h : Qualifies K cfg vol n n') : n'.pool = n.pool :=
  (passAllFilters_pool (forall_loadFilterFromConfig K cfg) h).1

theorem mem_candidates_matchEach {results : List (Node × Verdict)}
    (h : matchEach cfg vol (loadFilterFromConfig K cfg) allNodes = some results) {n' : Node} :
    n' ∈ candidates results ↔ ∃ n ∈ allNodes, Qualifies K cfg vol n n' := by
  rw [mem_candidates]
  constructor
  · exact Traverse.exists_of_mem_mapM h
  · rintro ⟨n, hn, hQualifies⟩
    obtain ⟨b, hb, hEq⟩ := Traverse.exists_of_mapM h hn
    rw [hQualifies] at hEq
    exact Option.some.inj hEq ▸ hb

theorem distinctIds_candidates (hDistinct : DistinctIds allNodes) {results : List (Node × Verdict)}
    (h : matchEach cfg vol (loadFilterFromConfig K cfg) allNodes = some results) :
    DistinctIds (candidates results) := by
  intro n' hn' m' hm' hId
  obtain ⟨n, hn, hQualifies⟩ := (mem_candidates_matchEach h).mp hn'
  obtain ⟨m, hm, hOther⟩ := (mem_candidates_matchEach h).mp hm'
  rw [Node.info, Node.info, hQualifies.pool, hOther.pool] at hId
  obtain rfl := hDistinct n hn m hm hId
  rw [Qualifies, hQualifies] at hOther
  exact congrArg Prod.fst (Option.some.inj hOther)

theorem best_candidates_iff {results : List (Node × Verdict)}
    (h : matchEach cfg vol (loadFilterFromConfig K cfg) allNodes = some results) {n n' : Node}
    (hQualifies : Qualifies K cfg vol n n') :
    Priority.Best (Priority.loadPriorityFromConfig K cfg) vol (candidates results) n' ↔
      Wins K cfg vol allNodes n := by
  constructor
  · rintro ⟨r, hr, hMax⟩
    refine ⟨n', r, hQualifies, hr, ?_⟩
    intro m hm m' s hOther hs
    exact hMax m' ((mem_candidates_matchEach h).mpr ⟨m, hm, hOther⟩) s hs
  · rintro ⟨n'', r, hSame, hr, hMax⟩
    rw [Qualifies, hQualifies] at hSame
    obtain rfl := congrArg Prod.fst (Option.some.inj hSame)
    refine ⟨r, hr, ?_⟩
    intro m' hm' s hs
    obtain ⟨m, hm, hOther⟩ := (mem_candidates_matchEach h).mp hm'
    exact hMax m hm m' s hOther hs

theorem scheduleVolume_of_candidates (hSelected : vol.annotationAt selectedTgtNodeKey = none)
    {results : List (Node × Verdict)}
    (h : matchEach cfg vol (loadFilterFromConfig K cfg) allNodes = some results)
    (sorter : Sorter Priority.better) :
    (scheduleVolume K sorter cfg allNodes vol).map Scheduled.result =
      if candidates results = [] then some (.error (mergedError results))
      else (Priority.getFirstByScore sorter (Priority.loadPriorityFromConfig K cfg) vol
        (candidates results)).map fun n => .ok n.info := by
  rw [scheduleVolume, hSelected]
  dsimp only
  rw [h]
  dsimp only [matchAll]
  cases hCandidates : candidates results with
  | nil => rfl
  | cons n rest =>
    rw [if_neg (List.cons_ne_nil n rest)]
    simp only [Option.map_map]
    rfl

theorem evaluates_of_host (hHost : vol.spec.hostNode.isSome) (n : Node) : Evaluates K cfg vol n :=
  ⟨passAllFilters_total (forall_loadFilterFromConfig K cfg) hHost n, fun n' _ => Priority.result_total hHost n'⟩

theorem matchEach_isSome_iff :
    (matchEach cfg vol (loadFilterFromConfig K cfg) allNodes).isSome ↔
      ∀ n ∈ allNodes, (passAllFilters cfg vol (loadFilterFromConfig K cfg) n).isSome := by
  refine ⟨?_, Traverse.mapM_isSome⟩
  intro h n hn
  obtain ⟨results, hResults⟩ := Option.isSome_iff_exists.mp h
  obtain ⟨b, -, hb⟩ := Traverse.exists_of_mapM hResults hn
  rw [hb]
  rfl

theorem evaluates_iff (hSome : ∀ n ∈ allNodes,
      (passAllFilters cfg vol (loadFilterFromConfig K cfg) n).isSome) {results : List (Node × Verdict)}
    (h : matchEach cfg vol (loadFilterFromConfig K cfg) allNodes = some results) :
    (∀ n ∈ allNodes, Evaluates K cfg vol n) ↔ ∀ n' ∈ candidates results,
      (Priority.result (Priority.loadPriorityFromConfig K cfg) vol n').isSome := by
  constructor
  · intro hEvaluates n' hn'
    obtain ⟨n, hn, hQualifies⟩ := (mem_candidates_matchEach h).mp hn'
    exact (hEvaluates n hn).2 n' hQualifies
  · intro hResults n hn
    refine ⟨hSome n hn, ?_⟩
    intro n' hQualifies
    exact hResults n' ((mem_candidates_matchEach h).mpr ⟨n, hn, hQualifies⟩)

theorem wins_iff {results : List (Node × Verdict)}
    (h : matchEach cfg vol (loadFilterFromConfig K cfg) allNodes = some results) (P : NodeInfo → Prop) :
    (∀ n ∈ allNodes, Wins K cfg vol allNodes n → P n.info) ↔ ∀ n' ∈ candidates results,
      Priority.Best (Priority.loadPriorityFromConfig K cfg) vol (candidates results) n' → P n'.info := by
  constructor
  · intro hWins n' hn' hBest
    obtain ⟨n, hn, hQualifies⟩ := (mem_candidates_matchEach h).mp hn'
    rw [Node.info, hQualifies.pool]
    exact hWins n hn ((best_candidates_iff h hQualifies).mp hBest)
  · intro hBest n hn hWins
    obtain ⟨n', -, hQualifies, -⟩ := id hWins
    rw [Node.info, ← hQualifies.pool]
    exact hBest n' ((mem_candidates_matchEach h).mpr ⟨n, hn, hQualifies⟩)
      ((best_candidates_iff h hQualifies).mpr hWins)

/-- Whatever the sorting routine, the call is an error or gives a node with the
property: no node makes it panic, and every node that may win has the property. -/
theorem scheduleVolume_rejectedOr_iff (hSelected : vol.annotationAt selectedTgtNodeKey = none)
    (hDistinct : DistinctIds allNodes) (P : NodeInfo → Prop) :
    (∀ sorter, RejectedOr P (scheduleVolume K sorter cfg allNodes vol)) ↔
      (∀ n ∈ allNodes, Evaluates K cfg vol n) ∧ ∀ n ∈ allNodes, Wins K cfg vol allNodes n → P n.info := by
  cases hEach : matchEach cfg vol (loadFilterFromConfig K cfg) allNodes with
  | none =>
    refine iff_of_false ?_ ?_
    · intro h
      have hPanic := h Priority.insertion
      rw [scheduleVolume, hSelected, hEach] at hPanic
      exact hPanic
    · rintro ⟨hEvaluates, -⟩
      have hSome := matchEach_isSome_iff.mpr fun n hn => (hEvaluates n hn).1
      rw [hEach] at hSome
      cases hSome
  | some results =>
    have hSome := matchEach_isSome_iff.mp (Option.isSome_of_eq_some hEach)
    rw [evaluates_iff hSome hEach, wins_iff hEach]
    cases hCandidates : candidates results with
    | nil =>
      simp [RejectedOr, scheduleVolume_of_candidates hSelected hEach, hCandidates]
    | cons n rest =>
      have hNodes : candidates results ≠ [] := by simp [hCandidates]
      rw [← hCandidates, ← Priority.getFirstByScore_forall_iff (distinctIds_candidates hDistinct hEach)
        hNodes fun n => P n.info]
      refine forall_congr' fun sorter => ?_
      rw [RejectedOr, scheduleVolume_of_candidates hSelected hEach, if_neg hNodes]
      cases Priority.getFirstByScore sorter _ vol (candidates results) <;> simp

end

end Liteio
