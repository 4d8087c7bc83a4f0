import Liteio.Scheduler.Schedule

/-! # What scheduling one volume returns

With a host node set no filter and no priority panics, so the call returns an
error or a node. A node it returns passed every configured filter, unless the
volume names its node itself.
-/

namespace Liteio

open MachineInt FilterChain

namespace FilterChain

theorem getFilterByName_total {K : Kube} {name : String} {f : PredicateFunc} {vol : AntstorVolume}
    (hName : getFilterByName K name = some f) (hHost : vol.spec.hostNode.isSome)
    (cfg : SchedulerConfig) (n : Node) : (f cfg vol n).isSome := by
  unfold getFilterByName at hName
  split at hName
  · cases hName
    unfold basicFilterFunc
    split
    · rfl
    · split
      · rfl
      · dsimp only
        split
        · rfl
        · split
          · rfl
          · rw [Option.isSome_map, hHost]
  · split at hName
    · cases hName
      rfl
    · split at hName
      · cases hName
        rw [minLocalStorageFilterFunc, Option.isSome_map, hHost]
      · split at hName
        · cases hName
          rfl
        · cases hName

theorem passAllFilters_total {K : Kube} {cfg : SchedulerConfig} {vol : AntstorVolume}
    {filters : List PredicateFunc} (hFilters : ∀ f ∈ filters, ∃ name, getFilterByName K name = some f)
    (hHost : vol.spec.hostNode.isSome) (n : Node) : (passAllFilters cfg vol filters n).isSome := by
  induction filters generalizing n with
  | nil => rfl
  | cons f filters ih =>
    obtain ⟨name, hName⟩ := hFilters f List.mem_cons_self
    have hSome := getFilterByName_total hName hHost cfg n
    unfold passAllFilters
    split
    · rename_i hNone
      rw [hNone] at hSome
      cases hSome
    · rfl
    · exact ih (fun g hg => hFilters g (List.mem_cons_of_mem _ hg)) _

theorem affinityFilterFunc_pass_iff {K : Kube} {cfg : SchedulerConfig} {vol : AntstorVolume} {n n' : Node} :
    affinityFilterFunc K cfg vol n = some (n', .pass) ↔ n = n' ∧
      matchesAffinity K vol.spec.nodeAffinity (convertNodeInfo n.info) ∧
      matchesSelector K (vol.annotationAt nodeLabelSelectorKey) n.info.labels ∧
      matchesAffinity K vol.spec.poolAffinity (convertPoolLabels n.pool.labels) ∧
      matchesSelector K (vol.annotationAt poolLabelSelectorKey) n.pool.labels := by
  rw [affinityFilterFunc, Option.some.injEq, Prod.mk.injEq, Verdict.ofChecks_eq_pass]
  simp

end FilterChain

namespace Priority

theorem getPriorityByName_total {K : Kube} {name : String} {pfunc : PriorityFunc} {vol : AntstorVolume}
    (hName : getPriorityByName K name = some pfunc) (hHost : vol.spec.hostNode.isSome) (n : Node) :
    (pfunc vol n).isSome := by
  unfold getPriorityByName at hName
  split at hName
  · cases hName
    unfold priorityByLeastResource
    dsimp only
    split <;> rfl
  · split at hName
    · cases hName
      unfold priorityByPositionAdivce
      split <;> simp [hHost]
    · cases hName

theorem result_total {K : Kube} {cfg : SchedulerConfig} {vol : AntstorVolume}
    (hHost : vol.spec.hostNode.isSome) (n : Node) :
    (result (loadPriorityFromConfig K cfg) vol n).isSome := by
  rw [result, Option.isSome_map]
  apply Traverse.mapM_isSome
  intro pfunc hMem
  obtain ⟨name, _, hName⟩ := List.mem_filterMap.mp hMem
  exact getPriorityByName_total hName hHost n

theorem result_nodeID {funcs : List PriorityFunc} {vol : AntstorVolume} {n : Node} {r : PriorityResult}
    (h : result funcs vol n = some r) : r.nodeID = n.pool.spec.nodeInfo.id := by
  obtain ⟨scores, _, rfl⟩ := Option.map_eq_some_iff.mp h
  rfl

theorem getFirstByScore_isSome {sorter : Sorter better} {funcs : List PriorityFunc} {vol : AntstorVolume}
    {nodes : List Node} (hResult : ∀ n ∈ nodes, (result funcs vol n).isSome) (hNodes : nodes ≠ []) :
    (getFirstByScore sorter funcs vol nodes).isSome := by
  obtain ⟨resultList, hResults⟩ := Option.isSome_iff_exists.mp (Traverse.mapM_isSome hResult)
  rw [getFirstByScore, hResults]
  dsimp only
  split
  · rename_i hSorted
    have hEmpty : resultList = [] := (hSorted ▸ sorter.perm resultList).symm.eq_nil
    subst hEmpty
    exact absurd (Traverse.forall₂_of_mapM hResults).length_eq (by simp [hNodes])
  · rename_i best rest hSorted
    have hBest : best ∈ resultList := sorter.mem_sort.mp (hSorted ▸ List.mem_cons_self)
    obtain ⟨n, hMem, hn⟩ := Traverse.exists_of_mem_mapM hResults hBest
    rw [List.find?_isSome]
    exact ⟨n, hMem, by simp [result_nodeID hn]⟩

theorem getFirstByScore_total {K : Kube} {sorter : Sorter better} {cfg : SchedulerConfig}
    {vol : AntstorVolume} {nodes : List Node} (hHost : vol.spec.hostNode.isSome) (hNodes : nodes ≠ []) :
    (getFirstByScore sorter (loadPriorityFromConfig K cfg) vol nodes).isSome :=
  getFirstByScore_isSome (fun n _ => result_total hHost n) hNodes

end Priority

section

variable {K : Kube} {sorter : Sorter Priority.better} {cfg : SchedulerConfig} {allNodes : List Node}
  {vol : AntstorVolume}

theorem scheduleVolume_selected {nodeName : String} (h : vol.annotationAt selectedTgtNodeKey = some nodeName) :
    ∃ info : NodeInfo, info.id = nodeName ∧
      scheduleVolume K sorter cfg allNodes vol = some ⟨allNodes, vol, .ok info⟩ := by
  have hFold : ∀ (nodes : List Node) (start : NodeInfo), start.id = nodeName →
      (nodes.foldl (fun node item => if item.info.id = nodeName then item.info else node) start).id =
        nodeName := by
    intro nodes
    induction nodes with
    | nil =>
      intro start hStart
      exact hStart
    | cons item nodes ih =>
      intro start hStart
      apply ih
      dsimp only
      split
      · assumption
      · exact hStart
  refine ⟨_, hFold allNodes { id := nodeName } rfl, ?_⟩
  rw [scheduleVolume, h]

variable (K sorter cfg allNodes) in
theorem scheduleVolume_total (hHost : vol.spec.hostNode.isSome) :
    (scheduleVolume K sorter cfg allNodes vol).isSome := by
  rw [scheduleVolume]
  split
  · rfl
  · have hSome : (matchEach cfg vol (loadFilterFromConfig K cfg) allNodes).isSome :=
      Traverse.mapM_isSome fun n _ => passAllFilters_total (forall_loadFilterFromConfig K cfg) hHost n
    split
    · rename_i hNone
      rw [hNone] at hSome
      cases hSome
    · dsimp only
      split
      · rfl
      · rename_i qualified hQualified
        rw [Option.isSome_map]
        exact Priority.getFirstByScore_total hHost (ne_nil_of_matchAll hQualified)

theorem scheduleVolume_choice {out : Scheduled} {info : NodeInfo}
    (hSelected : vol.annotationAt selectedTgtNodeKey = none)
    (h : scheduleVolume K sorter cfg allNodes vol = some out) (hOk : out.result = .ok info) :
    ∃ n ∈ allNodes, info = n.info ∧
      ∀ f ∈ loadFilterFromConfig K cfg, ∃ m m', m.pool = n.pool ∧ f cfg vol m = some (m', .pass) := by
  obtain ⟨n, hMem, hInfo, _, hFilters⟩ := scheduleVolume_chosen hSelected h hOk
  refine ⟨n, hMem, hInfo, ?_⟩
  intro f hf
  obtain ⟨m, m', hm, hPass⟩ := hFilters f hf
  refine ⟨m, m', ?_, hPass⟩
  rcases hm with rfl | rfl <;> rfl

end

end Liteio
