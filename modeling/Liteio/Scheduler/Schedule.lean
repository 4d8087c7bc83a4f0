import Liteio.Scheduler.Fit
import Liteio.Library.Sorting
import Liteio.Library.Traverse

/-! # Scheduling one volume

`ScheduleVolume` of pkg/controller/manager/scheduler with the priorities of its
subpackage. The nodes are pointers into the controller state, so the result
carries them as the filters leave them. The order among nodes of equal score is
that of an unstable sort, which is a parameter.
-/

namespace Liteio

open MachineInt FilterChain

namespace Priority

structure PriorityResult where
  nodeID : String
  score : ℤ
  deriving DecidableEq

abbrev PriorityFunc := AntstorVolume → Node → Option ℤ

/-- The order of `sort.Reverse(PriorityResultList(resultList))`. -/
def better (a b : PriorityResult) : Bool := b.score < a.score

def insertion : Sorter better :=
  .insertion (by simp only [better, decide_eq_false_iff_not, not_lt]; intros; omega)
    (by simp only [better, decide_eq_false_iff_not, not_lt]; intros; omega)

def priorityByLeastResource (K : Kube) : PriorityFunc := fun _ n =>
  let total := K.roundFloat64 (n.pool.getVgTotalBytes K)
  let free := K.roundFloat64 (n.pool.getVgFreeBytes K)
  if total ≤ 0 then some 0
  else some (max 0 (ofFloat (K.roundFloat64 (K.roundFloat64 (K.roundFloat64 (total - free) / total) * 100))))

def priorityByPositionAdivce : PriorityFunc := fun vol n =>
  match vol.spec.positionAdvice with
  | .preferLocal => vol.spec.hostNode.map fun host => if n.pool.spec.nodeInfo.id = host.id then 20 else 0
  | .preferRemote => vol.spec.hostNode.map fun host => if n.pool.spec.nodeInfo.id ≠ host.id then 20 else 0
  | _ => some 0

def getPriorityByName (K : Kube) (name : String) : Option PriorityFunc :=
  if name = "LeastResource" then some (priorityByLeastResource K)
  else if name = "PositionAdvice" then some priorityByPositionAdivce
  else none

def loadPriorityFromConfig (K : Kube) (cfg : SchedulerConfig) : List PriorityFunc :=
  cfg.priorities.filterMap (getPriorityByName K)

def result (funcs : List PriorityFunc) (vol : AntstorVolume) (n : Node) : Option PriorityResult :=
  (funcs.mapM fun (pfunc : PriorityFunc) => pfunc vol n).map fun scores =>
    { nodeID := n.pool.spec.nodeInfo.id, score := scores.foldl addInt64 0 }

def getFirstByScore (sorter : Sorter better) (funcs : List PriorityFunc) (vol : AntstorVolume)
    (nodes : List Node) : Option Node :=
  match nodes.mapM (result funcs vol) with
  | none => none
  | some resultList =>
    match sorter.sort resultList with
    | [] => none
    | best :: _ => nodes.find? fun node => node.pool.spec.nodeInfo.id = best.nodeID

end Priority

structure Scheduled where
  nodes : List Node
  vol : AntstorVolume
  result : Except MergedError NodeInfo

/-- `none` is a panic of a filter or a priority. -/
def scheduleVolume (K : Kube) (sorter : Sorter Priority.better) (cfg : SchedulerConfig)
    (allNodes : List Node) (vol : AntstorVolume) : Option Scheduled :=
  match vol.annotationAt selectedTgtNodeKey with
  | some nodeName =>
    let node := allNodes.foldl (fun node item => if item.info.id = nodeName then item.info else node)
      { id := nodeName }
    some ⟨allNodes, vol, .ok node⟩
  | none =>
    match matchEach cfg vol (loadFilterFromConfig K cfg) allNodes with
    | none => none
    | some results =>
      let nodes := results.map Prod.fst
      match matchAll results with
      | .error err => some ⟨nodes, vol, .error err⟩
      | .ok qualified =>
        (Priority.getFirstByScore sorter (Priority.loadPriorityFromConfig K cfg) vol qualified).map
          fun n => ⟨nodes, { vol with spec := { vol.spec with targetNodeId := n.pool.spec.nodeInfo.id } },
            .ok n.pool.spec.nodeInfo⟩

namespace FilterChain

theorem getFilterByName_cases {K : Kube} {name : String} {f : PredicateFunc}
    (h : getFilterByName K name = some f) :
    f = basicFilterFunc ∨ ∀ cfg vol n, ∃ verdict : Option Verdict,
      f cfg vol n = verdict.map (Prod.mk n) ∧ f cfg vol n.settle = verdict.map (Prod.mk n.settle) := by
  unfold getFilterByName at h
  split at h
  · exact .inl (Option.some.inj h).symm
  · refine .inr fun cfg vol n => ?_
    split at h
    · cases h
      exact ⟨some _, rfl, rfl⟩
    · split at h
      · cases h
        refine ⟨(minLocalStorageFilterFunc K cfg vol n).map Prod.snd, ?_, ?_⟩
        · unfold minLocalStorageFilterFunc
          cases vol.spec.hostNode <;> rfl
        · unfold minLocalStorageFilterFunc
          cases vol.spec.hostNode <;> rfl
      · split at h
        · cases h
          exact ⟨some _, rfl, rfl⟩
        · cases h

theorem getFilterByName_leaves {K : Kube} {name : String} {f : PredicateFunc} {cfg : SchedulerConfig}
    {vol : AntstorVolume} {n n' : Node} {verdict : Verdict} (hName : getFilterByName K name = some f)
    (h : f cfg vol n = some (n', verdict)) : n' = n ∨ n' = n.settle := by
  rcases getFilterByName_cases hName with rfl | hOther
  · exact basicFilterFunc_leaves h
  · obtain ⟨verdict, hVerdict, _⟩ := hOther cfg vol n
    obtain ⟨_, _, hSame⟩ := Option.map_eq_some_iff.mp (hVerdict.symm.trans h)
    exact .inl (congrArg Prod.fst hSame).symm

theorem mem_loadFilterFromConfig {K : Kube} {cfg : SchedulerConfig} {f : PredicateFunc} :
    f ∈ loadFilterFromConfig K cfg ↔ ∃ name ∈ cfg.filters, getFilterByName K name = some f :=
  List.mem_filterMap

theorem forall_loadFilterFromConfig (K : Kube) (cfg : SchedulerConfig) :
    ∀ f ∈ loadFilterFromConfig K cfg, ∃ name, getFilterByName K name = some f := by
  intro f hf
  obtain ⟨name, _, hName⟩ := mem_loadFilterFromConfig.mp hf
  exact ⟨name, hName⟩

theorem passAllFilters_cons {cfg : SchedulerConfig} {vol : AntstorVolume} {n n' : Node} {verdict : Verdict}
    {f : PredicateFunc} {filters : List PredicateFunc}
    (h : passAllFilters cfg vol (f :: filters) n = some (n', verdict)) :
    verdict ≠ .pass ∧ f cfg vol n = some (n', verdict) ∨
      ∃ m, f cfg vol n = some (m, .pass) ∧ passAllFilters cfg vol filters m = some (n', verdict) := by
  rw [passAllFilters] at h
  split at h
  · cases h
  · rename_i m reason hf
    cases h
    exact .inl ⟨nofun, hf⟩
  · rename_i m hf
    exact .inr ⟨m, hf, h⟩

theorem passAllFilters_leaves {K : Kube} {cfg : SchedulerConfig} {vol : AntstorVolume} {n n' : Node}
    {verdict : Verdict} {filters : List PredicateFunc}
    (hFilters : ∀ f ∈ filters, ∃ name, getFilterByName K name = some f)
    (h : passAllFilters cfg vol filters n = some (n', verdict)) : n' = n ∨ n' = n.settle := by
  induction filters generalizing n with
  | nil =>
    cases h
    exact .inl rfl
  | cons f filters ih =>
    rw [List.forall_mem_cons] at hFilters
    obtain ⟨⟨name, hName⟩, hFilters⟩ := hFilters
    obtain ⟨-, hf⟩ | ⟨m, hf, hRest⟩ := passAllFilters_cons h
    · exact getFilterByName_leaves hName hf
    · rcases getFilterByName_leaves hName hf with rfl | rfl
      · exact ih hFilters hRest
      · exact .inr (by simpa [n.settled_settle.settle_eq] using ih hFilters hRest)

theorem passAllFilters_each {K : Kube} {cfg : SchedulerConfig} {vol : AntstorVolume} {n n' : Node}
    {filters : List PredicateFunc} (hFilters : ∀ f ∈ filters, ∃ name, getFilterByName K name = some f)
    (h : passAllFilters cfg vol filters n = some (n', .pass)) :
    ∀ f ∈ filters, ∃ m m', (m = n ∨ m = n.settle) ∧ f cfg vol m = some (m', .pass) := by
  induction filters generalizing n with
  | nil => simp
  | cons f filters ih =>
    rw [List.forall_mem_cons] at hFilters ⊢
    obtain ⟨⟨name, hName⟩, hFilters⟩ := hFilters
    obtain ⟨hReject, -⟩ | ⟨m, hf, hRest⟩ := passAllFilters_cons h
    · exact absurd rfl hReject
    · refine ⟨⟨n, m, .inl rfl, hf⟩, fun g hg => ?_⟩
      obtain ⟨k, k', hk, hPass⟩ := ih hFilters hRest g hg
      refine ⟨k, k', ?_, hPass⟩
      rcases getFilterByName_leaves hName hf with rfl | rfl
      · exact hk
      · exact .inr (by simpa [n.settled_settle.settle_eq] using hk)

theorem passAllFilters_settled {K : Kube} {cfg : SchedulerConfig} {vol : AntstorVolume} {n n' : Node}
    {verdict : Verdict} {filters : List PredicateFunc} (hSettled : n.Settled)
    (hFilters : ∀ f ∈ filters, ∃ name, getFilterByName K name = some f)
    (h : passAllFilters cfg vol filters n = some (n', verdict)) :
    n' = n ∧ (verdict = .pass → ∀ f ∈ filters, f cfg vol n = some (n, .pass)) := by
  have hLeaves := passAllFilters_leaves hFilters h
  rw [hSettled.settle_eq, or_self] at hLeaves
  refine ⟨hLeaves, ?_⟩
  rintro rfl f hf
  obtain ⟨m, m', hm, hPass⟩ := passAllFilters_each hFilters h f hf
  obtain ⟨name, hName⟩ := hFilters f hf
  rw [hSettled.settle_eq, or_self] at hm
  subst hm
  have hSame := getFilterByName_leaves hName hPass
  rw [hSettled.settle_eq, or_self] at hSame
  rw [hPass, hSame]

/-- The filters never look at what an earlier one changed but through the pool:
the chain passes only if each filter passes on a node with this pool. -/
theorem passAllFilters_pool {K : Kube} {cfg : SchedulerConfig} {vol : AntstorVolume} {n n' : Node}
    {filters : List PredicateFunc} (hFilters : ∀ f ∈ filters, ∃ name, getFilterByName K name = some f)
    (h : passAllFilters cfg vol filters n = some (n', .pass)) :
    n'.pool = n.pool ∧ ∀ f ∈ filters, ∃ m m', m.pool = n.pool ∧ f cfg vol m = some (m', .pass) := by
  constructor
  · rcases passAllFilters_leaves hFilters h with rfl | rfl <;> rfl
  · intro f hf
    obtain ⟨m, m', hm, hPass⟩ := passAllFilters_each hFilters h f hf
    refine ⟨m, m', ?_, hPass⟩
    rcases hm with rfl | rfl <;> rfl

theorem matchEach_leaves {K : Kube} {cfg : SchedulerConfig} {vol : AntstorVolume} {nodes : List Node}
    {results : List (Node × Verdict)}
    (h : matchEach cfg vol (loadFilterFromConfig K cfg) nodes = some results) :
    List.Forall₂ (fun n n' => n' = n ∨ n' = n.settle) nodes (results.map Prod.fst) := by
  rw [List.forall₂_map_right_iff]
  refine (Traverse.forall₂_of_mapM h).imp ?_
  rintro n ⟨n', verdict⟩ hn
  exact passAllFilters_leaves (forall_loadFilterFromConfig K cfg) hn

theorem mem_candidates {results : List (Node × Verdict)} {n : Node} :
    n ∈ candidates results ↔ (n, .pass) ∈ results := by
  simp [candidates]

theorem candidates_of_matchAll {results : List (Node × Verdict)} {qualified : List Node}
    (h : matchAll results = .ok qualified) : candidates results = qualified := by
  unfold matchAll at h
  split at h
  · cases h
  · exact Except.ok.inj h

theorem ne_nil_of_matchAll {results : List (Node × Verdict)} {qualified : List Node}
    (h : matchAll results = .ok qualified) : qualified ≠ [] := by
  unfold matchAll at h
  split at h
  · cases h
  · rename_i hCandidates
    rw [← Except.ok.inj h]
    exact hCandidates

theorem candidates_of_matchAll_error {results : List (Node × Verdict)} {err : MergedError}
    (h : matchAll results = .error err) : candidates results = [] := by
  unfold matchAll at h
  split at h
  · assumption
  · cases h

theorem matchAll_ok {results : List (Node × Verdict)} {qualified : List Node}
    (h : matchAll results = .ok qualified) {n : Node} (hn : n ∈ qualified) : (n, .pass) ∈ results := by
  rw [← candidates_of_matchAll h] at hn
  exact mem_candidates.mp hn

end FilterChain

theorem Priority.mem_of_getFirstByScore {sorter : Sorter Priority.better}
    {funcs : List PriorityFunc} {vol : AntstorVolume} {nodes : List Node} {n : Node}
    (h : getFirstByScore sorter funcs vol nodes = some n) : n ∈ nodes := by
  unfold getFirstByScore at h
  split at h
  · cases h
  · split at h
    · cases h
    · exact List.mem_of_find?_eq_some h

theorem scheduleVolume_leaves {K : Kube} {sorter : Sorter Priority.better} {cfg : SchedulerConfig}
    {allNodes : List Node} {vol : AntstorVolume} {out : Scheduled}
    (h : scheduleVolume K sorter cfg allNodes vol = some out) :
    List.Forall₂ (fun n n' => n' = n ∨ n' = n.settle) allNodes out.nodes := by
  unfold scheduleVolume at h
  split at h
  · cases h
    exact List.forall₂_same.mpr fun _ _ => .inl rfl
  · split at h
    · cases h
    · rename_i results hResults
      have hLeaves := matchEach_leaves hResults
      dsimp only at h
      split at h
      · cases h
        exact hLeaves
      · obtain ⟨n, _, rfl⟩ := Option.map_eq_some_iff.mp h
        exact hLeaves

theorem scheduleVolume_chosen {K : Kube} {sorter : Sorter Priority.better} {cfg : SchedulerConfig}
    {allNodes : List Node} {vol : AntstorVolume} {out : Scheduled} {info : NodeInfo}
    (hSelected : vol.annotationAt selectedTgtNodeKey = none)
    (h : scheduleVolume K sorter cfg allNodes vol = some out) (hOk : out.result = .ok info) :
    ∃ n ∈ allNodes, info = n.info ∧
      out.vol = { vol with spec := { vol.spec with targetNodeId := n.info.id } } ∧
      ∀ f ∈ loadFilterFromConfig K cfg, ∃ m m', (m = n ∨ m = n.settle) ∧ f cfg vol m = some (m', .pass) := by
  unfold scheduleVolume at h
  rw [hSelected] at h
  dsimp only at h
  split at h
  · cases h
  · rename_i results hResults
    split at h
    · cases h
      cases hOk
    · rename_i qualified hQualified
      obtain ⟨n', hFirst, rfl⟩ := Option.map_eq_some_iff.mp h
      obtain ⟨n, hMem, hn⟩ := Traverse.exists_of_mem_mapM hResults
        (matchAll_ok hQualified (Priority.mem_of_getFirstByScore hFirst))
      have hPool := (passAllFilters_pool (forall_loadFilterFromConfig K cfg) hn).1
      refine ⟨n, hMem, ?_, ?_, passAllFilters_each (forall_loadFilterFromConfig K cfg) hn⟩
      · rw [← Except.ok.inj hOk, hPool]
        rfl
      · rw [hPool]
        rfl

theorem scheduleVolume_nodes_settled {K : Kube} {sorter : Sorter Priority.better} {cfg : SchedulerConfig}
    {allNodes : List Node} {vol : AntstorVolume} {out : Scheduled} (hSettled : ∀ n ∈ allNodes, n.Settled)
    (h : scheduleVolume K sorter cfg allNodes vol = some out) : out.nodes = allNodes := by
  have hSame : List.Forall₂ Eq out.nodes allNodes := by
    refine List.Forall₂.flip ?_
    have hBoth := (List.forall₂_and_left _ _).mpr ⟨hSettled, scheduleVolume_leaves h⟩
    refine hBoth.imp ?_
    rintro n n' ⟨hn, hLeaves⟩
    rwa [hn.settle_eq, or_self] at hLeaves
  rwa [List.forall₂_eq_eq_eq] at hSame

theorem scheduleVolume_vol {K : Kube} {sorter : Sorter Priority.better} {cfg : SchedulerConfig}
    {allNodes : List Node} {vol : AntstorVolume} {out : Scheduled}
    (h : scheduleVolume K sorter cfg allNodes vol = some out) :
    out.vol = vol ∨ ∃ info, out.result = .ok info ∧
      out.vol = { vol with spec := { vol.spec with targetNodeId := info.id } } := by
  unfold scheduleVolume at h
  split at h
  · cases h
    exact .inl rfl
  · split at h
    · cases h
    · dsimp only at h
      split at h
      · cases h
        exact .inl rfl
      · obtain ⟨n, _, rfl⟩ := Option.map_eq_some_iff.mp h
        exact .inr ⟨_, rfl, rfl⟩

theorem scheduleVolume_settled {K : Kube} {sorter : Sorter Priority.better} {cfg : SchedulerConfig}
    {allNodes : List Node} {vol : AntstorVolume} {out : Scheduled}
    (hSettled : ∀ n ∈ allNodes, n.Settled) (hSelected : vol.annotationAt selectedTgtNodeKey = none)
    (h : scheduleVolume K sorter cfg allNodes vol = some out) :
    out.nodes = allNodes ∧ ∀ info, out.result = .ok info →
      ∃ n ∈ allNodes, info = n.info ∧
        out.vol = { vol with spec := { vol.spec with targetNodeId := n.info.id } } ∧
        ∀ f ∈ loadFilterFromConfig K cfg, f cfg vol n = some (n, .pass) := by
  constructor
  · exact scheduleVolume_nodes_settled hSettled h
  · intro info hInfo
    obtain ⟨n, hMem, rfl, hVol, hFilters⟩ := scheduleVolume_chosen hSelected h hInfo
    refine ⟨n, hMem, rfl, hVol, ?_⟩
    intro f hf
    obtain ⟨m, m', hm, hPass⟩ := hFilters f hf
    obtain ⟨name, hName⟩ := forall_loadFilterFromConfig K cfg f hf
    have hSame := getFilterByName_leaves hName hPass
    rw [(hSettled n hMem).settle_eq, or_self] at hm
    subst hm
    rw [(hSettled m hMem).settle_eq, or_self] at hSame
    rw [hPass, hSame]

end Liteio
