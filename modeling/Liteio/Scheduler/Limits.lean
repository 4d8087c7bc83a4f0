import Liteio.Scheduler.Interleaving

/-! # The limits of placement over whole runs

Volumes are scheduled and bound one after another, and unbound in between. The
basic filter judges a volume before it is placed, by the volumes the node holds
then. The bound on remote volumes and the position advice nevertheless hold of
what the nodes hold in every state that is reached.
-/

namespace Liteio

open FilterChain

namespace Placement

/-- One volume scheduled and bound, with the order in which the map iteration
yields the nodes, or one unbound. -/
inductive Action where
  | place (order : List String) (vol : AntstorVolume)
  | unbind (volID : String)

section

variable (K : Kube) (sorter : Sorter Priority.better) (cfg : SchedulerConfig)

def place (s : State) (order : List String) (vol : AntstorVolume) : State :=
  let scheduled := System.schedule K sorter cfg { state := s } order vol
  match scheduled.pending with
  | some (nodeID, vol) => (scheduled.state.bindAntstorVolume nodeID vol).1
  | none => scheduled.state

def step (s : State) : Action → State
  | .place order vol => place K sorter cfg s order vol
  | .unbind volID => (s.unbindAntstorVolume volID).1

def withPools (pools : List StoragePool) : State := State.run K (pools.map .setStoragePool)

end

def Open (vol : AntstorVolume) : Prop :=
  vol.spec.hostNode ≠ none ∧ vol.annotationAt reservationIDKey = none ∧
    vol.annotationAt selectedTgtNodeKey = none

def Action.Opens : Action → Prop
  | .place _ vol => Open vol
  | .unbind _ => True

def WellPlaced (nodeID : String) (vol : AntstorVolume) : Prop :=
  (vol.spec.positionAdvice = .mustLocal → ∃ host, vol.spec.hostNode = some host ∧ host.id = nodeID) ∧
    (vol.spec.positionAdvice = .mustRemote → ∀ host, vol.spec.hostNode = some host → host.id ≠ nodeID)

def WithinLimits (cfg : SchedulerConfig) (s : State) : Prop :=
  ∀ id node, s.nodeMap.lookup id = some node →
    (node.remoteVolumesCount cfg.remoteIgnoreAnnoSelector : ℤ) ≤ cfg.maxRemoteVolumeCount ∧
      ∀ vol ∈ node.volumes, WellPlaced id vol

structure Limited (cfg : SchedulerConfig) (n : Node) : Prop where
  names : n.NamesDistinct
  count : (n.remoteVolumesCount cfg.remoteIgnoreAnnoSelector : ℤ) ≤ cfg.maxRemoteVolumeCount
  placed : ∀ vol ∈ n.volumes, WellPlaced n.info.id vol

variable {K : Kube} {sorter : Sorter Priority.better} {cfg : SchedulerConfig}

theorem Limited.congr {n n' : Node} (h : Limited cfg n) (hPool : n'.pool = n.pool)
    (hVolumes : n'.volumes = n.volumes) : Limited cfg n' := by
  refine ⟨?_, ?_, ?_⟩
  · rw [Node.NamesDistinct, hVolumes]
    exact h.names
  · rw [Node.remoteVolumesCount, hVolumes]
    exact h.count
  · rw [hVolumes, Node.info, hPool]
    exact h.placed

theorem Limited.removeVolumeByID {n : Node} (h : Limited cfg n) (volID : String) :
    Limited cfg (n.removeVolumeByID volID) := by
  have hSub := n.removeVolumeByID_volumes volID ▸ List.eraseP_sublist
  refine ⟨Node.namesDistinct_removeVolumeByID volID h.names, ?_, ?_⟩
  · refine le_trans ?_ h.count
    exact_mod_cast hSub.countP_le
  · rw [Node.info, Node.removeVolumeByID_pool]
    exact fun vol hVol => h.placed vol (hSub.subset hVol)

structure Granted (cfg : SchedulerConfig) (n : Node) (vol : AntstorVolume) : Prop where
  count : ∀ host, vol.spec.hostNode = some host → n.info.id = host.id ∨
    (n.remoteVolumesCount cfg.remoteIgnoreAnnoSelector : ℤ) < cfg.maxRemoteVolumeCount
  placed : WellPlaced n.info.id vol

theorem granted_of_pass {n m m' : Node} {vol : AntstorVolume} (hOpen : Open vol) (hm : m = n ∨ m = n.settle)
    (h : basicFilterFunc cfg vol m = some (m', .pass)) : Granted cfg n vol := by
  obtain ⟨host, hHost, hChecks⟩ : ∃ host, vol.spec.hostNode = some host ∧
      Verdict.ofChecks (placementChecks cfg vol m.settle host) = .pass := by
    rcases basicFilterFunc_pass h with ⟨_, hMatch⟩ | ⟨_, _, _, hPlace⟩
    · rw [matchReservationFilter_eq_none.mpr hOpen.2.1] at hMatch
      cases hMatch
    · exact hPlace
  have hSettle : placementChecks cfg vol m.settle host = placementChecks cfg vol n host := by
    rcases hm with rfl | rfl <;> rfl
  rw [hSettle, Verdict.ofChecks_eq_pass] at hChecks
  simp only [placementChecks, List.forall_mem_cons] at hChecks
  obtain ⟨hCount, _, hLocal, hRemote, _⟩ := hChecks
  refine ⟨?_, ?_, ?_⟩
  · intro other hOther
    obtain rfl : host = other := Option.some.inj (hHost.symm.trans hOther)
    rw [Bool.and_eq_false_imp, Bool.not_eq_true', decide_eq_false_iff_not, decide_eq_false_iff_not,
      not_le] at hCount
    exact or_iff_not_imp_left.mpr hCount
  · intro hAdvice
    refine ⟨host, hHost, ?_⟩
    simp only [hAdvice, decide_true, Bool.true_and, Bool.not_eq_false', decide_eq_true_eq] at hLocal
    exact hLocal.symm
  · intro hAdvice other hOther hId
    obtain rfl : host = other := Option.some.inj (hHost.symm.trans hOther)
    simp only [hAdvice, decide_true, Bool.true_and, decide_eq_false_iff_not] at hRemote
    exact hRemote hId.symm

theorem addVolume_volumes {n : Node} (vol : AntstorVolume) (hNames : n.NamesDistinct) :
    (n.addVolume vol).1.volumes = n.volumes ∨ ∃ before after,
      (before ++ after).Sublist n.volumes ∧ (n.addVolume vol).1.volumes = before ++ n.resident vol :: after := by
  rcases n.addVolume_cases vol hNames with ⟨_, hAdd⟩ | ⟨before, old, after, hSplit, _, _, hAdd⟩ | ⟨_, _, _, _, hAdd⟩
  · refine .inr ⟨n.volumes, [], ?_, ?_⟩
    · rw [List.append_nil]
    · rw [hAdd]
      rfl
  · refine .inr ⟨before, after, ?_, ?_⟩
    · rw [hSplit]
      exact (List.sublist_cons_self old after).append_left before
    · rw [hAdd]
      rfl
  · rw [hAdd]
    exact .inl (n.dropReservation_volumes vol)

def countsAsRemote (ignoreAnnoSelector : StringMap) (item : AntstorVolume) : Bool :=
  !((ignoreAnnoSelector.getD ∅).any fun key value => item.annotationAt key = some value) &&
    (item.spec.targetNodeId ≠ "" && match item.spec.hostNode with
      | some host => item.spec.targetNodeId ≠ host.id
      | none => false)

theorem remoteVolumesCount_eq (n : Node) (selector : StringMap) :
    n.remoteVolumesCount selector = n.volumes.countP (countsAsRemote selector) := rfl

theorem countsAsRemote_resident {n : Node} {vol : AntstorVolume} {host : NodeInfo} {selector : StringMap}
    (hHost : vol.spec.hostNode = some host) (h : countsAsRemote selector (n.resident vol) = true) :
    n.info.id ≠ host.id := by
  simp only [countsAsRemote, Node.resident, hHost, Bool.and_eq_true, decide_eq_true_eq] at h
  exact h.2.2

theorem Limited.addVolume {n : Node} {vol : AntstorVolume} (h : Limited cfg n)
    (hOpen : vol.spec.hostNode ≠ none) (hGranted : Granted cfg n vol) :
    Limited cfg (n.addVolume vol).1 := by
  rcases addVolume_volumes vol h.names with hSame | ⟨before, after, hSub, hVolumes⟩
  · exact h.congr (n.addVolume_pool vol) hSame
  · refine ⟨Node.namesDistinct_addVolume vol h.names, ?_, ?_⟩
    · obtain ⟨host, hHost⟩ := Option.ne_none_iff_exists'.mp hOpen
      have hRest : (before ++ after).countP (countsAsRemote cfg.remoteIgnoreAnnoSelector) ≤
          n.remoteVolumesCount cfg.remoteIgnoreAnnoSelector := hSub.countP_le
      have hCount := h.count
      rw [remoteVolumesCount_eq, hVolumes, List.countP_append, List.countP_cons]
      rw [List.countP_append] at hRest
      split
      · rename_i hRemote
        have hRoom := (hGranted.count host hHost).resolve_left (countsAsRemote_resident hHost hRemote)
        omega
      · omega
    · rw [hVolumes, Node.info, Node.addVolume_pool]
      intro item hItem
      rcases List.mem_append.mp hItem with hBefore | hRest
      · exact h.placed item (hSub.subset (List.mem_append_left _ hBefore))
      · rcases List.mem_cons.mp hRest with rfl | hAfter
        · exact hGranted.placed
        · exact h.placed item (hSub.subset (List.mem_append_right _ hAfter))

structure Kept (property : Node → Prop) (s : State) : Prop where
  keyed : s.Keyed
  nodes : s.AllNodes property

section

variable {property : Node → Prop}

/-- Bookkeeping of reservations, which is all that scheduling changes. -/
def Unreserving (property : Node → Prop) : Prop :=
  ∀ n n' : Node, n'.pool = n.pool → n'.volumes = n.volumes → property n → property n'

theorem Kept.keep {s s' : State} (h : Kept property s) (hMap : s'.nodeMap = s.nodeMap) : Kept property s' := by
  constructor
  · intro id node hNode
    exact h.keyed id node (hMap ▸ hNode)
  · intro id node hNode
    exact h.nodes id node (hMap ▸ hNode)

theorem Kept.replace {s s' : State} {nodeID : String} {node node' : Node} (h : Kept property s)
    (hNode : s.nodeMap.lookup nodeID = some node) (hMap : s'.nodeMap = s.nodeMap.insert nodeID node')
    (hPool : node'.pool = node.pool) (hNew : property node') : Kept property s' := by
  refine ⟨State.keyed_insert h.keyed hMap ?_, State.allNodes_insert h.nodes hMap hNew⟩
  rw [Node.info, hPool]
  exact h.keyed nodeID node hNode

theorem Kept.congr {s s' : State} (h : Kept property s) (hUnreserving : Unreserving property)
    (hNodes : ∀ id, (s'.nodeMap.lookup id).map (fun n => (n.pool, n.volumes)) =
      (s.nodeMap.lookup id).map fun n => (n.pool, n.volumes)) : Kept property s' := by
  have hOld : ∀ id node, s'.nodeMap.lookup id = some node →
      ∃ old, s.nodeMap.lookup id = some old ∧ node.pool = old.pool ∧ node.volumes = old.volumes := by
    intro id node hNode
    have hSame := hNodes id
    rw [hNode] at hSame
    obtain ⟨old, hLookup, hEq⟩ := Option.map_eq_some_iff.mp hSame.symm
    exact ⟨old, hLookup, (congrArg Prod.fst hEq).symm, (congrArg Prod.snd hEq).symm⟩
  constructor
  · intro id node hNode
    obtain ⟨old, hLookup, hPool, _⟩ := hOld id node hNode
    rw [Node.info, hPool]
    exact h.keyed id old hLookup
  · intro id node hNode
    obtain ⟨old, hLookup, hPool, hVolumes⟩ := hOld id node hNode
    exact hUnreserving old node hPool hVolumes (h.nodes id old hLookup)

theorem Kept.unbind {s : State} (h : Kept property s) (volID : String)
    (hRemove : ∀ n : Node, property n → property (n.removeVolumeByID volID)) :
    Kept property (s.unbindAntstorVolume volID).1 := by
  cases State.step_nodeEffect Kube.exact s (.unbindAntstorVolume volID) with
  | keep hMap => exact h.keep hMap
  | removeVolume _ hNode hMap =>
    exact h.replace hNode hMap (Node.removeVolumeByID_pool _ volID) (hRemove _ (h.nodes _ _ hNode))

theorem Kept.bind {s : State} (h : Kept property s) {nodeID : String} {vol : AntstorVolume}
    (hAdd : ∀ n, s.nodeMap.lookup nodeID = some n → property n → property (n.addVolume vol).1) :
    Kept property (s.bindAntstorVolume nodeID vol).1 := by
  cases State.step_nodeEffect Kube.exact s (.bindAntstorVolume nodeID vol) with
  | keep hMap => exact h.keep hMap
  | addVolume hNode _ hMap =>
    exact h.replace hNode hMap (Node.addVolume_pool _ vol) (hAdd _ hNode (h.nodes _ _ hNode))

theorem Kept.place {s : State} (h : Kept property s) (hUnreserving : Unreserving property)
    (order : List String) {vol : AntstorVolume} (hSelected : vol.annotationAt selectedTgtNodeKey = none)
    (hAdd : ∀ n n' : Node, s.nodeMap.lookup n.info.id = some n → n'.pool = n.pool → n'.volumes = n.volumes →
      (∀ f ∈ loadFilterFromConfig K cfg, ∃ m m', (m = n ∨ m = n.settle) ∧ f cfg vol m = some (m', .pass)) →
      property n' → property (n'.addVolume vol).1) :
    Kept property (place K sorter cfg s order vol) := by
  have hNodes := @System.schedule_map K sorter cfg _ (fun n => (n.pool, n.volumes)) (fun _ => rfl)
    { state := s } order vol
  have hScheduled := h.congr hUnreserving hNodes
  unfold Placement.place
  dsimp only
  split
  · rename_i nodeID v hPending
    obtain ⟨n, hn, rfl, hFilters⟩ := System.schedule_pending h.keyed hSelected hPending
    refine hScheduled.bind ?_
    intro node hNode hProperty
    have hSame := hNodes nodeID
    rw [hNode, hn] at hSame
    obtain ⟨hPool, hVolumes⟩ := Prod.mk.inj (Option.some.inj hSame)
    exact hAdd n node ((h.keyed nodeID n hn).symm ▸ hn) hPool hVolumes hFilters hProperty
  · exact hScheduled

end

theorem Kept.withinLimits {s : State} (h : Kept (Limited cfg) s) : WithinLimits cfg s := by
  intro id node hNode
  have hLimited := h.nodes id node hNode
  refine ⟨hLimited.count, ?_⟩
  rw [← h.keyed id node hNode]
  exact hLimited.placed

theorem unreserving_limited : Unreserving (Limited cfg) :=
  fun _ _ hPool hVolumes h => h.congr hPool hVolumes

theorem Granted.congr {n n' : Node} {vol : AntstorVolume} (h : Granted cfg n vol)
    (hPool : n'.pool = n.pool) (hVolumes : n'.volumes = n.volumes) : Granted cfg n' vol := by
  refine ⟨?_, ?_⟩
  · rw [Node.info, hPool, remoteVolumesCount_eq, hVolumes]
    exact h.count
  · rw [Node.info, hPool]
    exact h.placed

theorem granted_of_filters {n : Node} {vol : AntstorVolume} (hBasic : "Basic" ∈ cfg.filters)
    (hOpen : Open vol) (h : ∀ f ∈ loadFilterFromConfig K cfg, ∃ m m', (m = n ∨ m = n.settle) ∧
      f cfg vol m = some (m', .pass)) : Granted cfg n vol := by
  obtain ⟨m, m', hm, hPass⟩ := h _ (mem_loadFilterFromConfig.mpr ⟨"Basic", hBasic, rfl⟩)
  exact granted_of_pass hOpen hm hPass

theorem kept_withPools {property : Node → Prop} {pools : List StoragePool}
    (h : ∀ n : Node, n.volumes = [] → ∀ pool ∈ pools, n.pool = State.withCapacity K pool → property n) :
    Kept property (withPools K pools) := by
  have hPools : Runs.Guarded (State.step K) (fun _ a => ∃ pool ∈ pools, a = .setStoragePool pool) State.newState
      (pools.map .setStoragePool) := by
    refine Runs.guarded_of_forall fun a ha _ => ?_
    obtain ⟨pool, hPool, rfl⟩ := List.mem_map.mp ha
    exact ⟨pool, hPool, rfl⟩
  have hEmpty : (withPools K pools).AllNodes fun n => n.volumes = [] ∧
      ∃ pool ∈ pools, n.pool = State.withCapacity K pool := by
    refine (hPools.always (State.allNodes_newState _) ?_).run
    rintro s _ hEmpty ⟨pool, hPool, rfl⟩
    cases State.step_nodeEffect K s (.setStoragePool pool) with
    | keep hMap => exact fun id node hNode => hEmpty id node (hMap ▸ hNode)
    | create _ hMap => exact State.allNodes_insert hEmpty hMap ⟨rfl, pool, hPool, rfl⟩
    | replacePool hNode hMap => exact State.allNodes_insert hEmpty hMap ⟨(hEmpty _ _ hNode).1, pool, hPool, rfl⟩
  refine ⟨State.keyed_run K _, ?_⟩
  intro id node hNode
  obtain ⟨hNone, pool, hPool, hStored⟩ := hEmpty id node hNode
  exact h node hNone pool hPool hStored

theorem limited_of_empty {n : Node} (hMax : 0 ≤ cfg.maxRemoteVolumeCount) (h : n.volumes = []) :
    Limited cfg n := by
  refine ⟨?_, ?_, ?_⟩
  · rw [Node.NamesDistinct, h]
    exact List.nodup_nil
  · rw [remoteVolumesCount_eq, h]
    exact hMax
  · rw [h]
    simp

/-- With the basic filter configured every state reached from one with pools
only, by placing open volumes and unbinding any, is within the limits. -/
theorem always_withinLimits (K : Kube) (sorter : Sorter Priority.better) (cfg : SchedulerConfig)
    (hBasic : "Basic" ∈ cfg.filters) (hMax : 0 ≤ cfg.maxRemoteVolumeCount) (pools : List StoragePool)
    (actions : List Action) (hOpen : ∀ a ∈ actions, a.Opens) :
    Runs.Always (step K sorter cfg) (WithinLimits cfg) (withPools K pools) actions := by
  have hGuarded : Runs.Guarded (step K sorter cfg) (fun _ a => a.Opens) (withPools K pools) actions :=
    Runs.guarded_of_forall fun a ha _ => hOpen a ha
  have hAlways : Runs.Always (step K sorter cfg) (Kept (Limited cfg)) (withPools K pools) actions := by
    refine hGuarded.always (kept_withPools fun n hNone _ _ _ => limited_of_empty hMax hNone) ?_
    intro s a h hOpens
    cases a with
    | place order vol =>
      refine h.place unreserving_limited order hOpens.2.2 ?_
      intro n n' _ hPool hVolumes hFilters hLimited
      exact hLimited.addVolume hOpens.1 ((granted_of_filters hBasic hOpens hFilters).congr hPool hVolumes)
    | unbind volID => exact h.unbind volID fun n hLimited => hLimited.removeVolumeByID volID
  exact hAlways.mono fun _ h => h.withinLimits

def remotePool : StoragePool :=
  { readyPool with status := { readyPool.status with conditions := [⟨.spdk, .ok, ""⟩] } }

def remoteVolume (name : String) : AntstorVolume :=
  { name := name
    spec := { uuid := name, sizeByte := 10, hostNode := some { id := "h" }, positionAdvice := .mustRemote } }

def threeRemote : List Action :=
  [.place ["n"] (remoteVolume "a"), .place ["n"] (remoteVolume "b"), .place ["n"] (remoteVolume "c"), .unbind "a"]

def twoAtMost : SchedulerConfig := { filters := ["Basic"], maxRemoteVolumeCount := 2 }

theorem threeRemote_withinLimits :
    ((withPools Kube.exact [remotePool]).nodeMap.lookup "n").isSome ∧
      Runs.Always (step Kube.exact Priority.insertion twoAtMost) (WithinLimits twoAtMost)
        (withPools Kube.exact [remotePool]) threeRemote := by
  refine ⟨by decide +kernel, always_withinLimits Kube.exact Priority.insertion twoAtMost ?_ ?_ [remotePool]
    threeRemote ?_⟩
  · decide
  · decide
  · simp [threeRemote, Action.Opens, Open, remoteVolume, ObjectMeta.annotationAt]

example : ((Runs.run (step Kube.exact Priority.insertion twoAtMost) (withPools Kube.exact [remotePool])
    (threeRemote.take 3)).nodeMap.lookup "n").map (fun n => n.volumes.map fun vol => vol.name) =
      some ["a", "b"] := by
  decide +kernel

end Placement

end Liteio
