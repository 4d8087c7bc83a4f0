import Liteio.Scheduler.Choice
import Liteio.VolumeGroup.Sched

/-! # Volumes of a group and the node they are pinned to

`newVolume` of pkg/controller/manager/reconciler pins the volume of an entry to
the node of the entry by a required pool affinity. The scheduler obeys it unless
the volume carries the annotation that names a node, and the annotations of the
group and of its volume template are copied into the volume.
-/

namespace Liteio

open MachineInt FilterChain

def volumeGroupNameLabelKey : String := "obnvmf/vol-group-name"

def groupVersion : String := "volume.antstor.alipay.com/v1"

def antstorVolumeGroupKind : String := "AntstorVolumeGroup"

def copyLabel (labels : StringMap) : FiniteMap String String := labels.getD ∅

def inheritedAnnotations (group : AntstorVolumeGroup) : FiniteMap String String :=
  (copyLabel group.annotations).filterKeys fun key => "obnvmf".toList.isPrefixOf key.toList

def pinTo (nodeName : String) : NodeAffinity where
  requiredDuringSchedulingIgnoredDuringExecution := some
    { nodeSelectorTerms :=
        [{ matchExpressions := [{ key := poolLabelsNodeSnKey, operator := .opIn, values := [nodeName] }] }] }

def newVolume (group : AntstorVolumeGroup) (volId : EntityIdentity) (volSize : ℤ) (volTgtNode : String) :
    AntstorVolume where
  ns := volId.ns
  name := volId.name
  labels := some ((copyLabel group.spec.desiredVolumeSpec.labels).insert volumeGroupNameLabelKey group.name)
  annotations := some (inheritedAnnotations group ∪ copyLabel group.spec.desiredVolumeSpec.annotations)
  ownerReferences :=
    [{ apiVersion := groupVersion
       kind := antstorVolumeGroupKind
       name := group.name
       uid := group.uid
       blockOwnerDeletion := some true }]
  spec := {
    uuid := volId.uuid
    type := .flexible
    sizeByte := uint64 volSize
    poolAffinity := some (pinTo volTgtNode)
    hostNode := some {} }

/-- A single requirement that a label be one given value is matched only by
that value. -/
def Kube.MatchesIn (K : Kube) : Prop :=
  ∀ (node : KubeNode) (key value : String),
    K.matchNodeSelectorTerms node
      { nodeSelectorTerms := [{ matchExpressions := [{ key := key, operator := .opIn, values := [value] }] }] } =
      some true → FiniteMap.find node.labels key = some value

theorem Kube.exact_matchesIn : Kube.exact.MatchesIn := by
  intro node key value h
  simp only [exact, List.any_cons, List.any_nil, List.all_cons, List.all_nil, Option.some.injEq] at h
  cases hLabel : FiniteMap.find node.labels key with
  | none => simp [hLabel] at h
  | some found => simpa [hLabel] using h

/-- The node a volume of the group asks for by annotation. The annotation of the
group wins, since its key is one that is copied. -/
def selectedTgtNode (group : AntstorVolumeGroup) : Option String :=
  (group.annotationAt selectedTgtNodeKey).or
    (FiniteMap.find group.spec.desiredVolumeSpec.annotations selectedTgtNodeKey)

theorem lookup_copyLabel (labels : StringMap) (key : String) :
    (copyLabel labels).lookup key = FiniteMap.find labels key :=
  FiniteMap.lookup_getD labels key

theorem newVolume_selected (group : AntstorVolumeGroup) (volId : EntityIdentity) (volSize : ℤ)
    (volTgtNode : String) :
    (newVolume group volId volSize volTgtNode).annotationAt selectedTgtNodeKey = selectedTgtNode group := by
  change Finmap.lookup _ (inheritedAnnotations group ∪ copyLabel _) = _
  rw [FiniteMap.lookup_union_eq, inheritedAnnotations, FiniteMap.lookup_filterKeys, if_pos (by decide),
    lookup_copyLabel, lookup_copyLabel]
  rfl

def RejectedOrOn (nodeName : String) (out : Option Scheduled) : Prop :=
  match out.map Scheduled.result with
  | none => False
  | some (.error _) => True
  | some (.ok info) => info.id = nodeName

instance (nodeName : String) (out : Option Scheduled) : Decidable (RejectedOrOn nodeName out) := by
  unfold RejectedOrOn
  split <;> infer_instance

theorem affinityFilterFunc_pinned {K : Kube} (hMatches : K.MatchesIn) {cfg : SchedulerConfig}
    {vol : AntstorVolume} {nodeName : String} (hPinned : vol.spec.poolAffinity = some (pinTo nodeName))
    {n n' : Node} (h : affinityFilterFunc K cfg vol n = some (n', .pass)) :
    n.pool.label poolLabelsNodeSnKey = some nodeName := by
  have hMatch := (affinityFilterFunc_pass_iff.mp h).2.2.2.1
  rw [matchesAffinity, hPinned] at hMatch
  exact hMatches (convertPoolLabels n.pool.labels) _ _ (of_decide_eq_true hMatch)

section

variable {K : Kube} {sorter : Sorter Priority.better} {cfg : SchedulerConfig} {allNodes : List Node}

def Labelled (nodes : List Node) : Prop := ∀ n ∈ nodes, n.pool.label poolLabelsNodeSnKey = some n.info.id

instance (nodes : List Node) : Decidable (Labelled nodes) := inferInstanceAs (Decidable (∀ n ∈ nodes, _))

theorem scheduleVolume_pinned (hMatches : K.MatchesIn) (hAffinity : "Affinity" ∈ cfg.filters)
    (hLabels : Labelled allNodes) {vol : AntstorVolume} {nodeName : String}
    (hPinned : vol.spec.poolAffinity = some (pinTo nodeName))
    (hSelected : vol.annotationAt selectedTgtNodeKey = none) {out : Scheduled} {info : NodeInfo}
    (h : scheduleVolume K sorter cfg allNodes vol = some out) (hOk : out.result = .ok info) :
    info.id = nodeName := by
  obtain ⟨n, hMem, rfl, hFilters⟩ := scheduleVolume_choice hSelected h hOk
  have hConfigured : affinityFilterFunc K ∈ loadFilterFromConfig K cfg :=
    mem_loadFilterFromConfig.mpr ⟨"Affinity", hAffinity, rfl⟩
  obtain ⟨m, m', hPool, hPass⟩ := hFilters _ hConfigured
  have hLabel := affinityFilterFunc_pinned hMatches hPinned hPass
  rw [hPool, hLabels n hMem] at hLabel
  exact Option.some.inj hLabel

/-- The volume of an entry is rejected or lands on the node of the entry exactly
when no annotation selects another node. -/
theorem newVolume_respected_iff (hMatches : K.MatchesIn) (hAffinity : "Affinity" ∈ cfg.filters)
    (hLabels : Labelled allNodes) (group : AntstorVolumeGroup) (entry : VolumeMeta) :
    RejectedOrOn entry.targetNodeName (scheduleVolume K sorter cfg allNodes
        (newVolume group entry.volId entry.size entry.targetNodeName)) ↔
      ∀ nodeName, selectedTgtNode group = some nodeName → nodeName = entry.targetNodeName := by
  rw [← newVolume_selected group entry.volId entry.size entry.targetNodeName]
  cases hSelected : (newVolume group entry.volId entry.size entry.targetNodeName).annotationAt
      selectedTgtNodeKey with
  | some nodeName =>
    obtain ⟨info, rfl, hOut⟩ := scheduleVolume_selected hSelected
    rw [hOut]
    simp [RejectedOrOn]
  | none =>
    refine iff_of_true ?_ (by simp)
    have hHost : (newVolume group entry.volId entry.size entry.targetNodeName).spec.hostNode.isSome := rfl
    obtain ⟨out, hOut⟩ := Option.isSome_iff_exists.mp (scheduleVolume_total K sorter cfg allNodes hHost)
    rw [hOut]
    cases hResult : out.result with
    | error err => simp [RejectedOrOn, hResult]
    | ok info =>
      simp only [RejectedOrOn, Option.map_some, hResult]
      exact scheduleVolume_pinned hMatches hAffinity hLabels rfl hSelected hOut hResult

def labelledPair : List Node := ["a", "b"].map fun id => .newNode
  { labels := some (Finmap.singleton poolLabelsNodeSnKey id)
    spec := { nodeInfo := { id := id } }
    status := {
      capacity := Finmap.singleton resourceDiskPoolByte 100
      conditions := [{ type := .spdk, status := .ok }]
      status := .ready } }

def onA : VolumeMeta where
  volId := { ns := "d", name := "g-0", uuid := "u" }
  targetNodeName := "a"
  size := 10

theorem plain_group_respected : RejectedOrOn "a" (scheduleVolume .exact Priority.insertion basicAndAffinity
    labelledPair (newVolume { spec := { volumes := [onA] } } onA.volId onA.size "a")) :=
  (newVolume_respected_iff Kube.exact_matchesIn (by decide) (by decide)
    { spec := { volumes := [onA] } } onA).mpr (by decide)

/-- The annotation of the group sends the volume of the entry to the other node. -/
theorem selected_group_not_respected : ¬ RejectedOrOn "a" (scheduleVolume .exact Priority.insertion
    basicAndAffinity labelledPair
    (newVolume
      { annotations := some (Finmap.singleton selectedTgtNodeKey "b"), spec := { volumes := [onA] } }
      onA.volId onA.size "a")) := by
  decide

end

end Liteio
