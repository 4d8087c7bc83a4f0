import Liteio.Migration.Protocol
import Liteio.Scheduler.Winners
import Liteio.VolumeGroup.Pinned

/-! # Where the destination of a migration is placed

The controller keeps the destination off the node of the source by one pool
selector, which replaces the selector the source has itself. It copies the other
annotations, a selected node included, and neither of the two affinities.
-/

namespace Liteio

open FilterChain

def isValidLabelValue (value : String) : Bool :=
  value.length ≤ 63 &&
    value.toList.all (fun c => c.isAlphanum || c = '-' || c = '_' || c = '.') &&
    value.toList.head?.all Char.isAlphanum && value.toList.getLast?.all Char.isAlphanum

def Kube.SelectsNot (K : Kube) : Prop :=
  ∀ value, isValidLabelValue value → ∃ matched,
    K.parseLabelSelector (poolLabelsNodeSnKey ++ "!=" ++ value) = some matched ∧
      ∀ labels, matched labels = decide (FiniteMap.find labels poolLabelsNodeSnKey ≠ some value)

def Kube.parseNotEqual (selector : String) : Option (StringMap → Bool) :=
  match selector.toList.dropWhile fun c => c ≠ '!' with
  | '!' :: '=' :: value => some fun labels =>
    FiniteMap.find labels (String.ofList (selector.toList.takeWhile fun c => c ≠ '!')) ≠
      some (String.ofList value)
  | _ => none

def Kube.selecting : Kube := { Kube.exact with parseLabelSelector := Kube.parseNotEqual }

theorem cut_nodeSnKey {c : Char} (hc : c ∉ poolLabelsNodeSnKey.toList) (rest : List Char) :
    (poolLabelsNodeSnKey.toList ++ c :: rest).dropWhile (fun d => d ≠ c) = c :: rest ∧
      (poolLabelsNodeSnKey.toList ++ c :: rest).takeWhile (fun d => d ≠ c) = poolLabelsNodeSnKey.toList := by
  have hKey : ∀ d ∈ poolLabelsNodeSnKey.toList, (decide (d ≠ c)) = true := by
    intro d hd
    exact decide_eq_true fun hSame => hc (hSame ▸ hd)
  rw [List.dropWhile_append_of_pos hKey, List.takeWhile_append_of_pos hKey]
  simp

theorem Kube.selecting_selectsNot : Kube.selecting.SelectsNot := by
  intro value _
  have hList : (poolLabelsNodeSnKey ++ "!=" ++ value).toList =
      poolLabelsNodeSnKey.toList ++ '!' :: '=' :: value.toList := by
    simp [String.toList_append]
  obtain ⟨hDrop, hTake⟩ := @cut_nodeSnKey '!' (by decide) ('=' :: value.toList)
  refine ⟨_, ?_, fun labels => rfl⟩
  rw [selecting]
  dsimp only [parseNotEqual]
  rw [hList, hDrop, hTake]
  simp

def passesAffinity (K : Kube) (cfg : SchedulerConfig) (vol : AntstorVolume) (n : Node) : Bool :=
  (affinityFilterFunc K cfg vol n).map Prod.snd = some .pass

theorem passesAffinity_iff {K : Kube} {cfg : SchedulerConfig} {vol : AntstorVolume} {n : Node} :
    passesAffinity K cfg vol n ↔
      matchesAffinity K vol.spec.nodeAffinity (convertNodeInfo n.info) ∧
        matchesSelector K (vol.annotationAt nodeLabelSelectorKey) n.info.labels ∧
        matchesAffinity K vol.spec.poolAffinity (convertPoolLabels n.pool.labels) ∧
        matchesSelector K (vol.annotationAt poolLabelSelectorKey) n.pool.labels := by
  have hSame : (affinityFilterFunc K cfg vol n).map Prod.snd = some .pass ↔
      affinityFilterFunc K cfg vol n = some (n, .pass) := by
    simp [affinityFilterFunc]
  rw [passesAffinity, decide_eq_true_eq, hSame, affinityFilterFunc_pass_iff]
  exact and_iff_right rfl

theorem matchesSelector_of_qualifies {K : Kube} {cfg : SchedulerConfig} {vol : AntstorVolume} {n n' : Node}
    (hAffinity : "Affinity" ∈ cfg.filters) (h : Qualifies K cfg vol n n') :
    matchesSelector K (vol.annotationAt nodeLabelSelectorKey) n.info.labels = true ∧
      matchesSelector K (vol.annotationAt poolLabelSelectorKey) n.pool.labels = true := by
  have hConfigured : affinityFilterFunc K ∈ loadFilterFromConfig K cfg :=
    mem_loadFilterFromConfig.mpr ⟨"Affinity", hAffinity, rfl⟩
  obtain ⟨k, k', hPool, hPass⟩ := (passAllFilters_pool (forall_loadFilterFromConfig K cfg) h).2 _ hConfigured
  obtain ⟨-, -, hNode, -, hSelector⟩ := affinityFilterFunc_pass_iff.mp hPass
  rw [Node.info, hPool] at hNode
  rw [hPool] at hSelector
  exact ⟨hNode, hSelector⟩

namespace Migration

section

variable {K : Kube} {cfg : SchedulerConfig} {allNodes : List Node} {m : VolumeMigration}
  {srcVol : AntstorVolume} {target : SpdkTarget} {n : Node}

/-- A place for the destination: another node than that of the source, and one
the source might be on. -/
def PlacedFor (K : Kube) (cfg : SchedulerConfig) (allNodes : List Node) (srcVol : AntstorVolume)
    (nodeName : String) : Prop :=
  nodeName ≠ srcVol.spec.targetNodeId ∧ ∃ n ∈ allNodes, n.info.id = nodeName ∧ passesAffinity K cfg srcVol n

instance (nodeName : String) : Decidable (PlacedFor K cfg allNodes srcVol nodeName) :=
  inferInstanceAs (Decidable (_ ∧ _))

def MeetsDropped (K : Kube) (srcVol : AntstorVolume) (n : Node) : Prop :=
  matchesAffinity K srcVol.spec.nodeAffinity (convertNodeInfo n.info) ∧
    matchesAffinity K srcVol.spec.poolAffinity (convertPoolLabels n.pool.labels) ∧
    matchesSelector K (srcVol.annotationAt poolLabelSelectorKey) n.pool.labels

theorem newDestVolume_poolLabelSelector :
    (Controller.newDestVolume m srcVol target).annotationAt poolLabelSelectorKey =
      some (poolLabelsNodeSnKey ++ "!=" ++ srcVol.spec.targetNodeId) :=
  Finmap.lookup_insert _

variable (m srcVol target) in
theorem newDestVolume_annotationAt {key : String} (h : key ≠ poolLabelSelectorKey) :
    (Controller.newDestVolume m srcVol target).annotationAt key = srcVol.annotationAt key := by
  refine (Finmap.lookup_insert_of_ne _ h).trans ?_
  exact FiniteMap.lookup_getD srcVol.annotations key

theorem qualifies_newDestVolume (hSelects : K.SelectsNot) (hAffinity : "Affinity" ∈ cfg.filters)
    (hLabel : n.pool.label poolLabelsNodeSnKey = some n.info.id) (hValid : isValidLabelValue n.info.id)
    {n' : Node} (h : Qualifies K cfg (Controller.newDestVolume m srcVol target) n n') :
    n.info.id ≠ srcVol.spec.targetNodeId ∧
      matchesSelector K (srcVol.annotationAt nodeLabelSelectorKey) n.info.labels := by
  obtain ⟨hNode, hSelector⟩ := matchesSelector_of_qualifies hAffinity h
  rw [newDestVolume_annotationAt m srcVol target (by decide)] at hNode
  rw [newDestVolume_poolLabelSelector] at hSelector
  refine ⟨?_, hNode⟩
  intro hSame
  obtain ⟨matched, hParse, hMatched⟩ := hSelects n.info.id hValid
  rw [← hSame, matchesSelector, Option.bind_some, hParse] at hSelector
  dsimp only at hSelector
  rw [hMatched, decide_eq_true_eq] at hSelector
  exact hSelector hLabel

theorem placedFor_iff_meetsDropped (hSelects : K.SelectsNot) (hAffinity : "Affinity" ∈ cfg.filters)
    (hLabels : Labelled allNodes) (hValid : ∀ n ∈ allNodes, isValidLabelValue n.info.id)
    (hDistinct : DistinctIds allNodes) (hn : n ∈ allNodes) {n' : Node}
    (h : Qualifies K cfg (Controller.newDestVolume m srcVol target) n n') :
    PlacedFor K cfg allNodes srcVol n.info.id ↔ MeetsDropped K srcVol n := by
  obtain ⟨hOther, hCopied⟩ := qualifies_newDestVolume hSelects hAffinity (hLabels n hn) (hValid n hn) h
  constructor
  · rintro ⟨-, k, hk, hId, hPass⟩
    obtain rfl := hDistinct k hk n hn hId
    obtain ⟨hNode, -, hPool, hSelector⟩ := passesAffinity_iff.mp hPass
    exact ⟨hNode, hPool, hSelector⟩
  · rintro ⟨hNode, hPool, hSelector⟩
    exact ⟨hOther, n, hn, rfl, passesAffinity_iff.mpr ⟨hNode, hCopied, hPool, hSelector⟩⟩

/-- The destination of a source with this selected node is well placed: the
selected node is, or, without one, every node that may win for the destination
meets what it does not inherit. -/
def DestinationSafe (K : Kube) (cfg : SchedulerConfig) (allNodes : List Node) (srcVol dest : AntstorVolume) :
    Prop :=
  match srcVol.annotationAt selectedTgtNodeKey with
  | some nodeName => PlacedFor K cfg allNodes srcVol nodeName
  | none => (∀ n ∈ allNodes, Evaluates K cfg dest n) ∧
      ∀ n ∈ allNodes, Wins K cfg dest allNodes n → MeetsDropped K srcVol n

/-- The destination that a pass creates is rejected or placed on another node
that the source might be on, whatever the sorting routine, exactly when its
selected node or the nodes that may win are such. -/
theorem destination_placed_iff (hSelects : K.SelectsNot) (hAffinity : "Affinity" ∈ cfg.filters)
    (hLabels : Labelled allNodes) (hValid : ∀ n ∈ allNodes, isValidLabelValue n.info.id)
    (hDistinct : DistinctIds allNodes) {ans : Answers} (hSource : ans.srcVol = .found srcVol)
    {dest : AntstorVolume} (hCreate : .createVolume dest ∈ (Controller.reconcile ans m).calls) :
    (∀ sorter, RejectedOr (fun info => PlacedFor K cfg allNodes srcVol info.id)
        (scheduleVolume K sorter cfg allNodes dest)) ↔
      DestinationSafe K cfg allNodes srcVol dest := by
  obtain ⟨source, target, hFound, -, hCall⟩ := controller_calls hCreate
  rw [hSource] at hFound
  cases hFound
  cases hCall
  have hAnnotation := newDestVolume_annotationAt m srcVol target
    (show selectedTgtNodeKey ≠ poolLabelSelectorKey by decide)
  unfold DestinationSafe
  split
  · rename_i nodeName hSelected
    rw [hSelected] at hAnnotation
    refine ⟨fun h => ?_, fun h sorter => ?_⟩
    · exact (selected_rejectedOr_iff hAnnotation Priority.insertion _).mp (h _)
    · exact (selected_rejectedOr_iff hAnnotation sorter _).mpr h
  · rename_i hSelected
    rw [hSelected] at hAnnotation
    rw [scheduleVolume_rejectedOr_iff hAnnotation hDistinct]
    refine and_congr_right fun _ => forall₂_congr fun n hn => imp_congr_right ?_
    rintro ⟨n', r, hQualifies, -⟩
    exact placedFor_iff_meetsDropped hSelects hAffinity hLabels hValid hDistinct hn hQualifies

def spdkPair : List Node := ["a", "b"].map fun id => .newNode
  { labels := some (Finmap.singleton poolLabelsNodeSnKey id)
    spec := { nodeInfo := { id := id }, spdkLVStore := { name := "lvs", uuid := "l" } }
    status := {
      capacity := Finmap.singleton resourceDiskPoolByte 100
      conditions := [{ type := .spdk, status := .ok }]
      status := .ready } }

def sourceOnA (annotations : StringMap) : AntstorVolume where
  name := "src"
  annotations := annotations
  spec := {
    type := .spdkLVol
    sizeByte := 10
    targetNodeId := "a"
    hostNode := some { id := "h" }
    spdkTarget := some { subsysNQN := "nqn" } }
  status := { status := .ready }

def creating : VolumeMigration where
  name := "m"
  labels := some (Finmap.singleton migrationLabelKeySourceNodeId "a")
  spec := {
    sourceVolume := { name := "src", targetNodeId := "a", hostNodeId := "h", spdk := { subsysNQN := "nqn" } }
    destVolume := { name := "mig-d", hostNodeId := "h" } }
  status := { phase := .creatingVolume, status := .working }

def noDestination (annotations : StringMap) : Answers where
  srcVol := .found (sourceOnA annotations)
  destVol := .notFound "mig-d"

def created (annotations : StringMap) : AntstorVolume :=
  Controller.newDestVolume creating (sourceOnA annotations) { subsysNQN := "nqn" }

/-- Without annotations or affinities the destination is placed well. -/
theorem plain_source_placed :
    .createVolume (created none) ∈ (Controller.reconcile (noDestination none) creating).calls ∧
      ∀ sorter, RejectedOr (fun info => PlacedFor .selecting basicAndAffinity spdkPair (sourceOnA none) info.id)
        (scheduleVolume .selecting sorter basicAndAffinity spdkPair (created none)) := by
  have hCreate : .createVolume (created none) ∈ (Controller.reconcile (noDestination none) creating).calls := by
    decide
  have hNodup : (spdkPair.map fun n => n.info.id).Nodup := by decide
  refine ⟨hCreate, (destination_placed_iff Kube.selecting_selectsNot (by decide) (by decide) (by decide)
    (fun n hn k hk => List.inj_on_of_nodup_map hNodup hn hk) rfl hCreate).mpr ⟨?_, ?_⟩⟩
  · exact fun n _ => evaluates_of_host rfl n
  · exact fun n _ _ => ⟨rfl, rfl, rfl⟩

def selectedA : StringMap := some (Finmap.singleton selectedTgtNodeKey "a")

/-- The node that was selected for the source is selected for its destination. -/
theorem selected_source_not_placed :
    .createVolume (created selectedA) ∈ (Controller.reconcile (noDestination selectedA) creating).calls ∧
      ¬ RejectedOr (fun info => PlacedFor .selecting basicAndAffinity spdkPair (sourceOnA selectedA) info.id)
        (scheduleVolume .selecting Priority.insertion basicAndAffinity spdkPair (created selectedA)) := by
  decide

end

end Migration

end Liteio
