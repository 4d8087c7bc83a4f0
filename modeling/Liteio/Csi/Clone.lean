import Liteio.Csi.Create
import Liteio.Migration.Placement

/-! # Where the clone of a snapshot is placed

A volume made from a snapshot is tied to the node of the snapshot by a pool
selector in its annotations. The annotations of the claim are copied after it: a
selector of the claim replaces the one of the snapshot, and a node that the claim
selects is taken without a look at either.
-/

namespace Liteio

open FilterChain

/-- The selector of a label that is a valid value is read as such. -/
def Kube.SelectsEqual (K : Kube) : Prop :=
  ∀ value, isValidLabelValue value → ∃ matched,
    K.parseLabelSelector (poolLabelsNodeSnKey ++ "=" ++ value) = some matched ∧
      ∀ labels, matched labels = decide (FiniteMap.find labels poolLabelsNodeSnKey = some value)

def Kube.parseEqual (selector : String) : Option (StringMap → Bool) :=
  match selector.toList.dropWhile fun c => c ≠ '=' with
  | '=' :: value => some fun labels =>
    FiniteMap.find labels (String.ofList (selector.toList.takeWhile fun c => c ≠ '=')) =
      some (String.ofList value)
  | _ => none

def Kube.pinning : Kube := { Kube.exact with parseLabelSelector := Kube.parseEqual }

theorem Kube.pinning_selectsEqual : Kube.pinning.SelectsEqual := by
  intro value _
  have hList : (poolLabelsNodeSnKey ++ "=" ++ value).toList =
      poolLabelsNodeSnKey.toList ++ '=' :: value.toList := by
    simp [String.toList_append]
  obtain ⟨hDrop, hTake⟩ := @cut_nodeSnKey '=' (by decide) value.toList
  refine ⟨_, ?_, fun labels => rfl⟩
  rw [pinning]
  dsimp only [parseEqual]
  rw [hList, hDrop, hTake]
  simp

namespace Csi

structure Clones (api : Answers) (req : CreateVolumeRequest) (uuid : String) (snap : AntstorSnapshot)
    (vol : AntstorVolume) : Prop where
  source : ∃ id, req.snapshotId = some id ∧ api.getSnapshotByID id = some snap
  created : (createVolume api req).bind (createPV uuid) = .ok vol

variable {api : Answers} {req : CreateVolumeRequest} {uuid : String} {snap : AntstorSnapshot}
  {vol : AntstorVolume} {opt : PVCreateOption} {key : String}

theorem withContentSource_snapshot {id : String} (hId : req.snapshotId = some id)
    (hSnap : api.getSnapshotByID id = some snap) {source : PVCreateOption}
    (h : withContentSource api req opt = .ok source) : source = fromSnapshot snap opt := by
  rw [withContentSource, hId] at h
  dsimp only at h
  rw [hSnap] at h
  dsimp only at h
  split at h
  · cases h
  · exact (Except.ok.inj h).symm

namespace Clones

/-- An annotation under a key of this system comes from the claim, from the
snapshot or is the file system. -/
theorem annotationAt (h : Clones api req uuid snap vol) (hKey : "obnvmf/".toList.isPrefixOf key.toList)
    (hOther : key ≠ fsTypeLabelKey) :
    vol.annotationAt key = (annotationOfClaim api req key).or
      (if key = poolLabelSelectorKey then
        some (poolLabelsNodeSnKey ++ "=" ++ snap.spec.originVolTargetNodeID) else none) := by
  obtain ⟨⟨id, hId, hSnap⟩, hCreated⟩ := h
  obtain ⟨size, source, hSource, hAnno⟩ := volume_annotationAt hKey hCreated
  obtain rfl := withContentSource_snapshot hId hSnap hSource
  rw [hAnno, fromSnapshot]
  dsimp only
  rw [FiniteMap.lookup_insert_eq]
  congr 1
  split
  · rfl
  · rw [initialOption]
    exact Finmap.lookup_eq_none.mpr fun hMem => hOther (Finmap.mem_singleton _ _ _ |>.mp hMem)

theorem selected (h : Clones api req uuid snap vol) :
    vol.annotationAt selectedTgtNodeKey = annotationOfClaim api req selectedTgtNodeKey := by
  rw [h.annotationAt (by decide) (by decide), if_neg (by decide), Option.or_none]

theorem poolLabelSelector (h : Clones api req uuid snap vol) :
    vol.annotationAt poolLabelSelectorKey = (annotationOfClaim api req poolLabelSelectorKey).or
      (some (poolLabelsNodeSnKey ++ "=" ++ snap.spec.originVolTargetNodeID)) := by
  rw [h.annotationAt (by decide) (by decide), if_pos rfl]

theorem host (h : Clones api req uuid snap vol) : vol.spec.hostNode.isSome := by
  obtain ⟨opt, -, hCreated⟩ := Requests.bind_eq_ok h.created
  rw [(createPV_madeFrom hCreated).hostNode]
  rfl

end Clones

section

variable {K : Kube} {cfg : SchedulerConfig} {allNodes : List Node}

/-- The claim selects the node of the snapshot; or it selects none, and has no
selector for pools, or one that matches no pool but that of the snapshot. A
selector that does not parse matches every pool. -/
def CloneSafe (K : Kube) (allNodes : List Node) (api : Answers) (req : CreateVolumeRequest)
    (snap : AntstorSnapshot) : Prop :=
  match annotationOfClaim api req selectedTgtNodeKey, annotationOfClaim api req poolLabelSelectorKey with
  | some nodeName, _ => nodeName = snap.spec.originVolTargetNodeID
  | none, none => True
  | none, some selector => ∀ n ∈ allNodes, matchesSelector K (some selector) n.pool.labels = true →
      n.info.id = snap.spec.originVolTargetNodeID

instance : Decidable (CloneSafe K allNodes api req snap) := by
  unfold CloneSafe
  split <;> infer_instance

/-- With such a claim the clone qualifies on the node of its snapshot only. -/
theorem Clones.qualifies (h : Clones api req uuid snap vol) (hSelects : K.SelectsEqual)
    (hAffinity : "Affinity" ∈ cfg.filters) (hOrigin : isValidLabelValue snap.spec.originVolTargetNodeID)
    (hSafe : CloneSafe K allNodes api req snap) (hSelected : annotationOfClaim api req selectedTgtNodeKey = none)
    {n n' : Node} (hn : n ∈ allNodes) (hLabel : n.pool.label poolLabelsNodeSnKey = some n.info.id)
    (hQualifies : Qualifies K cfg vol n n') : n.info.id = snap.spec.originVolTargetNodeID := by
  have hMatch := (matchesSelector_of_qualifies hAffinity hQualifies).2
  rw [h.poolLabelSelector] at hMatch
  rw [CloneSafe, hSelected] at hSafe
  cases hClaim : annotationOfClaim api req poolLabelSelectorKey with
  | some selector =>
    rw [hClaim] at hSafe hMatch
    exact hSafe n hn hMatch
  | none =>
    obtain ⟨matched, hParse, hMatched⟩ := hSelects _ hOrigin
    rw [hClaim, Option.none_or, matchesSelector, Option.bind_some, hParse] at hMatch
    dsimp only at hMatch
    rw [hMatched, decide_eq_true_eq] at hMatch
    exact Option.some.inj (hLabel.symm.trans hMatch)

/-- The clone is rejected or placed on the node of its snapshot, whatever the
sorting routine, where the annotations of the claim are safe for it. -/
theorem clone_placed (hSelects : K.SelectsEqual) (hAffinity : "Affinity" ∈ cfg.filters)
    (hOrigin : isValidLabelValue snap.spec.originVolTargetNodeID) (hLabels : Labelled allNodes)
    (hDistinct : DistinctIds allNodes) (h : Clones api req uuid snap vol)
    (hSafe : CloneSafe K allNodes api req snap) (sorter : Sorter Priority.better) :
    RejectedOr (fun info => info.id = snap.spec.originVolTargetNodeID)
      (scheduleVolume K sorter cfg allNodes vol) := by
  have hAnnotation := h.selected
  cases hSelected : annotationOfClaim api req selectedTgtNodeKey with
  | some nodeName =>
    rw [hSelected] at hAnnotation
    rw [CloneSafe, hSelected] at hSafe
    exact (selected_rejectedOr_iff hAnnotation sorter fun id => id = snap.spec.originVolTargetNodeID).mpr hSafe
  | none =>
    rw [hSelected] at hAnnotation
    refine (scheduleVolume_rejectedOr_iff hAnnotation hDistinct
      fun info => info.id = snap.spec.originVolTargetNodeID).mpr ⟨fun n _ => evaluates_of_host h.host n, ?_⟩ sorter
    rintro n hn ⟨n', r, hQualifies, -⟩
    exact h.qualifies hSelects hAffinity hOrigin hSafe hSelected hn (hLabels n hn) hQualifies

def snapshotOnA : AntstorSnapshot where
  ns := "obnvmf"
  name := "snap"
  spec := { uuid := "s", volType := .spdkLVol, originVolTargetNodeID := "a" }
  status := .ready

def snapshotApi (annotations : StringMap) : Answers where
  getSnapshotByID _ := some snapshotOnA
  getClaim _ _ := some { name := "claim", ns := "default", annotations := annotations }
  getByNodeID _ := none

def cloneRequest : CreateVolumeRequest where
  name := "clone"
  requiredBytes := some fourMiB
  parameters := (Finmap.singleton pvcNamespaceKey "default").insert pvcNameKey "claim"
  snapshotId := some "s"

def cloneOf (annotations : StringMap) : AntstorVolume :=
  match (createVolume (snapshotApi annotations) cloneRequest).bind (createPV "u") with
  | .ok vol => vol
  | .error _ => {}

def roomyPair : List Node := ["a", "b"].map fun id => .newNode
  { labels := some (Finmap.singleton poolLabelsNodeSnKey id)
    spec := { nodeInfo := { id := id }, spdkLVStore := { name := "lvs", uuid := "l" } }
    status := {
      capacity := Finmap.singleton resourceDiskPoolByte (2 ^ 30)
      conditions := [{ type := .spdk, status := .ok }]
      status := .ready } }

def selectorOf (id : String) : StringMap :=
  some (Finmap.singleton poolLabelSelectorKey (poolLabelsNodeSnKey ++ "=" ++ id))

def ClonedOnA (annotations : StringMap) : Prop :=
  Clones (snapshotApi annotations) cloneRequest "u" snapshotOnA (cloneOf annotations) ∧
    ∀ sorter, RejectedOr (fun info => info.id = "a")
      (scheduleVolume .pinning sorter basicAndAffinity roomyPair (cloneOf annotations))

/-- Without a selector, and with one that matches the pool of the snapshot only. -/
theorem plainClone_placed : ClonedOnA none ∧ ClonedOnA (selectorOf "a") := by
  have hNodup : (roomyPair.map fun n => n.info.id).Nodup := by decide
  have hCloned {annotations : StringMap}
      (hCreated : (createVolume (snapshotApi annotations) cloneRequest).bind (createPV "u") = .ok (cloneOf annotations))
      (hSafe : CloneSafe .pinning roomyPair (snapshotApi annotations) cloneRequest snapshotOnA) :
      ClonedOnA annotations := by
    have hClones : Clones (snapshotApi annotations) cloneRequest "u" snapshotOnA (cloneOf annotations) :=
      ⟨⟨"s", rfl, rfl⟩, hCreated⟩
    exact ⟨hClones, clone_placed Kube.pinning_selectsEqual (by decide) (by decide) (by decide)
      (fun n hn k hk => List.inj_on_of_nodup_map hNodup hn hk) hClones hSafe⟩
  exact ⟨hCloned (by decide +kernel) (by decide +kernel), hCloned (by decide +kernel) (by decide +kernel)⟩

/-- The selector of the claim replaces the one of the snapshot. -/
theorem claimSelector_not_placed :
    ((createVolume (snapshotApi (selectorOf "b")) cloneRequest).bind (createPV "u") = .ok (cloneOf (selectorOf "b"))) ∧
      ¬ RejectedOr (fun info => info.id = "a")
        (scheduleVolume .pinning Priority.insertion basicAndAffinity roomyPair (cloneOf (selectorOf "b"))) := by
  decide +kernel

end

end Csi

end Liteio
