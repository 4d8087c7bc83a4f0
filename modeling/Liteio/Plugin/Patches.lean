import Liteio.Plugin.Phases

/-! # What PreBind's patches change for Filter

The patches survive the cycle on the API server. A pod that is tried again is
filtered with the same claims but for the two annotations of the patched ones,
and of these the filters only read the reservation ID, in the basic filter.
-/

namespace Liteio.Plugin

open MachineInt FilterChain Handler

def patchedBy (nodeName : String) (names : List String) (pvc : PersistentVolumeClaim) :
    PersistentVolumeClaim :=
  if pvc.namespacedName ∈ names then bindClaim nodeName pvc.namespacedName pvc else pvc

theorem annotation_bindClaim (nodeName resvID key : String) (pvc : PersistentVolumeClaim) :
    (bindClaim nodeName resvID pvc).annotationAt key =
      if key = reservationIDKey then some resvID
      else if key = selectedTgtNodeKey then some nodeName
      else pvc.annotationAt key := by
  change Finmap.lookup key (Finmap.insert _ _ (Finmap.insert _ _ _)) = _
  rw [FiniteMap.lookup_insert_eq, FiniteMap.lookup_insert_eq, ObjectMeta.annotationAt]
  cases pvc.annotations <;> rfl

theorem bindClaim_bindClaim (nodeName resvID : String) (pvc : PersistentVolumeClaim) :
    bindClaim nodeName resvID (bindClaim nodeName resvID pvc) = bindClaim nodeName resvID pvc := by
  have hAnnotations : (bindClaim nodeName resvID (bindClaim nodeName resvID pvc)).annotations =
      (bindClaim nodeName resvID pvc).annotations := by
    apply congrArg some
    apply Finmap.ext_lookup
    intro key
    change (bindClaim nodeName resvID (bindClaim nodeName resvID pvc)).annotationAt key =
      (bindClaim nodeName resvID pvc).annotationAt key
    rw [annotation_bindClaim, annotation_bindClaim]
    split
    · rfl
    · split <;> rfl
  unfold bindClaim at hAnnotations ⊢
  dsimp only at hAnnotations ⊢
  rw [hAnnotations]

theorem patchedBy_patchedBy (nodeName : String) (first rest : List String) (pvc : PersistentVolumeClaim) :
    patchedBy nodeName rest (patchedBy nodeName first pvc) = patchedBy nodeName (first ++ rest) pvc := by
  have hName : ∀ resvID, (bindClaim nodeName resvID pvc).namespacedName = pvc.namespacedName := fun _ => rfl
  by_cases hFirst : pvc.namespacedName ∈ first
  · by_cases hRest : pvc.namespacedName ∈ rest <;>
      simp [patchedBy, hFirst, hRest, hName, bindClaim_bindClaim]
  · simp [patchedBy, hFirst]

theorem patch_lookup (store : ClaimStore) (nodeName key : String) {resv : Reservation}
    (hId : resv.id = resv.namespacedName) :
    (store.patch nodeName resv).claims.lookup key =
      (store.claims.lookup key).map (patchedBy nodeName [resv.namespacedName]) := by
  have hPatched : ∀ pvc, store.claims.lookup key = some pvc → patchedBy nodeName [resv.namespacedName] pvc =
      if key = resv.namespacedName then bindClaim nodeName resv.id pvc else pvc := by
    intro pvc hPvc
    rw [patchedBy, store.keyed key pvc hPvc]
    by_cases hKey : key = resv.namespacedName <;> simp [hKey, hId]
  dsimp only [ClaimStore.patch]
  cases hOld : store.claims.lookup resv.namespacedName with
  | none =>
    cases hPvc : store.claims.lookup key with
    | none => rfl
    | some pvc =>
      have hKey : key ≠ resv.namespacedName := by
        rintro rfl
        rw [hOld] at hPvc
        cases hPvc
      rw [Option.map_some, hPatched pvc hPvc, if_neg hKey]
  | some old =>
    dsimp only
    rw [FiniteMap.lookup_insert_eq]
    split
    · rename_i hKey
      rw [← hKey] at hOld
      rw [hOld, Option.map_some, hPatched old hOld, if_pos hKey]
    · rename_i hKey
      cases hPvc : store.claims.lookup key with
      | none => rfl
      | some pvc => rw [Option.map_some, hPatched pvc hPvc, if_neg hKey]

theorem preBind_lookup (store : ClaimStore) (nodeName key : String) {resvs : List Reservation}
    (hIds : ∀ resv ∈ resvs, resv.id = resv.namespacedName) :
    (resvs.foldl (fun store resv => store.patch nodeName resv) store).claims.lookup key =
      (store.claims.lookup key).map (patchedBy nodeName (resvs.map Reservation.namespacedName)) := by
  induction resvs generalizing store with
  | nil =>
    have hNothing : patchedBy nodeName [] = id := by
      funext pvc
      simp [patchedBy]
    rw [List.map_nil, hNothing, Option.map_id, id_eq, List.foldl_nil]
  | cons resv resvs ih =>
    rw [List.foldl_cons, ih _ fun other hOther => hIds other (List.mem_cons_of_mem _ hOther),
      patch_lookup _ _ _ (hIds resv List.mem_cons_self), Option.map_map]
    congr 1
    funext pvc
    exact patchedBy_patchedBy nodeName [resv.namespacedName] _ pvc

section preFilter

variable {classes : StorageClassLookup} {store patched : ClaimStore} {patch : PersistentVolumeClaim → PersistentVolumeClaim}

/-- PreFilter reads the classes of the claims only, so a change of annotations
reaches the cycle data unchanged. -/
theorem readClaims_patched (hStore : ∀ key, patched.claims.lookup key = (store.claims.lookup key).map patch)
    (hClass : ∀ pvc, (patch pvc).storageClassName = pvc.storageClassName) (ns : String) (names : List String) :
    readClaims classes patched ns names = (readClaims classes store ns names).map fun claims =>
      claims.map fun claims => claims.map (Prod.map patch id) := by
  induction names with
  | nil => rfl
  | cons name names ih =>
    rw [readClaims, readClaims, hStore]
    cases hPvc : store.claims.lookup (ns ++ "/" ++ name) with
    | none => rfl
    | some pvc =>
      rw [Option.map_some]
      dsimp only
      rw [hClass]
      cases pvc.storageClassName with
      | none => rfl
      | some scName =>
        dsimp only
        cases classes scName with
        | none => rfl
        | some sc =>
          dsimp only
          rw [ih, Option.map_map, Option.map_map]
          congr 1
          funext rest
          cases rest <;> rfl

theorem cycleData_patched (claims : List (PersistentVolumeClaim × StorageClass)) :
    cycleData (claims.map (Prod.map patch id)) =
      { cycleData claims with
        mustLocalAntstorPVCs := (cycleData claims).mustLocalAntstorPVCs.map patch
        otherAntstorPVCs := (cycleData claims).otherAntstorPVCs.map patch } := by
  simp [cycleData, List.filter_map, Function.comp_def]

end preFilter

section filter

/-- The value the claims give to a key, of which the last one wins. -/
def mergedAnnotationAt (key : String) (pvcs : List PersistentVolumeClaim) : Option String :=
  pvcs.foldl (fun value pvc => (pvc.annotationAt key).or value) none

theorem mergedAnnotationAts_lookup {key : String} (hKey : "obnvmf/".toList.isPrefixOf key.toList)
    (pvcs : List PersistentVolumeClaim) :
    (mergedAnnotationAts pvcs).lookup key = mergedAnnotationAt key pvcs := by
  have hFold : ∀ annos : FiniteMap String String, (pvcs.foldl (fun annos pvc =>
      (pvc.annotations.getD ∅).filterKeys (fun key => "obnvmf/".toList.isPrefixOf key.toList) ∪ annos)
        annos).lookup key = pvcs.foldl (fun value pvc => (pvc.annotationAt key).or value) (annos.lookup key) := by
    induction pvcs with
    | nil => exact fun annos => rfl
    | cons pvc pvcs ih =>
      intro annos
      rw [List.foldl_cons, ih, List.foldl_cons, FiniteMap.lookup_union_eq, FiniteMap.lookup_filterKeys,
        if_pos hKey]
      congr 2
      rw [ObjectMeta.annotationAt]
      cases pvc.annotations <;> rfl
  exact hFold ∅

theorem mergedAnnotationAt_patched {key nodeName : String} (names : List String)
    (hReservation : key ≠ reservationIDKey) (hSelected : key ≠ selectedTgtNodeKey)
    (pvcs : List PersistentVolumeClaim) :
    mergedAnnotationAt key (pvcs.map (patchedBy nodeName names)) = mergedAnnotationAt key pvcs := by
  have hSame : ∀ pvc, (patchedBy nodeName names pvc).annotationAt key = pvc.annotationAt key := by
    intro pvc
    unfold patchedBy
    split
    · rw [annotation_bindClaim, if_neg hReservation, if_neg hSelected]
    · rfl
  rw [mergedAnnotationAt, List.foldl_map, mergedAnnotationAt]
  simp only [hSame]

theorem mergedAnnotationAt_append (key : String) (pvcs : List PersistentVolumeClaim)
    (pvc : PersistentVolumeClaim) :
    mergedAnnotationAt key (pvcs ++ [pvc]) = (pvc.annotationAt key).or (mergedAnnotationAt key pvcs) :=
  List.foldl_append

/-- After the patches the reservation ID of the claims is what it was, or that of
a claim. -/
theorem mergedAnnotationAt_reservationID (nodeName : String) (names : List String)
    (pvcs : List PersistentVolumeClaim) :
    mergedAnnotationAt reservationIDKey (pvcs.map (patchedBy nodeName names)) =
        mergedAnnotationAt reservationIDKey pvcs ∨
      ∃ pvc ∈ pvcs, mergedAnnotationAt reservationIDKey (pvcs.map (patchedBy nodeName names)) =
        some pvc.namespacedName := by
  induction pvcs using List.reverseRecOn with
  | nil => exact .inl rfl
  | append_singleton pvcs pvc ih =>
    rw [List.map_append, List.map_singleton, mergedAnnotationAt_append, mergedAnnotationAt_append]
    by_cases hPatched : pvc.namespacedName ∈ names
    · refine .inr ⟨pvc, List.mem_append_right _ List.mem_cons_self, ?_⟩
      rw [patchedBy, if_pos hPatched, annotation_bindClaim, if_pos rfl]
      rfl
    · rw [patchedBy, if_neg hPatched]
      cases pvc.annotationAt reservationIDKey with
      | some value => exact .inl rfl
      | none =>
        rcases ih with hSame | ⟨other, hMem, hOther⟩
        · exact .inl hSame
        · exact .inr ⟨other, List.mem_append_left _ hMem, hOther⟩

theorem virtualMustLocalVol_annotationAt {K : Kube} {pvcs : List PersistentVolumeClaim} {node : KubeNode}
    {key : String} (hKey : "obnvmf/".toList.isPrefixOf key.toList)
    (hSnapshot : key ≠ snapshotReservedSpaceAnnotationKey) :
    (virtualMustLocalVol K pvcs node).annotationAt key = mergedAnnotationAt key pvcs := by
  rw [← mergedAnnotationAts_lookup hKey]
  change Finmap.lookup key (if _ then Finmap.insert _ _ _ else _) = _
  split
  · rw [FiniteMap.lookup_insert_eq, if_neg hSnapshot]
  · rfl

structure SameRequest (vol other : AntstorVolume) : Prop where
  spec : other.spec = vol.spec
  labels : other.labels = vol.labels
  nodeSelector : other.annotationAt nodeLabelSelectorKey = vol.annotationAt nodeLabelSelectorKey
  poolSelector : other.annotationAt poolLabelSelectorKey = vol.annotationAt poolLabelSelectorKey

theorem matchReservationFilter_congr {vol other : AntstorVolume} (h : SameRequest vol other)
    (hReservation : other.annotationAt reservationIDKey = vol.annotationAt reservationIDKey) (n : Node) :
    matchReservationFilter other n = matchReservationFilter vol n := by
  rw [matchReservationFilter, matchReservationFilter, hReservation, h.spec]

theorem getFilterByName_congr {K : Kube} {name : String} {f : PredicateFunc} {vol other : AntstorVolume}
    (hName : getFilterByName K name = some f) (h : SameRequest vol other)
    (hBasic : name = "Basic" → other.annotationAt reservationIDKey = vol.annotationAt reservationIDKey)
    (cfg : SchedulerConfig) (n : Node) : f cfg other n = f cfg vol n := by
  unfold getFilterByName at hName
  split at hName
  · rename_i hBasicName
    cases hName
    unfold basicFilterFunc placementChecks
    rw [matchReservationFilter_congr h (hBasic hBasicName), h.spec]
  · split at hName
    · cases hName
      rw [affinityFilterFunc, affinityFilterFunc, h.spec, h.nodeSelector, h.poolSelector]
    · split at hName
      · cases hName
        rw [minLocalStorageFilterFunc, minLocalStorageFilterFunc, h.spec]
      · split at hName
        · cases hName
          rw [obReplicaFilterFunc, obReplicaFilterFunc, ObjectMeta.label, ObjectMeta.label, h.labels]
        · cases hName

theorem passAllFilters_congr {cfg : SchedulerConfig} {vol other : AntstorVolume} {filters : List PredicateFunc}
    (h : ∀ f ∈ filters, ∀ n, f cfg other n = f cfg vol n) (n : Node) :
    passAllFilters cfg other filters n = passAllFilters cfg vol filters n := by
  induction filters generalizing n with
  | nil => rfl
  | cons f filters ih =>
    rw [passAllFilters, passAllFilters, h f List.mem_cons_self n]
    cases f cfg vol n with
    | none => rfl
    | some out =>
      obtain ⟨m, verdict⟩ := out
      cases verdict with
      | reject reason => rfl
      | pass => exact ih (fun g hg => h g (List.mem_cons_of_mem _ hg)) m

theorem sameRequest_patched (K : Kube) (nodeName : String) (names : List String)
    (pvcs : List PersistentVolumeClaim) (node : KubeNode) :
    SameRequest (virtualMustLocalVol K pvcs node)
      (virtualMustLocalVol K (pvcs.map (patchedBy nodeName names)) node) where
  spec := by
    have hBytes : ∀ pvc, (patchedBy nodeName names pvc).requestBytes K = pvc.requestBytes K := by
      intro pvc
      unfold patchedBy
      split <;> rfl
    simp only [virtualMustLocalVol, List.foldl_map, hBytes]
  labels := rfl
  nodeSelector := by
    rw [virtualMustLocalVol_annotationAt (by decide) (by decide),
      virtualMustLocalVol_annotationAt (by decide) (by decide),
      mergedAnnotationAt_patched names (by decide) (by decide)]
  poolSelector := by
    rw [virtualMustLocalVol_annotationAt (by decide) (by decide),
      virtualMustLocalVol_annotationAt (by decide) (by decide),
      mergedAnnotationAt_patched names (by decide) (by decide)]

theorem isPVCFullyBound_patched (nodeName : String) (names : List String) (pvc : PersistentVolumeClaim) :
    isPVCFullyBound (patchedBy nodeName names pvc) = isPVCFullyBound pvc := by
  unfold patchedBy
  split
  · rw [isPVCFullyBound, annotation_bindClaim, if_neg (by decide), if_neg (by decide)]
    rfl
  · rfl

/-- The same nodes give the same verdicts to patched claims when the basic
filter is off or sees the same reservation ID. -/
theorem filter_patched {K : Kube} {cfg : SchedulerConfig} {s t : State} {data : CycleData} {nodeName : String}
    {names : List String} (others : List PersistentVolumeClaim)
    (hNodes : ∀ id, t.nodeMap.lookup id = s.nodeMap.lookup id)
    (hBasic : "Basic" ∈ cfg.filters →
      mergedAnnotationAt reservationIDKey (data.mustLocalAntstorPVCs.map (patchedBy nodeName names)) =
        mergedAnnotationAt reservationIDKey data.mustLocalAntstorPVCs) (node : KubeNode) :
    (filter K cfg t { data with
        mustLocalAntstorPVCs := data.mustLocalAntstorPVCs.map (patchedBy nodeName names)
        otherAntstorPVCs := others } node).map Prod.snd =
      (filter K cfg s data node).map Prod.snd := by
  have hChain : ∀ n, passAllFilters cfg
      (virtualMustLocalVol K (data.mustLocalAntstorPVCs.map (patchedBy nodeName names)) node)
        (loadFilterFromConfig K cfg) n =
      passAllFilters cfg (virtualMustLocalVol K data.mustLocalAntstorPVCs node)
        (loadFilterFromConfig K cfg) n := by
    apply passAllFilters_congr
    intro f hf n
    obtain ⟨name, hMem, hName⟩ := mem_loadFilterFromConfig.mp hf
    apply getFilterByName_congr hName (sameRequest_patched K nodeName names _ node)
    rintro rfl
    rw [virtualMustLocalVol_annotationAt (by decide) (by decide),
      virtualMustLocalVol_annotationAt (by decide) (by decide), hBasic hMem]
  unfold filter
  simp only [hNodes, hChain, List.any_map, Function.comp_def, isPVCFullyBound_patched]
  split
  · rfl
  · split
    · rfl
    · split
      · rfl
      · rw [Option.map_map, Option.map_map]
        rfl

end filter

end Liteio.Plugin
