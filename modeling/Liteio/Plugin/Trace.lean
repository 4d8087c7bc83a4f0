import Liteio.Plugin.Patches
import Liteio.Plugin.Restore

/-! # What a failed cycle leaves behind

A pod that passed Filter on a node goes through Reserve, some patches of PreBind
and Unreserve. The ledgers of all nodes and the verdicts for the pod are as
before exactly when the node had no reservation of the claims and was in order,
and the patches do not change the reservation ID the basic filter sees.
-/

namespace Liteio.Plugin

open MachineInt FilterChain Handler

def SameLedgers (s t : State) : Prop :=
  ∀ id, (t.nodeMap.lookup id).map (fun n => (n.resvSet, n.freeResource)) =
    (s.nodeMap.lookup id).map fun n => (n.resvSet, n.freeResource)

/-- After the cycle the ledgers and the verdicts for the pod are those of the
state before. -/
def LeavesNoTrace (K : Kube) (classes : StorageClassLookup) (cfg : SchedulerConfig) (patches : ℕ)
    (s filtered : State) (store : ClaimStore) (pod : Pod) (data : CycleData) (nodeName : String) : Prop :=
  ∃ after store', failedCycle K patches filtered store data nodeName = some (after, store') ∧
    SameLedgers s after ∧
    ∀ node, verdict K classes cfg after store' pod node = verdict K classes cfg s store pod node

theorem preFilter_ok {classes : StorageClassLookup} {store : ClaimStore} {pod : Pod} {data : CycleData}
    (h : preFilter classes store pod = some (.ok data)) :
    ∃ claims, readClaims classes store pod.ns pod.claimNames = some (.ok claims) ∧ data = cycleData claims := by
  obtain ⟨result, hRead, hResult⟩ := Option.map_eq_some_iff.mp h
  cases result with
  | error err => cases hResult
  | ok claims => exact ⟨claims, hRead, (Except.ok.inj hResult).symm⟩

theorem cycleData_not_skipped {claims : List (PersistentVolumeClaim × StorageClass)}
    (h : (cycleData claims).mustLocalAntstorPVCs ≠ []) : (cycleData claims).skipAntstorPlugin = false := by
  have hEmpty : (cycleData claims).mustLocalAntstorPVCs.isEmpty = false := by simpa using h
  change ((cycleData claims).mustLocalAntstorPVCs.isEmpty && _) = false
  rw [hEmpty, Bool.false_and]

theorem preFilter_not_skipped {classes : StorageClassLookup} {store : ClaimStore} {pod : Pod}
    {data : CycleData} (h : preFilter classes store pod = some (.ok data))
    (hLocal : data.mustLocalAntstorPVCs ≠ []) : data.skipAntstorPlugin = false := by
  obtain ⟨claims, _, rfl⟩ := preFilter_ok h
  exact cycleData_not_skipped hLocal

theorem preFilter_reservations {classes : StorageClassLookup} {store : ClaimStore} {pod : Pod}
    {data : CycleData} (h : preFilter classes store pod = some (.ok data)) : data.reservations = [] := by
  obtain ⟨claims, _, rfl⟩ := preFilter_ok h
  rfl

theorem filter_success {K : Kube} {cfg : SchedulerConfig} {s filtered : State} {data : CycleData}
    {node : KubeNode} (hSkip : data.skipAntstorPlugin = false)
    (h : filter K cfg s data node = some (filtered, .success)) :
    ∃ n n', s.nodeMap.lookup node.name = some n ∧ filtered = s.setNode node.name n' ∧
      passAllFilters cfg (virtualMustLocalVol K data.mustLocalAntstorPVCs node)
        (loadFilterFromConfig K cfg) n = some (n', .pass) := by
  rw [filter, hSkip, if_neg Bool.false_ne_true] at h
  split at h
  · cases h
  · rename_i n hNode
    split at h
    · cases h
    · obtain ⟨⟨n', passed⟩, hChain, hOut⟩ := Option.map_eq_some_iff.mp h
      obtain ⟨hState, hStatus⟩ := Prod.mk.inj hOut
      refine ⟨n, n', hNode, hState.symm, ?_⟩
      split at hStatus
      · rename_i hPass
        rw [hChain]
        exact congrArg (fun v => some (n', v)) hPass
      · cases hStatus

section reservations

variable {K : Kube} {pvcs : List PersistentVolumeClaim} {resvs : List Reservation}

theorem newPvcReservation_namespacedName {pvc : PersistentVolumeClaim} {r : Reservation}
    (h : newPvcReservation K pvc = some r) : r.namespacedName = pvc.namespacedName := by
  unfold newPvcReservation at h
  split at h
  · cases h
  · cases h
    rfl

theorem reservations_names (h : pvcs.mapM (newPvcReservation K) = some resvs) :
    resvs.map Reservation.namespacedName = pvcs.map PersistentVolumeClaim.namespacedName := by
  have hEach := Traverse.forall₂_of_mapM h
  clear h
  induction hEach with
  | nil => rfl
  | cons hResv _ ih => rw [List.map_cons, List.map_cons, ih, newPvcReservation_namespacedName hResv]

theorem reservations_id (h : pvcs.mapM (newPvcReservation K) = some resvs) {r : Reservation} (hr : r ∈ resvs) :
    r.id = r.namespacedName := by
  obtain ⟨pvc, _, hPvc⟩ := Traverse.exists_of_mem_mapM h hr
  rw [newPvcReservation_id hPvc, newPvcReservation_namespacedName hPvc]

theorem reservations_isSome_iff :
    (pvcs.mapM (newPvcReservation K)).isSome ↔ ∀ pvc ∈ pvcs, pvc.deletionTimestamp = none := by
  constructor
  · intro h pvc hPvc
    obtain ⟨resvs, hResvs⟩ := Option.isSome_iff_exists.mp h
    have hEach := Traverse.forall₂_of_mapM hResvs
    clear h hResvs
    induction hEach with
    | nil => cases hPvc
    | cons hResv _ ih =>
      rcases List.mem_cons.mp hPvc with rfl | hPvc
      · exact newPvcReservation_alive hResv
      · exact ih hPvc
  · intro h
    apply Traverse.mapM_isSome
    intro pvc hPvc
    simp [newPvcReservation, h pvc hPvc]

end reservations

def undone (resvs : List Reservation) (n : Node) : Node :=
  resvs.foldl (fun node item => node.unreserve item.id) (resvs.foldl Node.reserve n)

theorem undone_touches {resvs : List Reservation} {n n' : Node} (h : n' = n ∨ n' = n.settle) :
    Node.Touches (resvs.map Reservation.id) n (undone resvs n') := by
  have hIds : ∀ r ∈ resvs, r.id ∈ resvs.map Reservation.id := fun r hr => List.mem_map_of_mem hr
  have hStart : Node.Touches (resvs.map Reservation.id) n n' := by
    rcases h with rfl | rfl
    · exact .refl _ _
    · exact (Node.Touches.refl _ n).settle
  exact (hStart.reserveAll hIds).unreserveAll hIds

theorem undone_gone {resvs : List Reservation} {n : Node} {id : String}
    (h : id ∈ resvs.map Reservation.id) : (undone resvs n).getReservation id = none := by
  obtain ⟨r, hr, rfl⟩ := List.mem_map.mp h
  exact Node.unreserveAll_getReservation hr

theorem undone_inOrder {resvs : List Reservation} (n : Node) (h : resvs ≠ []) :
    (undone resvs n).Settled ∧ (undone resvs n).CacheExact := by
  obtain ⟨last, hLast⟩ := Node.unreserveAll_refreshed (m := resvs.foldl Node.reserve n) h
  rw [undone, hLast]
  exact ⟨last.settled_refresh, last.cacheExact_refresh⟩

section cycle

variable {K : Kube} {patches : ℕ} {s : State} {store : ClaimStore} {data : CycleData} {nodeName : String}
  {n' : Node}

theorem failedCycle_eq_none (hSkip : data.skipAntstorPlugin = false)
    (h : data.mustLocalAntstorPVCs.mapM (newPvcReservation K) = none) :
    failedCycle K patches (s.setNode nodeName n') store data nodeName = none := by
  have hNode : (s.setNode nodeName n').nodeMap.lookup nodeName = some n' := Finmap.lookup_insert _
  rw [failedCycle, reserve, hSkip, if_neg Bool.false_ne_true, hNode]
  dsimp only
  rw [h]
  rfl

variable (patches s store nodeName n') in
theorem failedCycle_eq_some (hSkip : data.skipAntstorPlugin = false) (hData : data.reservations = [])
    {resvs : List Reservation} (h : data.mustLocalAntstorPVCs.mapM (newPvcReservation K) = some resvs) :
    ∃ after store', failedCycle K patches (s.setNode nodeName n') store data nodeName = some (after, store') ∧
      (∀ id, after.nodeMap.lookup id = if id = nodeName then some (undone resvs n') else s.nodeMap.lookup id) ∧
      ∀ key, store'.claims.lookup key = (store.claims.lookup key).map (patchedBy nodeName
        ((data.mustLocalAntstorPVCs.take patches).map PersistentVolumeClaim.namespacedName)) := by
  have hNode : (s.setNode nodeName n').nodeMap.lookup nodeName = some n' := Finmap.lookup_insert _
  rw [failedCycle, reserve, hSkip, if_neg Bool.false_ne_true, hNode]
  dsimp only
  rw [h, hData]
  refine ⟨_, _, rfl, ?_, ?_⟩
  · intro id
    rw [unreserve]
    dsimp only
    rw [if_neg Bool.false_ne_true, State.onNode_lookup, State.onNode_lookup, if_pos rfl,
      State.onNode_lookup, hNode]
    split
    · rfl
    · rename_i hId
      exact Finmap.lookup_insert_of_ne _ hId
  · intro key
    rw [preBind]
    dsimp only
    rw [if_neg Bool.false_ne_true, List.nil_append, preBind_lookup _ _ _ fun r hr => reservations_id h (List.mem_of_mem_take hr),
      List.map_take, reservations_names h, ← List.map_take]

end cycle

def patchedReservationID (patches : ℕ) (nodeName : String) (pvcs : List PersistentVolumeClaim) : Option String :=
  mergedAnnotationAt reservationIDKey (pvcs.map (patchedBy nodeName
    ((pvcs.take patches).map PersistentVolumeClaim.namespacedName)))

/-- No claim is being deleted, the node has no reservation of the claims and is
in order, and the patches leave the reservation ID as it is where it is read. -/
structure Traceless (cfg : SchedulerConfig) (patches : ℕ) (s : State) (pvcs : List PersistentVolumeClaim)
    (nodeName : String) : Prop where
  alive : ∀ pvc ∈ pvcs, pvc.deletionTimestamp = none
  unreserved : ∀ n, s.nodeMap.lookup nodeName = some n →
    ∀ pvc ∈ pvcs, n.getReservation pvc.namespacedName = none
  inOrder : ∀ n, s.nodeMap.lookup nodeName = some n → n.Settled ∧ n.CacheExact
  sameID : "Basic" ∈ cfg.filters →
    patchedReservationID patches nodeName pvcs = mergedAnnotationAt reservationIDKey pvcs

section main

variable {K : Kube} {classes : StorageClassLookup} {cfg : SchedulerConfig} {patches : ℕ} {s : State}
  {store : ClaimStore} {pod : Pod} {data : CycleData}

theorem verdict_of_preFilter (h : preFilter classes store pod = some (.ok data)) (node : KubeNode) :
    verdict K classes cfg s store pod node = ((filter K cfg s data node).map Prod.snd).map .ok := by
  rw [verdict, h, Option.map_map]
  rfl

theorem preFilter_patched {store' : ClaimStore} {nodeName : String} {names : List String}
    (h : preFilter classes store pod = some (.ok data))
    (hStore : ∀ key, store'.claims.lookup key = (store.claims.lookup key).map (patchedBy nodeName names)) :
    preFilter classes store' pod = some (.ok { data with
      mustLocalAntstorPVCs := data.mustLocalAntstorPVCs.map (patchedBy nodeName names)
      otherAntstorPVCs := data.otherAntstorPVCs.map (patchedBy nodeName names) }) := by
  obtain ⟨claims, hRead, rfl⟩ := preFilter_ok h
  have hClass : ∀ pvc, (patchedBy nodeName names pvc).storageClassName = pvc.storageClassName := by
    intro pvc
    unfold patchedBy
    split <;> rfl
  rw [preFilter, readClaims_patched hStore hClass, hRead, ← cycleData_patched]
  rfl

theorem basicFilterFunc_unreserved {vol : AntstorVolume} {n n' : Node} {id : String}
    (hId : vol.annotationAt reservationIDKey = some id) (hGone : n.getReservation id = none) :
    basicFilterFunc cfg vol n ≠ some (n', .pass) := by
  intro hPass
  rcases basicFilterFunc_pass hPass with ⟨_, hMatch⟩ | ⟨_, hNone, _⟩
  · obtain ⟨resvId, r, hResvId, hr, _⟩ := matchReservationFilter_pass hMatch
    rw [hId] at hResvId
    cases hResvId
    rw [hGone] at hr
    cases hr
  · rw [hId] at hNone
    cases hNone

/-- A settled node without the reservations of the claims passes Filter for the
patched claims only if the patches left the reservation ID as it was. -/
theorem sameID_of_filter {t t' : State} {m : Node} {node : KubeNode} {others : List PersistentVolumeClaim}
    (hBasic : "Basic" ∈ cfg.filters) (hSkip : data.skipAntstorPlugin = false)
    (hNode : t.nodeMap.lookup node.name = some m) (hSettled : m.Settled)
    (hGone : ∀ pvc ∈ data.mustLocalAntstorPVCs, m.getReservation pvc.namespacedName = none)
    (h : filter K cfg t { data with
      mustLocalAntstorPVCs := data.mustLocalAntstorPVCs.map (patchedBy node.name
        ((data.mustLocalAntstorPVCs.take patches).map PersistentVolumeClaim.namespacedName))
      otherAntstorPVCs := others } node = some (t', .success)) :
    patchedReservationID patches node.name data.mustLocalAntstorPVCs =
      mergedAnnotationAt reservationIDKey data.mustLocalAntstorPVCs := by
  rcases mergedAnnotationAt_reservationID node.name
    ((data.mustLocalAntstorPVCs.take patches).map PersistentVolumeClaim.namespacedName)
    data.mustLocalAntstorPVCs with hSame | ⟨pvc, hPvc, hId⟩
  · exact hSame
  · obtain ⟨found, m', hFound, _, hChain⟩ := filter_success (by exact hSkip) h
    rw [hNode] at hFound
    cases hFound
    have hConfigured : basicFilterFunc ∈ loadFilterFromConfig K cfg :=
      mem_loadFilterFromConfig.mpr ⟨"Basic", hBasic, rfl⟩
    have hPass := (passAllFilters_settled hSettled (forall_loadFilterFromConfig K cfg) hChain).2 rfl _ hConfigured
    refine absurd hPass (basicFilterFunc_unreserved ?_ (hGone pvc hPvc))
    rw [virtualMustLocalVol_annotationAt (by decide) (by decide)]
    exact hId

theorem sameLedgers_iff {after : State} {nodeName : String} {n m : Node}
    (hNode : s.nodeMap.lookup nodeName = some n)
    (hAfter : ∀ id, after.nodeMap.lookup id = if id = nodeName then some m else s.nodeMap.lookup id) :
    SameLedgers s after ↔ m.resvSet = n.resvSet ∧ m.freeResource = n.freeResource := by
  constructor
  · intro h
    have hHere := h nodeName
    rw [hAfter, if_pos rfl, hNode, Option.map_some, Option.map_some, Option.some.injEq] at hHere
    exact Prod.mk.inj hHere
  · rintro ⟨hResv, hFree⟩ id
    rw [hAfter]
    split
    · rename_i hId
      rw [hId, hNode, Option.map_some, Option.map_some, hResv, hFree]
    · rfl

/-- A cycle that passed Filter on the node leaves no trace exactly under these
conditions. -/
theorem failedCycle_leavesNoTrace_iff {filtered : State} {node : KubeNode}
    (hPod : preFilter classes store pod = some (.ok data)) (hLocal : data.mustLocalAntstorPVCs ≠ [])
    (hFilter : filter K cfg s data node = some (filtered, .success)) :
    LeavesNoTrace K classes cfg patches s filtered store pod data node.name ↔
      Traceless cfg patches s data.mustLocalAntstorPVCs node.name := by
  have hSkip := preFilter_not_skipped hPod hLocal
  have hNone := preFilter_reservations hPod
  obtain ⟨n, n', hNode, rfl, hChain⟩ := filter_success hSkip hFilter
  have hLeaves := passAllFilters_leaves (forall_loadFilterFromConfig K cfg) hChain
  cases hResvs : data.mustLocalAntstorPVCs.mapM (newPvcReservation K) with
  | none =>
    refine iff_of_false ?_ ?_
    · rintro ⟨after, store', hCycle, _⟩
      rw [failedCycle_eq_none hSkip hResvs] at hCycle
      cases hCycle
    · intro h
      have hSome : (data.mustLocalAntstorPVCs.mapM (newPvcReservation K)).isSome :=
        reservations_isSome_iff.mpr h.alive
      rw [hResvs] at hSome
      cases hSome
  | some resvs =>
    have hAlive := reservations_isSome_iff.mp (Option.isSome_of_eq_some hResvs)
    obtain ⟨after, store', hCycle, hAfter, hStore⟩ :=
      failedCycle_eq_some patches s store node.name n' hSkip hNone hResvs
    have hIds : resvs.map Reservation.id = data.mustLocalAntstorPVCs.map PersistentVolumeClaim.namespacedName := by
      rw [← reservations_names hResvs]
      exact List.map_congr_left fun r hr => reservations_id hResvs hr
    have hResvsNonempty : resvs ≠ [] := by
      rintro rfl
      exact hLocal (List.map_eq_nil_iff.mp hIds.symm)
    have hTouches : Node.Touches (resvs.map Reservation.id) n (undone resvs n') := undone_touches hLeaves
    obtain ⟨hSettled, hExact⟩ := undone_inOrder n' hResvsNonempty
    have hLedger := hTouches.ledger_eq_iff (fun _ => undone_gone) hSettled hExact
    rw [hIds] at hLedger
    have hPatchedPod := preFilter_patched hPod hStore
    have hSame := sameLedgers_iff hNode hAfter
    constructor
    · rintro ⟨_, _, hOther, hLedgers, hVerdict⟩
      rw [hCycle] at hOther
      cases hOther
      obtain ⟨hUnreserved, hInOrder⟩ := hLedger.mp (hSame.mp hLedgers)
      refine ⟨hAlive, ?_, ?_, ?_⟩
      · rintro found hFound pvc hPvc
        cases hNode.symm.trans hFound
        exact hUnreserved _ (List.mem_map_of_mem hPvc)
      · rintro found hFound
        cases hNode.symm.trans hFound
        exact hInOrder
      · intro hBasic
        have hAgain := hVerdict node
        rw [verdict_of_preFilter hPatchedPod, verdict_of_preFilter hPod, hFilter] at hAgain
        obtain ⟨status, hStatus, hOk⟩ := Option.map_eq_some_iff.mp hAgain
        cases hOk
        obtain ⟨⟨t, _⟩, hFiltered, rfl⟩ := Option.map_eq_some_iff.mp hStatus
        refine sameID_of_filter hBasic hSkip ((hAfter node.name).trans (if_pos rfl)) hSettled ?_ hFiltered
        intro pvc hPvc
        apply undone_gone
        rw [hIds]
        exact List.mem_map_of_mem hPvc
    · intro h
      have hRestored := hLedger.mpr ⟨fun id hId => by
        obtain ⟨pvc, hPvc, rfl⟩ := List.mem_map.mp hId
        exact h.unreserved n hNode pvc hPvc, h.inOrder n hNode⟩
      refine ⟨after, store', hCycle, hSame.mpr hRestored, ?_⟩
      have hNodes : ∀ id, after.nodeMap.lookup id = s.nodeMap.lookup id := by
        intro id
        rw [hAfter]
        split
        · rename_i hId
          rw [hId, hNode, hTouches.eq_of_ledger hRestored]
        · rfl
      intro other
      rw [verdict_of_preFilter hPatchedPod, verdict_of_preFilter hPod, filter_patched _ hNodes h.sameID]

end main

def freshClaim : PersistentVolumeClaim :=
  { ns := "d", name := "c", storageClassName := some "local", requestsStorage := 40 }

def ClaimStore.single (pvc : PersistentVolumeClaim) : ClaimStore where
  claims := Finmap.singleton pvc.namespacedName pvc
  keyed key other h := by
    obtain rfl : key = pvc.namespacedName := by
      by_contra hKey
      rw [Finmap.lookup_eq_none.mpr (by simpa using hKey)] at h
      cases h
    rw [Finmap.lookup_singleton_eq] at h
    cases h
    rfl

def oneClaim : ClaimStore := .single freshClaim

def oneClaimPod : Pod := { ns := "d", claimNames := ["c"] }

def oneClaimData : CycleData := { mustLocalAntstorPVCs := [freshClaim] }

def readyNode : State := State.run Kube.exact [.setStoragePool readyPool]

theorem oneClaim_preFilter : preFilter mustLocalClass oneClaim oneClaimPod = some (.ok oneClaimData) := by
  rfl

theorem oneClaim_filter :
    ∃ filtered, filter Kube.exact basicAndAffinity readyNode oneClaimData
      { name := "n" } = some (filtered, .success) := by
  have hStatus : (filter Kube.exact basicAndAffinity readyNode oneClaimData
      { name := "n" }).map Prod.snd = some .success := by
    decide +kernel
  obtain ⟨⟨filtered, _⟩, hFilter, rfl⟩ := Option.map_eq_some_iff.mp hStatus
  exact ⟨filtered, hFilter⟩

theorem unpatched_cycle_leavesNoTrace :
    ∃ filtered, filter Kube.exact basicAndAffinity readyNode oneClaimData { name := "n" } =
        some (filtered, .success) ∧
      LeavesNoTrace Kube.exact mustLocalClass basicAndAffinity 0 readyNode filtered oneClaim oneClaimPod
        oneClaimData "n" := by
  obtain ⟨filtered, hFilter⟩ := oneClaim_filter
  refine ⟨filtered, hFilter, ?_⟩
  refine (failedCycle_leavesNoTrace_iff oneClaim_preFilter (by decide) hFilter).mpr ⟨by decide, ?_, ?_, ?_⟩
  · have hNode : readyNode.AllNodes fun n => ∀ pvc ∈ oneClaimData.mustLocalAntstorPVCs,
        n.getReservation pvc.namespacedName = none := by
      decide +kernel
    exact fun n hn => hNode "n" n hn
  · have hNode : readyNode.AllNodes fun n => n.Settled ∧ n.CacheExact := by
      decide +kernel
    exact fun n hn => hNode "n" n hn
  · decide

/-- The patched claim names a reservation that is gone. -/
theorem patched_cycle_leaves_trace :
    ∃ filtered, filter Kube.exact basicAndAffinity readyNode oneClaimData { name := "n" } =
        some (filtered, .success) ∧
      ¬ LeavesNoTrace Kube.exact mustLocalClass basicAndAffinity 1 readyNode filtered oneClaim oneClaimPod
        oneClaimData "n" := by
  obtain ⟨filtered, hFilter⟩ := oneClaim_filter
  refine ⟨filtered, hFilter, ?_⟩
  rintro ⟨after, store', hCycle, _, hVerdict⟩
  have hRefused : ((filter Kube.exact basicAndAffinity readyNode oneClaimData { name := "n" }).bind fun out =>
      (failedCycle Kube.exact 1 out.1 oneClaim oneClaimData "n").bind fun cycle =>
        verdict Kube.exact mustLocalClass basicAndAffinity cycle.1 cycle.2 oneClaimPod { name := "n" }) =
      some (.ok (.unschedulable noFitStoragePool)) := by
    decide +kernel
  rw [hFilter, Option.bind_some, hCycle, Option.bind_some, hVerdict,
    verdict_of_preFilter oneClaim_preFilter, hFilter] at hRefused
  cases hRefused

end Liteio.Plugin
