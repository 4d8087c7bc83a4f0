import Liteio.Csi.Create
import Liteio.Plugin.Trace
import Liteio.Scheduler.Optimal
import Liteio.State.Consumed

/-! # A pod that returns to its claims

A pod was scheduled, its claims were patched, provisioned and bound. The claims
keep the reservation ID that PreBind wrote, and binding their volumes consumed
the reservations. A later Filter on the same node asks for the reservation of the
last local claim, so no pod with a local claim gets through.
-/

namespace Liteio.Plugin

open MachineInt FilterChain Handler Csi

def boundCycle (K : Kube) (s : State) (store : ClaimStore) (data : CycleData) (nodeName : String) :
    Option (State × ClaimStore) :=
  match reserve K s data nodeName with
  | some (s', data', .success) => some (s', preBind data'.reservations.length store data' nodeName)
  | _ => none

structure Provisions (api : Answers) (req : CreateVolumeRequest) (uuid : String) (pvc : PersistentVolumeClaim)
    (vol : AntstorVolume) : Prop where
  ns : req.parameter pvcNamespaceKey ≠ ""
  name : req.parameter pvcNameKey ≠ ""
  claim : api.getClaim (req.parameter pvcNamespaceKey) (req.parameter pvcNameKey) = some pvc
  created : (createVolume api req).bind (createPV uuid) = .ok vol

structure BoundFrom (nodeName : String) (pvc pvc' : PersistentVolumeClaim) : Prop where
  bound : pvc'.bound = true
  selected : pvc'.annotationAt k8sAnnoSelectedNode = some nodeName
  annotations : ∀ key, "obnvmf/".toList.isPrefixOf key.toList → pvc'.annotationAt key = pvc.annotationAt key

inductive Event where
  | call (action : State.Action)
  | settle (nodeID : String)

def eventStep (K : Kube) (s : State) : Event → State
  | .call action => s.step K action
  | .settle nodeID => s.onNode nodeID Node.settle

def ProvisionedOn (n : Node) (pvc : PersistentVolumeClaim) : Prop :=
  ∃ api req uuid read vol, Provisions api req uuid read vol ∧ n.resident vol ∈ n.volumes ∧
    ∀ key, "obnvmf/".toList.isPrefixOf key.toList → read.annotationAt key = pvc.annotationAt key

def TakesOthers (n : Node) : Prop :=
  0 ≤ n.freeStorage ∧ (tgtConditionOk n.pool = true ∨ n.pool.spec.spdkLVStore.name = "")

instance (n : Node) : Decidable (TakesOthers n) := inferInstanceAs (Decidable (_ ∧ _))

theorem Provisions.reservationID {api : Answers} {req : CreateVolumeRequest} {uuid id : String}
    {pvc : PersistentVolumeClaim} {vol : AntstorVolume} (h : Provisions api req uuid pvc vol)
    (hID : pvc.annotationAt reservationIDKey = some id) : getVolumeReservationID vol = id := by
  obtain ⟨size, source, -, hAnnotation⟩ :=
    @volume_annotationAt api req uuid reservationIDKey vol (by decide) h.created
  rw [annotationOfClaim, if_pos ⟨h.ns, h.name⟩, h.claim, Option.bind_some, hID] at hAnnotation
  rw [getVolumeReservationID, hAnnotation]
  rfl

theorem ProvisionedOn.consumed {n : Node} {pvc : PersistentVolumeClaim} (h : ProvisionedOn n pvc)
    (hConsumed : n.Consumed) (hID : pvc.annotationAt reservationIDKey = some pvc.namespacedName) :
    n.getReservation pvc.namespacedName = none := by
  obtain ⟨api, req, uuid, read, vol, hProvisions, hVol, hRead⟩ := h
  have hName : getVolumeReservationID (n.resident vol) = pvc.namespacedName := by
    rw [Node.resident_reservationID]
    exact hProvisions.reservationID ((hRead _ (by decide)).trans hID)
  have hGone := hConsumed _ hVol (hName ▸ pvc.namespacedName_ne_empty)
  rwa [hName] at hGone

section consumed

variable {K : Kube}

theorem consumed_onNode {s : State} {nodeID : String} {f : Node → Node}
    (hf : ∀ n : Node, n.Consumed → (f n).Consumed) (h : s.AllNodes Node.Consumed) :
    (s.onNode nodeID f).AllNodes Node.Consumed := by
  intro id n hn
  rw [State.onNode_lookup] at hn
  split at hn
  · obtain ⟨m, hm, rfl⟩ := Option.map_eq_some_iff.mp hn
    exact hf m (h nodeID m hm)
  · exact h id n hn

theorem consumed_eventStep {s : State} (e : Event) (h : s.AllNodes Node.Consumed) :
    (eventStep K s e).AllNodes Node.Consumed := by
  cases e with
  | call action => exact State.consumed_step K action h
  | settle nodeID => exact consumed_onNode (fun n => Node.Consumed.settle) h

theorem consumed_events {s : State} (events : List Event) (h : s.AllNodes Node.Consumed) :
    (Runs.run (eventStep K) s events).AllNodes Node.Consumed :=
  Runs.run_induction h fun _ e => consumed_eventStep e

theorem consumed_reserveAll {n : Node} (h : n.Consumed) (resvs : List Reservation) :
    (resvs.foldl Node.reserve n).Consumed := by
  induction resvs generalizing n with
  | nil => exact h
  | cons r resvs ih => exact ih (h.reserve r)

theorem keyed_onNode {s : State} {nodeID : String} {f : Node → Node} (hf : ∀ n, (f n).pool = n.pool)
    (h : s.Keyed) : (s.onNode nodeID f).Keyed := by
  intro id n hn
  rw [State.onNode_lookup] at hn
  split at hn
  · rename_i hId
    obtain ⟨m, hm, rfl⟩ := Option.map_eq_some_iff.mp hn
    rw [Node.info, hf, hId]
    exact h nodeID m hm
  · exact h id n hn

theorem keyed_events {s : State} (events : List Event) (h : s.Keyed) :
    (Runs.run (eventStep K) s events).Keyed := by
  refine Runs.run_induction h fun s e hKeyed => ?_
  cases e with
  | call action => exact State.keyed_step K s action hKeyed
  | settle nodeID => exact keyed_onNode (fun _ => rfl) hKeyed

theorem reserveAll_pool (n : Node) (resvs : List Reservation) : (resvs.foldl Node.reserve n).pool = n.pool := by
  induction resvs generalizing n with
  | nil => rfl
  | cons r resvs ih => rw [List.foldl_cons, ih, Node.reserve_pool]

theorem boundCycle_state {s s' : State} {store store' : ClaimStore} {data : CycleData} {nodeName : String}
    (h : boundCycle K s store data nodeName = some (s', store')) :
    s' = s ∨ ∃ resvs : List Reservation, s' = s.onNode nodeName fun node => resvs.foldl Node.reserve node := by
  rw [boundCycle, reserve] at h
  split at h
  · rename_i reserved data' hReserve
    obtain ⟨rfl, -⟩ := Prod.mk.inj (Option.some.inj h)
    split at hReserve
    · exact .inl (congrArg Prod.fst (Option.some.inj hReserve)).symm
    · split at hReserve
      · cases hReserve
      · obtain ⟨resvs, -, hOut⟩ := Option.map_eq_some_iff.mp hReserve
        exact .inr ⟨resvs, (congrArg Prod.fst hOut).symm⟩
  · cases h

theorem boundCycle_claims {s s' : State} {store store' : ClaimStore} {data : CycleData} {nodeName : String}
    (hSkip : data.skipAntstorPlugin = false) (hData : data.reservations = [])
    (h : boundCycle K s store data nodeName = some (s', store')) :
    ∀ key, store'.claims.lookup key = (store.claims.lookup key).map (patchedBy nodeName
      (data.mustLocalAntstorPVCs.map PersistentVolumeClaim.namespacedName)) := by
  rw [boundCycle, reserve, hSkip, if_neg Bool.false_ne_true] at h
  cases hNode : s.nodeMap.lookup nodeName with
  | none =>
    rw [hNode] at h
    cases h
  | some node =>
    cases hResvs : data.mustLocalAntstorPVCs.mapM (newPvcReservation K) with
    | none =>
      rw [hNode, hResvs] at h
      cases h
    | some resvs =>
      rw [hNode, hResvs, hData] at h
      obtain ⟨-, hStore⟩ := Prod.mk.inj (Option.some.inj h)
      intro key
      rw [← hStore, preBind]
      dsimp only
      rw [if_neg Bool.false_ne_true, List.nil_append, List.take_length,
        preBind_lookup _ _ _ fun r hr => reservations_id hResvs hr, reservations_names hResvs]

end consumed

section claims

variable {classes : StorageClassLookup} {store : ClaimStore}

theorem readClaims_lookup {ns : String} {names : List String}
    {claims : List (PersistentVolumeClaim × StorageClass)}
    (h : readClaims classes store ns names = some (.ok claims)) {claim : PersistentVolumeClaim × StorageClass}
    (hClaim : claim ∈ claims) : store.claims.lookup claim.1.namespacedName = some claim.1 := by
  induction names generalizing claims with
  | nil =>
    cases h
    cases hClaim
  | cons name names ih =>
    rw [readClaims] at h
    split at h
    · cases h
    · rename_i pvc hPvc
      split at h
      · cases h
      · rename_i scName _
        split at h
        · cases h
        · obtain ⟨rest, hRest, hOk⟩ := Option.map_eq_some_iff.mp h
          cases rest with
          | error err => cases hOk
          | ok rest =>
            cases Except.ok.inj hOk
            rcases List.mem_cons.mp hClaim with rfl | hMem
            · rw [store.keyed _ _ hPvc]
              exact hPvc
            · exact ih hRest hMem

theorem preFilter_lookup {pod : Pod} {data : CycleData} (h : preFilter classes store pod = some (.ok data))
    {pvc : PersistentVolumeClaim} (hPvc : pvc ∈ data.mustLocalAntstorPVCs) :
    store.claims.lookup pvc.namespacedName = some pvc := by
  obtain ⟨claims, hRead, rfl⟩ := preFilter_ok h
  obtain ⟨claim, hClaim, rfl⟩ := List.mem_map.mp hPvc
  exact readClaims_lookup hRead (List.mem_of_mem_filter (List.mem_of_mem_filter hClaim))

theorem mergedAnnotationAt_last {pvcs : List PersistentVolumeClaim} {pvc : PersistentVolumeClaim}
    (hLast : pvcs.getLast? = some pvc) {key val : String} (h : pvc.annotationAt key = some val) :
    mergedAnnotationAt key pvcs = some val := by
  obtain ⟨front, rfl⟩ := List.getLast?_eq_some_iff.mp hLast
  rw [mergedAnnotationAt_append, h]
  rfl

end claims

section chain

variable {K : Kube} {cfg : SchedulerConfig} {vol : AntstorVolume} {n : Node}

theorem chain_iff (hFilters : ∀ name, name ∈ cfg.filters ↔ name = "Basic" ∨ name = "Affinity") :
    (∃ n', passAllFilters cfg vol (loadFilterFromConfig K cfg) n = some (n', .pass)) ↔
      (∃ n', basicFilterFunc cfg vol n = some (n', .pass)) ∧
        ∃ n', affinityFilterFunc K cfg vol n = some (n', .pass) := by
  refine exists_qualifies_iff.trans ?_
  simp only [PassesAll, hFilters, forall_eq_or_imp, forall_eq]
  exact and_congr (by simp [getFilterByName]) (by simp [getFilterByName])

theorem basicFilterFunc_unreserved_refuses {id : String} (hID : vol.annotationAt reservationIDKey = some id)
    (hNone : n.getReservation id = none) : ¬ ∃ n', basicFilterFunc cfg vol n = some (n', .pass) := by
  rintro ⟨n', hPass⟩
  rcases basicFilterFunc_pass hPass with ⟨-, hMatch⟩ | ⟨-, hNoID, -⟩
  · obtain ⟨resvId, r, hResvId, hr, -⟩ := matchReservationFilter_pass hMatch
    cases hID.symm.trans hResvId
    rw [hNone] at hr
    cases hr
  · rw [hID] at hNoID
    cases hNoID

/-- The volume of no claims is empty, and local. -/
theorem chain_empty_iff {node : KubeNode} (hSchedulable : n.pool.isSchedulable) (hId : n.info.id = node.name)
    (hFilters : ∀ name, name ∈ cfg.filters ↔ name = "Basic" ∨ name = "Affinity") :
    (∃ n', passAllFilters cfg (virtualMustLocalVol K [] node) (loadFilterFromConfig K cfg) n = some (n', .pass)) ↔
      TakesOthers n := by
  have hAffinity : ∃ n', affinityFilterFunc K cfg (virtualMustLocalVol K [] node) n = some (n', .pass) :=
    ⟨n, rfl⟩
  have hChecks : ∀ host : NodeInfo, host.id = node.name →
      Verdict.ofChecks (placementChecks cfg (virtualMustLocalVol K [] node) n host) = .pass := by
    intro host hHost
    have hLocal : n.pool.spec.nodeInfo.id = host.id := hId.trans hHost.symm
    simp [placementChecks, hLocal, virtualMustLocalVol, Verdict.ofChecks]
  have hBasic : ∀ m, basicFilterFunc cfg (virtualMustLocalVol K [] node) n = some m ↔
      some m = if n.freeStorage < 0 then some (n.settle, .reject (some reasonPoolFreeSize))
        else if !tgtConditionOk n.pool && n.pool.spec.spdkLVStore.name ≠ "" then
          some (n.settle, .reject (some reasonSpdkUnhealthy))
        else some (n.settle, .pass) := by
    intro m
    rw [basicFilterFunc_eq rfl, hSchedulable, eq_comm]
    change some m = (if n.freeStorage < int64 0 then _ else if _ then _ else some (_, Verdict.ofChecks _)) ↔ _
    rw [hChecks _ rfl, int64_zero, Int.cast_zero]
  rw [chain_iff hFilters, and_iff_left hAffinity, TakesOthers]
  simp only [hBasic]
  split
  · rename_i hFree
    simp [not_le.mpr hFree]
  · rename_i hFree
    rw [and_iff_right (not_lt.mp hFree)]
    by_cases hName : n.pool.spec.spdkLVStore.name = "" <;> cases tgtConditionOk n.pool <;> simp [hName]

end chain

section main

variable {K : Kube} {classes : StorageClassLookup} {cfg : SchedulerConfig} {node : KubeNode} {n : Node}

theorem filter_bound_iff {s : State} {data : CycleData} (hSkip : data.skipAntstorPlugin = false)
    (hNode : s.nodeMap.lookup node.name = some n)
    (hBound : ∀ pvc ∈ data.mustLocalAntstorPVCs, (isPVCFullyBound pvc).1 = node.name) :
    (filter K cfg s data node).map Prod.snd = some .success ↔
      ∃ n', passAllFilters cfg (virtualMustLocalVol K data.mustLocalAntstorPVCs node)
        (loadFilterFromConfig K cfg) n = some (n', .pass) := by
  have hHere : (data.mustLocalAntstorPVCs.any fun pvc =>
      (isPVCFullyBound pvc).2 && node.name ≠ (isPVCFullyBound pvc).1) = false := by
    rw [List.any_eq_false]
    intro pvc hPvc
    simp [hBound pvc hPvc]
  rw [filter, hSkip, if_neg Bool.false_ne_true, hNode]
  dsimp only
  rw [hHere, if_neg Bool.false_ne_true, Option.map_map, Option.map_eq_some_iff]
  constructor
  · rintro ⟨⟨n', verdict⟩, hChain, hStatus⟩
    simp only [Function.comp_apply] at hStatus
    split at hStatus
    · rename_i hPass
      cases hPass
      exact ⟨n', hChain⟩
    · cases hStatus
  · rintro ⟨n', hChain⟩
    exact ⟨(n', .pass), hChain, rfl⟩

theorem preFilter_skipAntstorPlugin {store : ClaimStore} {pod : Pod} {data : CycleData}
    (h : preFilter classes store pod = some (.ok data)) :
    data.skipAntstorPlugin = (data.mustLocalAntstorPVCs.isEmpty && data.otherAntstorPVCs.isEmpty) := by
  obtain ⟨claims, _, rfl⟩ := preFilter_ok h
  rfl

theorem bound_reservationID {s reserved : State} {store store' patched : ClaimStore} {pod returning : Pod}
    {data data' : CycleData} (hPod : preFilter classes store pod = some (.ok data))
    (hCycle : boundCycle K s store data node.name = some (reserved, patched))
    (hClaims : ∀ pvc ∈ data.mustLocalAntstorPVCs, ∀ bound,
      store'.claims.lookup pvc.namespacedName = some bound →
        ∃ old, patched.claims.lookup pvc.namespacedName = some old ∧ BoundFrom node.name old bound)
    (hReturning : preFilter classes store' returning = some (.ok data'))
    (hSame : ∀ pvc ∈ data'.mustLocalAntstorPVCs,
      pvc.namespacedName ∈ data.mustLocalAntstorPVCs.map PersistentVolumeClaim.namespacedName)
    {pvc : PersistentVolumeClaim} (hPvc : pvc ∈ data'.mustLocalAntstorPVCs) :
    pvc.annotationAt reservationIDKey = some pvc.namespacedName ∧ (isPVCFullyBound pvc).1 = node.name := by
  obtain ⟨first, hFirst, hName⟩ := List.mem_map.mp (hSame pvc hPvc)
  have hPatched := boundCycle_claims (preFilter_not_skipped hPod (List.ne_nil_of_mem hFirst))
    (preFilter_reservations hPod) hCycle
  obtain ⟨old, hOld, hBound⟩ := hClaims first hFirst pvc (hName ▸ preFilter_lookup hReturning hPvc)
  rw [hPatched] at hOld
  obtain ⟨unpatched, hUnpatched, rfl⟩ := Option.map_eq_some_iff.mp hOld
  have hKey : unpatched.namespacedName = pvc.namespacedName := (store.keyed _ _ hUnpatched).trans hName
  constructor
  · rw [hBound.annotations _ (by decide), patchedBy, if_pos (by rw [hKey]; exact hSame pvc hPvc),
      annotation_bindClaim, if_pos rfl, hKey]
  · rw [isPVCFullyBound, hBound.selected]
    rfl

theorem node_after_cycle {setup later : List Event} {store patched : ClaimStore} {data : CycleData} {reserved : State}
    (hCycle : boundCycle K (Runs.run (eventStep K) .newState setup) store data node.name = some (reserved, patched))
    (hNode : (Runs.run (eventStep K) reserved later).nodeMap.lookup node.name = some n) :
    n.Consumed ∧ n.info.id = node.name := by
  have hStart : State.newState.Keyed := fun id m hm => absurd hm (by simp [State.newState])
  have hBefore := consumed_events (K := K) setup (State.allNodes_newState Node.Consumed)
  have hKeyed := keyed_events (K := K) setup hStart
  rcases boundCycle_state hCycle with rfl | ⟨resvs, rfl⟩
  · exact ⟨consumed_events later hBefore _ n hNode, keyed_events later hKeyed _ n hNode⟩
  · constructor
    · exact consumed_events later (consumed_onNode (fun m hm => consumed_reserveAll hm resvs) hBefore) _ n hNode
    · exact keyed_events later (keyed_onNode (fun m => reserveAll_pool m resvs) hKeyed) _ n hNode

/-- The last local claim names the reservation, and its volume has taken that. -/
theorem chain_refuses_local {pvcs : List PersistentVolumeClaim} (hLocal : pvcs ≠ []) (hConsumed : n.Consumed)
    (hProvisioned : ∀ pvc ∈ pvcs, ProvisionedOn n pvc)
    (hReserved : ∀ pvc ∈ pvcs, pvc.annotationAt reservationIDKey = some pvc.namespacedName)
    (hFilters : ∀ name, name ∈ cfg.filters ↔ name = "Basic" ∨ name = "Affinity") :
    ¬ ∃ n', passAllFilters cfg (virtualMustLocalVol K pvcs node) (loadFilterFromConfig K cfg) n = some (n', .pass) := by
  obtain ⟨last, hLast⟩ : ∃ last, pvcs.getLast? = some last := ⟨_, List.getLast?_eq_some_getLast hLocal⟩
  have hMem := List.mem_of_getLast? hLast
  have hGone := (hProvisioned last hMem).consumed hConsumed (hReserved last hMem)
  have hID : (virtualMustLocalVol K pvcs node).annotationAt reservationIDKey = some last.namespacedName := by
    rw [virtualMustLocalVol_annotationAt (by decide) (by decide)]
    exact mergedAnnotationAt_last hLast (hReserved last hMem)
  rw [chain_iff hFilters]
  exact fun hChain => basicFilterFunc_unreserved_refuses hID hGone hChain.1

/-- A pod comes back to a node where the volumes of its local claims are exactly
if it has no local claims: it is not looked at, or the node takes an empty volume. -/
theorem filter_returning_iff {setup later : List Event} {store store' patched : ClaimStore}
    {pod returning : Pod} {data data' : CycleData} {reserved : State}
    (hPod : preFilter classes store pod = some (.ok data))
    (hCycle : boundCycle K (Runs.run (eventStep K) .newState setup) store data node.name =
      some (reserved, patched))
    (hClaims : ∀ pvc ∈ data.mustLocalAntstorPVCs, ∀ bound,
      store'.claims.lookup pvc.namespacedName = some bound →
        ∃ old, patched.claims.lookup pvc.namespacedName = some old ∧ BoundFrom node.name old bound)
    (hReturning : preFilter classes store' returning = some (.ok data'))
    (hSame : ∀ pvc ∈ data'.mustLocalAntstorPVCs,
      pvc.namespacedName ∈ data.mustLocalAntstorPVCs.map PersistentVolumeClaim.namespacedName)
    (hNode : (Runs.run (eventStep K) reserved later).nodeMap.lookup node.name = some n)
    (hProvisioned : ∀ pvc ∈ data'.mustLocalAntstorPVCs, ProvisionedOn n pvc)
    (hSchedulable : n.pool.isSchedulable)
    (hFilters : ∀ name, name ∈ cfg.filters ↔ name = "Basic" ∨ name = "Affinity") :
    verdict K classes cfg (Runs.run (eventStep K) reserved later) store' returning node =
        some (.ok .success) ↔
      data'.mustLocalAntstorPVCs = [] ∧ (data'.otherAntstorPVCs = [] ∨ TakesOthers n) := by
  obtain ⟨hConsumed, hKeyed⟩ := node_after_cycle hCycle hNode
  have hBound : ∀ pvc ∈ data'.mustLocalAntstorPVCs, _ := fun pvc hPvc =>
    bound_reservationID hPod hCycle hClaims hReturning hSame hPvc
  rw [verdict_of_preFilter hReturning, Option.map_eq_some_iff]
  simp only [Except.ok.injEq, exists_eq_right]
  by_cases hLocal : data'.mustLocalAntstorPVCs = []
  · have hSkip := preFilter_skipAntstorPlugin hReturning
    rw [and_iff_right hLocal]
    by_cases hOther : data'.otherAntstorPVCs = []
    · rw [filter, if_pos (by simp [hSkip, hLocal, hOther])]
      exact iff_of_true rfl (.inl hOther)
    · rw [or_iff_right hOther, filter_bound_iff (by simp [hSkip, hOther]) hNode fun pvc hPvc => (hBound pvc hPvc).2,
        hLocal, chain_empty_iff hSchedulable hKeyed hFilters]
  · rw [filter_bound_iff (preFilter_not_skipped hReturning hLocal) hNode fun pvc hPvc => (hBound pvc hPvc).2]
    refine iff_of_false ?_ fun hNone => hLocal hNone.1
    exact chain_refuses_local hLocal hConsumed hProvisioned (fun pvc hPvc => (hBound pvc hPvc).1) hFilters

end main

def smallState : List Event :=
  [.call (.setStoragePool { readyPool with
    status := { readyPool.status with capacity := Finmap.singleton resourceDiskPoolByte 5000000 } })]

def savedClaim : PersistentVolumeClaim :=
  { ns := "d", name := "c", storageClassName := some "local", requestsStorage := 4194304 }

def selectedBy (bound : Bool) (pvc : PersistentVolumeClaim) : PersistentVolumeClaim :=
  { pvc with annotations := some ((pvc.annotations.getD ∅).insert k8sAnnoSelectedNode "n"), bound := bound }

theorem boundFrom_selectedBy (pvc : PersistentVolumeClaim) : BoundFrom "n" pvc (selectedBy true pvc) where
  bound := rfl
  selected := Finmap.lookup_insert _
  annotations key hKey := by
    have hOther : key ≠ k8sAnnoSelectedNode := by
      rintro rfl
      exact absurd hKey (by decide)
    refine (Finmap.lookup_insert_of_ne _ hOther).trans ?_
    rw [ObjectMeta.annotationAt]
    cases pvc.annotations <;> rfl

def patchedClaim : PersistentVolumeClaim := bindClaim "n" "d/c" savedClaim

def savedApi : Answers where
  getSnapshotByID _ := none
  getClaim _ _ := some (selectedBy false patchedClaim)
  getByNodeID id := some { id := id }

def savedRequest : CreateVolumeRequest where
  name := "pv"
  requiredBytes := some 4194304
  parameters := (Finmap.singleton pvcNamespaceKey "d").insert pvcNameKey "c"

def savedVolume : AntstorVolume :=
  match (createVolume savedApi savedRequest).bind (createPV "u") with
  | .ok vol => vol
  | .error _ => {}

theorem savedVolume_provisions :
    Provisions savedApi savedRequest "u" (selectedBy false patchedClaim) savedVolume where
  ns := by decide
  name := by decide
  claim := rfl
  created := by decide +kernel

def savedData : CycleData := { mustLocalAntstorPVCs := [savedClaim] }

/-- The pod is scheduled and its claim patched. -/
theorem savedCycle : ∃ reserved patched,
    boundCycle Kube.exact (Runs.run (eventStep Kube.exact) .newState smallState) (.single savedClaim) savedData "n" =
      some (reserved, patched) ∧ patched.claims.lookup "d/c" = some patchedClaim := by
  have hCycle : (boundCycle Kube.exact (Runs.run (eventStep Kube.exact) .newState smallState)
      (.single savedClaim) savedData "n").map (fun out => out.2.claims.lookup "d/c") = some (some patchedClaim) := by
    decide +kernel
  obtain ⟨⟨reserved, patched⟩, hOut, hClaim⟩ := Option.map_eq_some_iff.mp hCycle
  exact ⟨reserved, patched, hOut, hClaim⟩

def savedNode : Node :=
  ((Node.newNode { readyPool with
    status := { readyPool.status with capacity := Finmap.singleton resourceDiskPoolByte 5000000 } }).addVolume
      savedVolume).1

def claimlessPod : Pod := { ns := "d", claimNames := [] }

/-- With the volume on the node, only a pod without claims gets there. -/
theorem claimless_pod_returns : ∃ reserved patched,
    boundCycle Kube.exact (Runs.run (eventStep Kube.exact) .newState smallState) (.single savedClaim) savedData "n" =
      some (reserved, patched) ∧ ∀ pod ∈ [oneClaimPod, claimlessPod],
    (verdict Kube.exact mustLocalClass basicAndAffinity
      (Runs.run (eventStep Kube.exact) reserved [.call (.bindAntstorVolume "n" savedVolume)])
      (.single (selectedBy true patchedClaim)) pod { name := "n" } = some (.ok .success) ↔ pod.claimNames = []) := by
  obtain ⟨reserved, patched, hCycle, hClaim⟩ := savedCycle
  have hAfter : (boundCycle Kube.exact (Runs.run (eventStep Kube.exact) .newState smallState)
      (.single savedClaim) savedData "n").map (fun out =>
        (Runs.run (eventStep Kube.exact) out.1 [.call (.bindAntstorVolume "n" savedVolume)]).nodeMap.lookup "n") =
      some (some savedNode) := by
    decide +kernel
  rw [hCycle, Option.map_some, Option.some.injEq] at hAfter
  have hPod : preFilter mustLocalClass (.single savedClaim) oneClaimPod = some (.ok savedData) := rfl
  have hClaims : ∀ pvc ∈ savedData.mustLocalAntstorPVCs, ∀ bound,
      (ClaimStore.single (selectedBy true patchedClaim)).claims.lookup pvc.namespacedName = some bound →
        ∃ old, patched.claims.lookup pvc.namespacedName = some old ∧ BoundFrom "n" old bound := by
    intro pvc hPvc bound hBound
    cases List.mem_singleton.mp hPvc
    cases hBound
    exact ⟨patchedClaim, hClaim, boundFrom_selectedBy _⟩
  have hFilters : ∀ name, name ∈ basicAndAffinity.filters ↔ name = "Basic" ∨ name = "Affinity" := by
    intro name
    simp [basicAndAffinity, SchedulerConfig.setDefaults]
  have hSchedulable : savedNode.pool.isSchedulable := by decide +kernel
  have hProvisioned : ProvisionedOn savedNode (selectedBy true patchedClaim) :=
    ⟨_, _, _, _, _, savedVolume_provisions, by decide +kernel, fun _ _ => rfl⟩
  have hOne : preFilter mustLocalClass (.single (selectedBy true patchedClaim)) oneClaimPod =
      some (.ok { mustLocalAntstorPVCs := [selectedBy true patchedClaim] }) := rfl
  have hNone : preFilter mustLocalClass (.single (selectedBy true patchedClaim)) claimlessPod =
      some (.ok { skipAntstorPlugin := true }) := rfl
  refine ⟨reserved, patched, hCycle, List.forall_mem_cons.mpr ⟨?_, List.forall_mem_singleton.mpr ?_⟩⟩
  · exact (filter_returning_iff hPod hCycle hClaims hOne (by decide) hAfter (by simpa using hProvisioned)
      hSchedulable hFilters).trans (by simp [oneClaimPod])
  · exact (filter_returning_iff hPod hCycle hClaims hNone (by decide) hAfter (by simp)
      hSchedulable hFilters).trans (by simp [claimlessPod])

/-- While its volume is bound the claim keeps the pod away from the node. -/
theorem bound_claim_refused : ∃ reserved patched,
    boundCycle Kube.exact (Runs.run (eventStep Kube.exact) .newState smallState) (.single savedClaim) savedData "n" =
      some (reserved, patched) ∧
    patched.claims.lookup "d/c" = some patchedClaim ∧
    Provisions savedApi savedRequest "u" (selectedBy false patchedClaim) savedVolume ∧
    BoundFrom "n" patchedClaim (selectedBy true patchedClaim) ∧
    ((Runs.run (eventStep Kube.exact) reserved [.call (.bindAntstorVolume "n" savedVolume)]).AllNodes
      fun n => n.pool.isSchedulable ∧ n.volumes.map (·.name) = ["pv"]) ∧
    verdict Kube.exact mustLocalClass basicAndAffinity
      (Runs.run (eventStep Kube.exact) reserved [.call (.bindAntstorVolume "n" savedVolume)])
      (.single (selectedBy true patchedClaim)) oneClaimPod { name := "n" } ≠ some (.ok .success) := by
  obtain ⟨reserved, patched, hCycle, hClaim⟩ := savedCycle
  refine ⟨reserved, patched, hCycle, hClaim, savedVolume_provisions, boundFrom_selectedBy _, ?_⟩
  have hAfter : (boundCycle Kube.exact (Runs.run (eventStep Kube.exact) .newState smallState)
      (.single savedClaim) savedData "n").map (fun out =>
        Runs.run (eventStep Kube.exact) out.1 [.call (.bindAntstorVolume "n" savedVolume)]) =
      some (Runs.run (eventStep Kube.exact) .newState
        (smallState ++ [.call (.bindAntstorVolume "n" savedVolume)])) := by
    decide +kernel
  rw [hCycle, Option.map_some, Option.some.injEq] at hAfter
  dsimp only at hAfter
  rw [hAfter]
  decide +kernel

end Liteio.Plugin
