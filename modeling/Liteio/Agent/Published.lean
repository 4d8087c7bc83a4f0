import Liteio.Agent.Hosts
import Liteio.Agent.Served

/-! # The published target is the real one

A sync asks for a volume's target twice: `applyVolume` with what the volume
records of it, on no bdev and ignoring the result, and `createOpenAccess` with
the whole of it. The subsystem keeps the serial number of the first request that
creates it. As long as what a volume records agrees with what `createOpenAccess`
will ask for, both requests work towards the same target, and a volume is ready
only when the target it publishes is served.
-/

namespace Liteio.Nvmf

open VolumeSyncer Worker Optimistic
open Spdk (transportTypeTCP)

def NeedsTarget (vol : AntstorVolume) : Prop :=
  match vol.spec.type with
  | .spdkLVol => True
  | .kernelLVol => ∀ hostNode ∈ vol.spec.hostNode, vol.spec.targetNodeId ≠ hostNode.id
  | _ => False

def ReadyServed (obj : Option AntstorVolume) (node : Node) : Prop :=
  ∀ vol ∈ obj, vol.status.status = .ready → NeedsTarget vol → ∃ tgt ∈ vol.spec.spdkTarget, node.Serves tgt

instance (vol : AntstorVolume) : Decidable (NeedsTarget vol) := by
  unfold NeedsTarget
  split <;> infer_instance

instance (obj : Option AntstorVolume) (node : Node) : Decidable (ReadyServed obj node) :=
  inferInstanceAs (Decidable (∀ vol ∈ obj, _))

def finalType (svc : PoolService) (vol : AntstorVolume) : VolumeType :=
  match vol.spec.type, svc.mode with
  | .flexible, .kernelLVM => .kernelLVol
  | .flexible, .spdkLVStore => .spdkLVol
  | type, _ => type

def lvolOf (svc : PoolService) (vol : AntstorVolume) : SpdkLvol :=
  if hasLogicVolFinalizer vol then vol.spec.spdkLvol.getD {}
  else { lvsName := svc.storagePool.spec.spdkLVStore.name, name := vol.name, thin := false }

def goal (svc : PoolService) (vol : AntstorVolume) : SpdkTarget :=
  if finalType svc vol = .spdkLVol then
    lvolTarget (lvolOf svc vol) vol.spec.uuid svc.storagePool.spec.nodeInfo.ip (vol.spec.spdkTarget.getD {})
  else kernelTarget vol.spec.uuid svc.storagePool.spec.nodeInfo.ip

structure Agrees (tgt other : SpdkTarget) : Prop where
  serial : other.serialNum = tgt.serialNum
  transType : listenType (targetOf other) = tgt.transType
  address : other.address = tgt.address

section

variable (svc : PoolService) (vol : AntstorVolume)

theorem goal_serialNum : (goal svc vol).serialNum = getSNFromUUID vol.spec.uuid := by
  unfold goal
  split <;> rfl

theorem goal_transType : (goal svc vol).transType = transportTypeTCP := by
  unfold goal
  split <;> rfl

theorem goal_address : (goal svc vol).address = svc.storagePool.spec.nodeInfo.ip := by
  unfold goal
  split <;> rfl

theorem goal_agrees : Agrees (goal svc vol) (goal svc vol) := by
  refine ⟨rfl, ?_, rfl⟩
  rw [listenType, targetOf, goal_transType]
  rfl

end

structure Heading (svc : PoolService) (tgt : SpdkTarget) (vol : AntstorVolume) (node : Node) : Prop where
  fits : node.Fits tgt
  agrees : ∀ other ∈ vol.spec.spdkTarget, Agrees tgt other
  unrecorded : spdkTargetFinalizer ∉ vol.finalizers → goal svc vol = tgt
  recorded : spdkTargetFinalizer ∈ vol.finalizers → vol.spec.type ≠ .unset →
    ∃ other ∈ vol.spec.spdkTarget, node.Serves other
  ready : vol.status.status = .ready → NeedsTarget vol → spdkTargetFinalizer ∈ vol.finalizers

-- Without a writer the timestamp never changes, so a volume that is being deleted stays as it is.
structure Publishes (svc : PoolService) (tgt : SpdkTarget) (vol : AntstorVolume) (node : Node) : Prop where
  retired : vol.deletionTimestamp ≠ none → vol.status.status ≠ .ready
  live : vol.deletionTimestamp = none → Heading svc tgt vol node

def Fitting (tgt : SpdkTarget) : Call → Prop
  | .exposeAccess a => Suitable tgt a
  | .removeAccess _ => False
  | _ => True

def publishing (svc : PoolService) (tgt : SpdkTarget) : Spec Call Write (Option AntstorVolume) Node where
  permitted _ _ _ := True
  welcome _ _ _ := True
  inv obj node := ∀ vol ∈ obj, Publishes svc tgt vol node
  rel := Eq
  callable copy c written _ :=
    Fitting tgt c ∨ written = false ∧ ∀ vol ∈ copy, vol.deletionTimestamp ≠ none

section

variable {svc : PoolService} {tgt : SpdkTarget} {vol other : AntstorVolume} {node : Node} {c : Call}
  {written : Bool}

theorem Fitting.of_quiet (h : Quiet c) : Fitting tgt c := by
  cases c <;> first | exact h.elim | trivial

theorem Agrees.suitable {recorded : SpdkTarget} (h : Agrees tgt recorded) (hosts : List String) :
    Suitable tgt { openAccess := targetOf recorded, allowHostNQN := hosts } :=
  ⟨h.serial, h.transType, h.address, .inl rfl, fun _ hMem => absurd hMem (Option.not_mem_none _)⟩

theorem Node.Fits.addLvol (h : node.Fits tgt) (svc : PoolService) (volName : String) :
    (node.addLvol svc volName).Fits tgt := by
  unfold Node.addLvol
  split
  · refine ⟨fun hMem => ?_, h.subsystem⟩
    rcases List.mem_insert_iff.mp hMem with hName | hOld
    · have hLength := congrArg String.length hName
      simp only [String.length_append, show "/".length = 1 from rfl, show "".length = 0 from rfl] at hLength
      omega
    · exact h.unnamed hOld
  · exact h

theorem Node.Serves.addLvol (h : node.Serves tgt) (svc : PoolService) (volName : String) :
    (node.addLvol svc volName).Serves tgt := by
  unfold Node.addLvol
  split <;> exact h

theorem perform_keeps {keeps : Node → Prop} (hCall : Fitting tgt c) (ans : Answers) (hNode : keeps node)
    (hLvol : ∀ volName, keeps (node.addLvol svc volName))
    (hExpose : ∀ a, Suitable tgt a → keeps ((exposeAccess a).eval ans.serve node).2) :
    keeps (perform svc c ans node).2 := by
  cases c with
  | exposeAccess a => exact hExpose a hCall
  | removeAccess => exact hCall.elim
  | createVolume volName | createLvolClone _ _ volName =>
    simp only [perform]
    split
    · exact hNode
    · exact hLvol volName
  | _ => exact hNode

theorem perform_fits (hGiven : tgt.serialNum ≠ "") (hCall : Fitting tgt c) (ans : Answers) (hFits : node.Fits tgt) :
    (perform svc c ans node).2.Fits tgt :=
  perform_keeps hCall ans hFits (hFits.addLvol svc) fun _ hSuits => exposeAccess_fits hSuits hGiven ans hFits

theorem perform_serves {recorded : SpdkTarget} (hCall : Fitting tgt c) (ans : Answers)
    (hServes : node.Serves recorded) : (perform svc c ans node).2.Serves recorded :=
  perform_keeps hCall ans hServes (hServes.addLvol svc) fun _ _ => exposeAccess_serves ans hServes

theorem Heading.perform (h : Heading svc tgt vol node) (hGiven : tgt.serialNum ≠ "") (hCall : Fitting tgt c)
    (ans : Answers) : Heading svc tgt vol (perform svc c ans node).2 := by
  refine ⟨perform_fits hGiven hCall ans h.fits, h.agrees, h.unrecorded, fun hRecorded hType => ?_, h.ready⟩
  obtain ⟨recorded, hTarget, hServes⟩ := h.recorded hRecorded hType
  exact ⟨recorded, hTarget, perform_serves hCall ans hServes⟩

theorem goal_congr (hType : finalType svc other = finalType svc vol) (hUuid : other.spec.uuid = vol.spec.uuid)
    (hTarget : other.spec.spdkTarget = vol.spec.spdkTarget)
    (hLvol : finalType svc vol = .spdkLVol → lvolOf svc other = lvolOf svc vol) :
    goal svc other = goal svc vol := by
  unfold goal
  rw [hType, hUuid, hTarget]
  split
  · rename_i hSpdk
    rw [hLvol hSpdk]
  · rfl

theorem goal_alike (h : Alike vol other) : goal svc other = goal svc vol := by
  unfold goal finalType lvolOf hasLogicVolFinalizer
  rw [h.spec, h.finalizers, h.name]

theorem Heading.alike (h : Heading svc tgt vol node) (hAlike : Alike vol other) : Heading svc tgt other node := by
  obtain ⟨hFits, hAgrees, hUnrecorded, hRecorded, hReady⟩ := h
  refine ⟨hFits, ?_, ?_, ?_, ?_⟩
  · rwa [hAlike.spec]
  · rwa [goal_alike hAlike, hAlike.finalizers]
  · rwa [hAlike.spec, hAlike.finalizers]
  · unfold NeedsTarget
    rwa [hAlike.spec, hAlike.finalizers, hAlike.status]

theorem finalType_of_ne (h : vol.spec.type ≠ .flexible) : finalType svc vol = vol.spec.type := by
  unfold finalType
  split
  · contradiction
  · contradiction
  · rfl

theorem finalType_ne (svc : PoolService) (vol : AntstorVolume) : finalType svc vol ≠ .flexible := by
  unfold finalType
  split
  · decide
  · decide
  · rename_i hKernel hSpdk
    intro hType
    cases hMode : svc.mode with
    | kernelLVM => exact hKernel hType hMode
    | spdkLVStore => exact hSpdk hType hMode

theorem goal_kernelLVol (svc : PoolService) (hType : vol.spec.type = .kernelLVol) :
    goal svc vol = kernelTarget vol.spec.uuid svc.storagePool.spec.nodeInfo.ip := by
  rw [goal, if_neg]
  rw [finalType_of_ne (by rw [hType]; decide), hType]
  decide

theorem goal_spdkLVol (svc : PoolService) {lvol : SpdkLvol} (hType : vol.spec.type = .spdkLVol)
    (hLogic : hasLogicVolFinalizer vol = true) (hLvol : vol.spec.spdkLvol = some lvol) :
    goal svc vol = lvolTarget lvol vol.spec.uuid svc.storagePool.spec.nodeInfo.ip (vol.spec.spdkTarget.getD {}) := by
  have hFinal : finalType svc vol = .spdkLVol := (finalType_of_ne (by rw [hType]; decide)).trans hType
  rw [goal, if_pos hFinal, lvolOf, if_pos hLogic, hLvol]
  rfl

theorem updateVolumeType_eq (hType : vol.spec.type = .flexible) :
    updateVolumeType svc vol =
      Prog.send (.update { vol with spec := { vol.spec with type := finalType svc vol } }) := by
  rw [updateVolumeType, finalType, hType]
  cases svc.mode <;> rfl

theorem Heading.settleType (h : Heading svc tgt vol node) (hReady : vol.status.status ≠ .ready)
    (hType : vol.spec.type = .flexible) :
    Heading svc tgt { vol with spec := { vol.spec with type := finalType svc vol } } node := by
  refine ⟨h.fits, h.agrees, fun hNew => ?_, fun hRecorded _ => ?_, fun hNow => absurd hNow hReady⟩
  · rw [← h.unrecorded hNew]
    exact goal_congr (finalType_of_ne (finalType_ne svc vol)) rfl rfl fun _ => rfl
  · exact h.recorded hRecorded (by rw [hType]; decide)

theorem Heading.made {made : AntstorVolume} (h : Heading svc tgt vol node) (hType : vol.spec.type ≠ .flexible)
    (hNone : hasLogicVolFinalizer vol = false) (hMade : Made svc vol made) :
    Heading svc tgt { made with finalizers := made.finalizers ++ [logicVolumeFinalizer] } node := by
  obtain ⟨kernelLvol, spdkLvol, rfl, hLvol⟩ := hMade
  have hMem : spdkTargetFinalizer ∈ vol.finalizers ++ [logicVolumeFinalizer] ↔
      spdkTargetFinalizer ∈ vol.finalizers := by
    simp [show spdkTargetFinalizer ≠ logicVolumeFinalizer by decide]
  refine ⟨h.fits, h.agrees, fun hNew => ?_, fun hRecorded => ?_, fun hReady hNeeds => ?_⟩
  · rw [← h.unrecorded fun hOld => hNew (hMem.mpr hOld)]
    refine goal_congr rfl rfl rfl fun hSpdk => ?_
    rw [finalType_of_ne hType] at hSpdk
    rw [lvolOf, if_pos (by simp [hasLogicVolFinalizer]), lvolOf, if_neg (by simp [hNone]), hLvol hSpdk]
    rfl
  · exact h.recorded (hMem.mp hRecorded)
  · exact hMem.mpr (h.ready hReady hNeeds)

theorem Heading.record {recorded : SpdkTarget} (h : Heading svc tgt vol node) (hAgrees : Agrees tgt recorded)
    (hServes : vol.spec.type ≠ .unset → node.Serves recorded) :
    Heading svc tgt { vol with
      finalizers := vol.finalizers ++ [spdkTargetFinalizer]
      spec := { vol.spec with spdkTarget := some recorded } } node := by
  have hMem : spdkTargetFinalizer ∈ vol.finalizers ++ [spdkTargetFinalizer] :=
    List.mem_append_right _ (List.mem_singleton_self _)
  refine ⟨h.fits, ?_, fun hNew => absurd hMem hNew, fun _ hType => ⟨recorded, rfl, hServes hType⟩, fun _ _ => hMem⟩
  rintro _ ⟨⟩
  exact hAgrees

theorem inv_update {new : AntstorVolume} (hLive : vol.deletionTimestamp = none) (hAlike : Alike vol other)
    (h : Heading svc tgt new node) (hName : new.name = other.name)
    (hDeletion : new.deletionTimestamp = other.deletionTimestamp) (hStatus : new.status = other.status) :
    (publishing svc tgt).inv (Write.apply (.update new) (some vol)) node := by
  rw [show Write.apply (.update new) (some vol) = _ from finalize_live hLive]
  rintro _ ⟨⟩
  refine ⟨fun hDeleted => absurd hLive hDeleted, fun _ => h.alike ⟨?_, ?_, rfl, rfl, ?_⟩⟩
  · exact (hName.trans hAlike.name).symm
  · exact (hDeletion.trans hAlike.deletionTimestamp).symm
  · exact (hStatus.trans hAlike.status).symm

theorem inv_alike (hLive : vol.deletionTimestamp = none) (h : Heading svc tgt vol node) (hAlike : Alike vol other) :
    (publishing svc tgt).inv (Write.apply (.update other) (some vol)) node :=
  inv_update hLive hAlike (h.alike hAlike) rfl rfl rfl

theorem inv_updateStatus (hLive : vol.deletionTimestamp = none) (h : Heading svc tgt vol node)
    (hReady : other.status.status = .ready → NeedsTarget vol → spdkTargetFinalizer ∈ vol.finalizers) :
    (publishing svc tgt).inv (Write.apply (.updateStatus other) (some vol)) node := by
  rw [show Write.apply (.updateStatus other) (some vol) = _ from finalize_live hLive]
  rintro _ ⟨⟩
  exact ⟨fun hDeleted => absurd hLive hDeleted, fun _ => ⟨h.fits, h.agrees, h.unrecorded, h.recorded, hReady⟩⟩

theorem inv_retired (hDeleted : vol.deletionTimestamp ≠ none) (hStatus : vol.status.status ≠ .ready)
    (other : AntstorVolume) : (publishing svc tgt).inv (Write.apply (.update other) (some vol)) node := by
  intro current hCurrent
  obtain ⟨_, hSame⟩ := Option.ite_none_left_eq_some.mp hCurrent
  cases hSame
  exact ⟨fun _ => hStatus, fun hLive => absurd hLive hDeleted⟩

theorem handleDeletion_meets (hDeleted : vol.deletionTimestamp ≠ none) (hStatus : vol.status.status ≠ .ready) :
    (publishing svc tgt).Meets (agent svc) (some vol) (fun _ _ _ => True) (handleDeletion svc vol) false node := by
  have hAccess : ∀ a, (publishing svc tgt).Meets (agent svc) (some vol) (fun _ _ _ => True)
      (Prog.attempt (.removeAccess a) id) false node := by
    refine fun a => Spec.meets_attempt (.inr ⟨rfl, ?_⟩) fun _ _ _ _ => trivial
    rintro _ ⟨⟩
    exact hDeleted
  have hRemove : (publishing svc tgt).Meets (agent svc) (some vol) (fun _ _ _ => True) (removeTarget vol)
      false node := by
    unfold removeTarget
    split
    -- From here on nothing is known of the target, and nothing has to be.
    · refine (hAccess _).bind fun _ written node _ => ?_
      split
      · exact ⟨rfl, inv_retired hDeleted hStatus _, trivial⟩
      · trivial
    · split <;> trivial
  refine hRemove.bind fun _ written node _ => ?_
  split
  · refine (Spec.meets_of_all (fun _ => True) (deleteLogicVolume_all svc vol) trivial ?_ ?_).mono
      fun _ _ _ _ => trivial
    · exact fun c hCall _ _ _ => ⟨.inl (.of_quiet hCall), fun _ => trivial⟩
    · rintro _ ⟨new, rfl⟩ node _
      exact ⟨rfl, inv_retired hDeleted hStatus new⟩
  · trivial

theorem Heading.meets {β : Type} {p : Pass β} {writes : Write → Prop} {post : β → Prop}
    (h : Heading svc tgt vol node) (hGiven : tgt.serialNum ≠ "") (hp : p.All (Fitting tgt) writes post)
    (hWrites : ∀ w, writes w → ∀ node, Heading svc tgt vol node →
      w.guarded = true ∧ (publishing svc tgt).inv (w.apply (some vol)) node) :
    (publishing svc tgt).Meets (agent svc) (some vol) (fun b _ node => post b ∧ Heading svc tgt vol node)
      p written node :=
  Spec.meets_of_all (Heading svc tgt vol) hp h
    (fun _ hCall _ _ hNode => ⟨.inl hCall, fun ans => hNode.perform hGiven hCall ans⟩) hWrites

theorem allowHosts_fitting (hostNode : Option NodeInfo) :
    (allowHosts hostNode).All (Fitting tgt) (fun _ => False) fun _ => True :=
  (allowHosts_all hostNode).mono (fun _ hCall => .of_quiet hCall.quiet) (fun _ => id) fun _ => id

theorem applyAllowHosts_fitting (h : ∀ recorded ∈ vol.spec.spdkTarget, Agrees tgt recorded) :
    (applyAllowHosts vol).All (Fitting tgt) (fun _ => False) fun _ => True := by
  unfold applyAllowHosts
  split
  · rename_i recorded hTarget
    exact (allowHosts_fitting _).bind fun hosts _ => ⟨(h recorded hTarget).suitable hosts, fun _ => trivial⟩
  · trivial

theorem expose_meets {request : SpdkTarget} {aio : Option AioVolume} {lvol : Option SpdkLVolume}
    {post : AntstorVolume → Bool → Node → Prop} (hLive : vol.deletionTimestamp = none)
    (h : Heading svc tgt vol node) (hGiven : tgt.serialNum ≠ "") (hAlike : Alike vol other)
    (hAgrees : Agrees tgt request)
    (hSuits : ∀ hosts, Suitable tgt ⟨aio, lvol, targetOf request, hosts⟩)
    (hWhole : vol.spec.type ≠ .unset → request = tgt ∧
      ∀ hosts, bdevOf ⟨aio, lvol, targetOf request, hosts⟩ = tgt.bdevName) :
    (publishing svc tgt).Meets (agent svc) (some vol) post (expose other request aio lvol) written node := by
  refine (h.meets hGiven (allowHosts_fitting other.spec.hostNode) fun _ => False.elim).bind ?_
  rintro hosts written node ⟨-, h⟩
  have hExpose : (publishing svc tgt).Meets (agent svc) (some vol)
      (fun svcID _ node => Heading svc tgt vol node ∧
        (vol.spec.type ≠ .unset → node.Serves { request with svcID := svcID }))
      (Prog.fetch (.exposeAccess ⟨aio, lvol, targetOf request, hosts⟩) id) written node := by
    have hCall : Fitting tgt (.exposeAccess ⟨aio, lvol, targetOf request, hosts⟩) := hSuits hosts
    refine Spec.meets_fetch (.inl hCall) fun _ _ ans svcID hDone => ⟨?_, fun hType => ?_⟩
    · exact h.perform hGiven hCall ans
    · obtain ⟨rfl, hBdev⟩ := hWhole hType
      obtain ⟨resp, hResp, rfl⟩ := Option.map_eq_some_iff.mp hDone
      exact exposeAccess_served (hSuits hosts) hGiven rfl (hBdev hosts) h.fits ans hResp
  refine hExpose.bind ?_
  rintro svcID written node ⟨h, hServes⟩
  -- The update adds the finalizer and the record together, so the record is of a served target.
  have hOther := h.alike hAlike
  refine ⟨rfl, inv_update hLive hAlike (hOther.record ⟨hAgrees.serial, hAgrees.transType, hAgrees.address⟩ ?_)
    rfl rfl rfl, trivial⟩
  rw [hAlike.spec]
  exact hServes

def Opened (svc : PoolService) (tgt : SpdkTarget) (vol other : AntstorVolume) (_written : Bool) (node : Node) : Prop :=
  Heading svc tgt vol node ∧ Alike vol other ∧ (NeedsTarget vol → spdkTargetFinalizer ∈ vol.finalizers)

section

variable (hLive : vol.deletionTimestamp = none) (h : Heading svc tgt vol node) (hGiven : tgt.serialNum ≠ "")
  (hAlike : Alike vol other)
include hLive h hGiven hAlike

theorem openAccess_meets {hostNode : NodeInfo} (hHost : vol.spec.hostNode = some hostNode)
    (hNew : spdkTargetFinalizer ∉ vol.finalizers) (hLogic : hasLogicVolFinalizer vol = true)
    (hType : vol.spec.type ≠ .flexible) :
    (publishing svc tgt).Meets (agent svc) (some vol) (Opened svc tgt vol)
      (openAccess other (other.spec.targetNodeId = hostNode.id) svc.storagePool.spec.nodeInfo.ip) written node := by
  obtain rfl := h.unrecorded hNew
  have hGoal := goal_agrees svc vol
  unfold openAccess
  rw [hAlike.spec]
  split
  · rename_i hKernel
    split
    · rename_i hLocal
      refine ⟨h, hAlike, fun hNeeds => ?_⟩
      rw [NeedsTarget, hKernel] at hNeeds
      exact absurd (of_decide_eq_true hLocal) (hNeeds hostNode hHost)
    · split
      · split
        · trivial
        · have hRequest := goal_kernelLVol svc hKernel
          rw [← hRequest]
          refine expose_meets hLive h hGiven hAlike hGoal (fun _ => ⟨rfl, hGoal.transType, rfl, .inr rfl, ?_⟩)
            fun _ => ⟨rfl, fun _ => rfl⟩
          rintro _ ⟨⟩
          rw [hRequest] at hGiven ⊢
          exact hGiven
      · trivial
  · rename_i hSpdk
    split
    · rename_i lvol hLvol
      have hRequest := goal_spdkLVol svc hSpdk hLogic hLvol
      have hBdev : (goal svc vol).bdevName = lvol.fullName := congrArg SpdkTarget.bdevName hRequest
      rw [← hRequest]
      refine expose_meets hLive h hGiven hAlike hGoal
        (fun _ => ⟨rfl, hGoal.transType, rfl, .inr hBdev.symm, ?_⟩) fun _ => ⟨rfl, fun _ => hBdev.symm⟩
      exact fun _ hMem => absurd hMem (Option.not_mem_none _)
    · trivial
  -- The source's default case: only a volume without a type is left, and it needs no target.
  · rename_i hKernel hSpdk
    have hUnset : vol.spec.type = .unset := by
      cases hCase : vol.spec.type with
      | unset => rfl
      | flexible => exact absurd hCase hType
      | kernelLVol => exact absurd hCase hKernel
      | spdkLVol => exact absurd hCase hSpdk
    split
    · rename_i recorded hTarget
      have hAgrees := h.agrees recorded hTarget
      exact expose_meets hLive h hGiven hAlike hAgrees hAgrees.suitable fun hSet => absurd hUnset hSet
    · trivial

theorem createOpenAccess_meets (hLogic : hasLogicVolFinalizer vol = true) (hType : vol.spec.type ≠ .flexible) :
    (publishing svc tgt).Meets (agent svc) (some vol) (Opened svc tgt vol) (createOpenAccess svc other)
      written node := by
  unfold createOpenAccess
  split
  · trivial
  · rename_i hostNode hHost
    rw [hAlike.spec] at hHost
    dsimp only
    split
    · trivial
    · split
      · rename_i hRecorded
        rw [hAlike.finalizers] at hRecorded
        exact ⟨h, hAlike, fun _ => hRecorded⟩
      · rename_i hNew
        rw [hAlike.finalizers] at hNew
        split
        · trivial
        · exact openAccess_meets hLive h hGiven hAlike hHost hNew hLogic hType

theorem bringUp_meets : (publishing svc tgt).Meets (agent svc) (some vol) (fun _ _ _ => True) (bringUp svc other)
    written node := by
  unfold bringUp
  split
  · trivial
  · rename_i hStatus
    split
    · rename_i hType
      rw [updateVolumeType_eq hType]
      exact ⟨rfl, inv_update hLive hAlike ((h.alike hAlike).settleType hStatus hType) rfl rfl rfl, trivial⟩
    · rename_i hType
      refine (h.meets hGiven ((createVolume_all svc other).mono (fun _ hCall => .of_quiet hCall.quiet)
        (fun _ => id) fun _ => id) ?_).bind ?_
      · rintro _ ⟨hNone, made, hMade, rfl⟩ node h
        have hHeading := (h.alike hAlike).made hType hNone hMade
        obtain ⟨_, _, rfl, _⟩ := hMade
        exact ⟨rfl, inv_update hLive hAlike hHeading rfl rfl rfl⟩
      · rintro _ written node ⟨⟨hLogic, rfl⟩, h⟩
        rw [hAlike.spec] at hType
        have hLogicVol : hasLogicVolFinalizer vol = true := by
          rw [hasLogicVolFinalizer, hAlike.finalizers] at hLogic
          exact hLogic
        refine (createOpenAccess_meets hLive h hGiven hAlike hLogicVol hType).bind ?_
        rintro opened written node ⟨h, _, hOpened⟩
        exact ⟨rfl, inv_updateStatus hLive h fun _ => hOpened, trivial⟩

end

theorem applyVolume_meets (hLive : vol.deletionTimestamp = none) (h : Heading svc tgt vol node)
    (hGiven : tgt.serialNum ≠ "") (hAlike : Alike vol other) :
    (publishing svc tgt).Meets (agent svc) (some vol)
      (fun applied _ node => Alike vol applied ∧ Heading svc tgt vol node) (applyVolume other) written node := by
  refine (h.meets hGiven (applyAllocatedSize_all.mono (fun _ hCall => .of_quiet hCall.quiet) (fun _ => id)
    fun _ hSize => hAlike.trans (.of_allocated hSize)) ?_).bind ?_
  · rintro _ ⟨sizeByte, rfl⟩ node h
    exact ⟨rfl, inv_alike hLive h (hAlike.trans (.of_allocated (.inr ⟨sizeByte, rfl⟩)))⟩
  · rintro applied written node ⟨hApplied, h⟩
    refine (h.meets hGiven (applyAllowHosts_fitting (h.alike hApplied).agrees) fun _ => False.elim).bind ?_
    exact fun _ _ _ hDone => ⟨hApplied, hDone.2⟩

theorem syncOneVolume_meets (h : Publishes svc tgt vol node) (hGiven : tgt.serialNum ≠ "") :
    (publishing svc tgt).Meets (agent svc) (some vol) (fun _ _ _ => True) (syncOneVolume svc vol) false node := by
  unfold syncOneVolume
  split
  · trivial
  · split
    · rename_i hDeleted
      have hDeletion := Option.isSome_iff_ne_none.mp hDeleted
      exact handleDeletion_meets hDeletion (h.retired hDeletion)
    · rename_i hDeleted
      have hLive := Option.not_isSome_iff_eq_none.mp hDeleted
      refine ((h.live hLive).meets hGiven ((expandVolume_all vol).mono (fun _ => .of_quiet) (fun _ => id)
        fun _ => id) ?_).bind ?_
      · rintro _ rfl node h
        exact ⟨rfl, inv_alike hLive h ⟨rfl, rfl, rfl, rfl, rfl⟩⟩
      · rintro expanded written node ⟨hExpanded, h⟩
        refine (applyVolume_meets hLive h hGiven hExpanded).bind ?_
        rintro applied written node ⟨hApplied, h⟩
        exact bringUp_meets hLive h hGiven hApplied

theorem Publishes.perform (h : Publishes svc tgt vol node) (hGiven : tgt.serialNum ≠ "")
    (hCall : Fitting tgt c ∨ vol.deletionTimestamp ≠ none) (ans : Answers) :
    Publishes svc tgt vol (perform svc c ans node).2 := by
  refine ⟨h.retired, fun hLive => ?_⟩
  rcases hCall with hFitting | hDeleted
  · exact (h.live hLive).perform hGiven hFitting ans
  · exact absurd hLive hDeleted

theorem publishing_valid (svc : PoolService) (hGiven : tgt.serialNum ≠ "") :
    (publishing svc tgt).Valid (agent svc) where
  refl _ := rfl
  program copy node h := by
    cases copy with
    | none => trivial
    | some vol => exact syncOneVolume_meets (h vol rfl) hGiven
  call copy c written ans obj node h hRel hCallable _ vol hVol := by
    refine (h vol hVol).perform hGiven ?_ ans
    rcases hCallable with hFitting | ⟨hWritten, hDeleted⟩
    · exact .inl hFitting
    · exact .inr (hDeleted vol (hRel hWritten ▸ hVol))
  writer _ _ _ _ _ hWriter := by cases hWriter

end

theorem readyServed_of_publishes {svc : PoolService} {tgt : SpdkTarget} {obj : Option AntstorVolume} {node : Node}
    (h : (publishing svc tgt).inv obj node) : ReadyServed obj node := by
  intro vol hVol hReady hNeeds
  have hLive : vol.deletionTimestamp = none := by
    by_contra hDeleted
    exact (h vol hVol).retired hDeleted hReady
  have hType : vol.spec.type ≠ .unset := by
    intro hUnset
    rw [NeedsTarget, hUnset] at hNeeds
    exact hNeeds
  have hHeading := (h vol hVol).live hLive
  exact hHeading.recorded (hHeading.ready hReady hNeeds) hType

structure Complete (svc : PoolService) (vol : AntstorVolume) (tgt : SpdkTarget) : Prop where
  serial : tgt.serialNum = getSNFromUUID vol.spec.uuid
  transType : tgt.transType = "" ∨ tgt.transType = transportTypeTCP
  address : tgt.address = svc.storagePool.spec.nodeInfo.ip

theorem Complete.agrees {svc : PoolService} {vol : AntstorVolume} {tgt : SpdkTarget} (h : Complete svc vol tgt) :
    Agrees (goal svc vol) tgt := by
  refine ⟨h.serial.trans (goal_serialNum svc vol).symm, ?_, h.address.trans (goal_address svc vol).symm⟩
  rw [goal_transType, listenType, targetOf]
  rcases h.transType with hEmpty | hTcp
  · rw [if_pos hEmpty]
  · rw [hTcp]
    rfl

def targetNames (vol : AntstorVolume) : List String :=
  getNQNFromUUID vol.spec.uuid :: (vol.spec.spdkTarget.map SpdkTarget.subsysNQN).toList

theorem mem_targetNames {vol : AntstorVolume} {tgt : SpdkTarget} (h : vol.spec.spdkTarget = some tgt) :
    tgt.subsysNQN ∈ targetNames vol := by
  rw [targetNames, h]
  exact List.mem_cons_of_mem _ (List.mem_singleton_self _)

theorem lvolTarget_mem_targetNames {vol : AntstorVolume} (lvol : SpdkLvol) (nodeIP : String) :
    (lvolTarget lvol vol.spec.uuid nodeIP (vol.spec.spdkTarget.getD {})).subsysNQN ∈ targetNames vol := by
  dsimp only [lvolTarget]
  split
  · exact List.mem_cons_self
  · rename_i hName
    cases hTarget : vol.spec.spdkTarget with
    | none =>
      rw [hTarget] at hName
      exact absurd rfl hName
    | some tgt => exact mem_targetNames hTarget

theorem goal_mem_targetNames (svc : PoolService) (vol : AntstorVolume) :
    (goal svc vol).subsysNQN ∈ targetNames vol := by
  unfold goal
  split
  · exact lvolTarget_mem_targetNames _ _
  · exact List.mem_cons_self

/-- In every run of syncs of a new volume whose record of the target, if it has
one, is complete, the volume is ready only while the node serves the target it
publishes. -/
theorem always_readyServed {svc : PoolService} {vol : AntstorVolume} {node : Node}
    (hNew : spdkTargetFinalizer ∉ vol.finalizers) (hStatus : vol.status.status ≠ .ready)
    (hUuid : getSNFromUUID vol.spec.uuid ≠ "") (hUnnamed : "" ∉ node.bdevs)
    (hFree : ∀ nqn ∈ targetNames vol, node.subsystems.lookup nqn = none)
    (hComplete : ∀ tgt ∈ vol.spec.spdkTarget, Complete svc vol tgt) (events : List (Event Process Answers)) :
    Runs.Always (agent svc).protocol.step (fun t => ReadyServed t.object.value t.world)
      (System.init (some vol) node) events := by
  have hGiven : (goal svc vol).serialNum ≠ "" := by
    rwa [goal_serialNum]
  have hFits : node.Fits (goal svc vol) := by
    refine ⟨hUnnamed, fun subsys hFound => ?_⟩
    cases (hFree _ (goal_mem_targetNames svc vol)).symm.trans hFound
  have hInit : (publishing svc (goal svc vol)).inv (some vol) node := by
    rintro _ ⟨⟩
    exact ⟨fun _ => hStatus, fun _ => ⟨hFits, fun tgt hTarget => (hComplete tgt hTarget).agrees, fun _ => rfl,
      fun hRecorded => absurd hRecorded hNew, fun hReady => absurd hReady hStatus⟩⟩
  have hAlways := (publishing_valid svc hGiven).always_free (fun _ _ _ => trivial) (fun _ _ _ => trivial) hInit events
  exact hAlways.mono fun t hInv => readyServed_of_publishes hInv

def freshVolume (spdkTarget : Option SpdkTarget) : AntstorVolume where
  name := "v"
  finalizers := [inStateFinalizer]
  spec := { uuid := "u", type := .spdkLVol, sizeByte := fourMiB, targetNodeId := "n", hostNode := some { id := "h" },
            spdkTarget := spdkTarget }

def lvsPool : PoolService where
  mode := .spdkLVStore
  storagePool := { spec := { nodeInfo := { ip := "10.0.0.1" }, spdkLVStore := { name := "lvs" } } }

def syncPass (calls : ℕ) : List (Event Process Answers) :=
  [.read .worker] ++ List.replicate (calls + 2) (.act .worker { rpc := fun _ => { svcID := "4420" } }) ++
    [.write .worker, .act .worker {}]

/-- The logical volume, the target and the status, in three passes. -/
theorem plainVolume_published :
    ((Runs.run (agent lvsPool).protocol.step (System.init (some (freshVolume none)) {})
      (syncPass 1 ++ syncPass 2 ++ syncPass 2)).object.value.map fun vol => vol.status.status) = some .ready ∧
    Runs.Always (agent lvsPool).protocol.step (fun t => ReadyServed t.object.value t.world)
      (System.init (some (freshVolume none)) {}) (syncPass 1 ++ syncPass 2 ++ syncPass 2) := by
  refine ⟨by decide +kernel, always_readyServed (by decide) (by decide) (by decide) (by decide) (by decide) ?_ _⟩
  exact fun _ hTarget => absurd hTarget (Option.not_mem_none _)

def destinationVolume : AntstorVolume := freshVolume (some { subsysNQN := "nqn.src", nsUUID := "ns" })

/-- The subsystem keeps the serial number from before the target was known. -/
theorem destinationVolume_published :
    let t := Runs.run (agent lvsPool).protocol.step (System.init (some destinationVolume) {})
      (syncPass 3 ++ syncPass 4 ++ syncPass 2)
    ¬ ReadyServed t.object.value t.world ∧
      (t.world.subsystems.lookup "nqn.src").map Subsystem.serialNum = some defaultSerialNumber ∧
      (t.object.value.bind fun vol => vol.spec.spdkTarget.map SpdkTarget.serialNum) = some "u" := by
  decide +kernel

end Liteio.Nvmf
