import Liteio.Agent.Access

/-! # What an exposed target looks like

A subsystem fits a target as long as what it has of the target is right, and
serves it once nothing is missing. Requests that suit the target keep a fitting
subsystem fitting, and no request but a deletion ends its service. `ExposeAccess`
for the target itself, if it returns without an error, has completed whatever
part of the subsystem it found.
-/

namespace Liteio.Nvmf

open VolumeSyncer Worker
open Spdk (ListenAddress transportTypeTCP)

structure Subsystem.Fits (tgt : SpdkTarget) (subsys : Subsystem) : Prop where
  serial : subsys.serialNum = tgt.serialNum
  bdev : ∀ ns ∈ subsys.namespaces, ns.bdevName = tgt.bdevName
  listener : ∀ laddr ∈ subsys.listenAddresses, laddr.trType = tgt.transType ∧ laddr.trAddr = tgt.address

structure Node.Fits (tgt : SpdkTarget) (node : Node) : Prop where
  unnamed : "" ∉ node.bdevs
  subsystem : ∀ subsys, node.subsystems.lookup tgt.subsysNQN = some subsys → subsys.Fits tgt

structure Subsystem.Serves (tgt : SpdkTarget) (subsys : Subsystem) : Prop where
  serial : subsys.serialNum = tgt.serialNum
  bdev : ∃ ns ∈ subsys.namespaces, ns.bdevName = tgt.bdevName
  listener : ∃ laddr ∈ subsys.listenAddresses,
    laddr.trType = tgt.transType ∧ laddr.trAddr = tgt.address ∧ laddr.trSvcID = tgt.svcID

def Node.Serves (tgt : SpdkTarget) (node : Node) : Prop :=
  ∃ subsys, node.subsystems.lookup tgt.subsysNQN = some subsys ∧ subsys.Serves tgt

instance (tgt : SpdkTarget) (subsys : Subsystem) : Decidable (subsys.Serves tgt) :=
  decidable_of_iff ((subsys.serialNum = tgt.serialNum ∧ ∃ ns ∈ subsys.namespaces, ns.bdevName = tgt.bdevName) ∧
      ∃ laddr ∈ subsys.listenAddresses,
        laddr.trType = tgt.transType ∧ laddr.trAddr = tgt.address ∧ laddr.trSvcID = tgt.svcID)
    ⟨fun h => ⟨h.1.1, h.1.2, h.2⟩, fun h => ⟨⟨h.serial, h.bdev⟩, h.listener⟩⟩

instance (tgt : SpdkTarget) (node : Node) : Decidable (node.Serves tgt) :=
  inferInstanceAs (Decidable (∃ subsys ∈ node.subsystems.lookup tgt.subsysNQN, _))

def Suits (tgt : SpdkTarget) : Rpc → Prop
  | .bdevAioCreate bdevName _ => bdevName ≠ ""
  | .nvmfCreateSubsystem _ _ serialNumber _ => serialNumber = tgt.serialNum
  | .nvmfSubsystemAddNS _ bdevName _ => bdevName = "" ∨ bdevName = tgt.bdevName
  | .nvmfSubsystemAddListener _ address => address.trType = tgt.transType ∧ address.trAddr = tgt.address
  | .nvmfDeleteSubsystem _ => False
  | _ => True

theorem Node.lookup_put (node : Node) (nqn other : String) (subsys : Subsystem) :
    (node.put nqn subsys).subsystems.lookup other =
      if other = nqn then some subsys else node.subsystems.lookup other :=
  FiniteMap.lookup_insert_eq node.subsystems nqn other subsys

theorem Node.lookup_put_self (node : Node) (nqn : String) (subsys : Subsystem) :
    (node.put nqn subsys).subsystems.lookup nqn = some subsys :=
  Finmap.lookup_insert node.subsystems

section

variable {tgt : SpdkTarget} {node node' : Node} {nqn : String} {subsys : Subsystem} {c : Rpc}

theorem Node.Fits.put (h : node.Fits tgt) (hPut : nqn = tgt.subsysNQN → subsys.Fits tgt) :
    (node.put nqn subsys).Fits tgt := by
  refine ⟨h.unnamed, fun found hFound => ?_⟩
  rw [Node.lookup_put] at hFound
  split at hFound
  · rename_i hName
    exact Option.some.inj hFound ▸ hPut hName.symm
  · exact h.subsystem found hFound

theorem Rpc.Effect.fits (h : Rpc.Effect node c node') (hSuits : Suits tgt c) (hSerial : tgt.serialNum ≠ "")
    (hFits : node.Fits tgt) : node'.Fits tgt := by
  have hOld : ∀ nqn subsys, node.subsystems.lookup nqn = some subsys → nqn = tgt.subsysNQN → subsys.Fits tgt := by
    rintro _ subsys hFound rfl
    exact hFits.subsystem subsys hFound
  cases h with
  | idle => exact hFits
  | bdevs _ bdevs hNew =>
    refine ⟨fun hUnnamed => ?_, hFits.subsystem⟩
    rcases hNew "" hUnnamed with hBefore | ⟨devPath, rfl⟩
    · exact hFits.unnamed hBefore
    · exact hSuits rfl
  | create nqn allowAnyHost serialNumber modelNumber =>
    obtain rfl : serialNumber = tgt.serialNum := hSuits
    refine hFits.put fun _ => ⟨if_neg hSerial, ?_, ?_⟩
    · exact fun _ hMem => absurd hMem List.not_mem_nil
    · exact fun _ hMem => absurd hMem List.not_mem_nil
  | delete => exact hSuits.elim
  | addNS nqn bdevName uuid subsys hFound hBdev =>
    refine hFits.put fun hName => ?_
    obtain ⟨hSerialNum, hBdevs, hListeners⟩ := hOld nqn subsys hFound hName
    refine ⟨hSerialNum, fun ns hNs => ?_, hListeners⟩
    rcases List.mem_append.mp hNs with hBefore | hAdded
    · exact hBdevs ns hBefore
    · rw [List.mem_singleton.mp hAdded]
      exact hSuits.resolve_left fun hEmpty => hFits.unnamed (hEmpty ▸ hBdev)
  | addListener nqn address subsys hFound =>
    refine hFits.put fun hName => ?_
    obtain ⟨hSerialNum, hBdevs, hListeners⟩ := hOld nqn subsys hFound hName
    refine ⟨hSerialNum, hBdevs, fun laddr hListener => ?_⟩
    rcases List.mem_append.mp hListener with hBefore | hAdded
    · exact hListeners laddr hBefore
    · exact List.mem_singleton.mp hAdded ▸ hSuits
  | addHost nqn hostNQN subsys hFound =>
    refine hFits.put fun hName => ?_
    obtain ⟨hSerialNum, hBdevs, hListeners⟩ := hOld nqn subsys hFound hName
    exact ⟨hSerialNum, hBdevs, hListeners⟩

structure Extends (subsys subsys' : Subsystem) : Prop where
  serial : subsys'.serialNum = subsys.serialNum
  namespaces : ∀ ns ∈ subsys.namespaces, ns ∈ subsys'.namespaces
  listeners : ∀ laddr ∈ subsys.listenAddresses, laddr ∈ subsys'.listenAddresses

theorem Subsystem.Serves.extends {subsys' : Subsystem} (h : subsys.Serves tgt) (hExtends : Extends subsys subsys') :
    subsys'.Serves tgt := by
  obtain ⟨hSerial, ⟨ns, hNs, hBdev⟩, laddr, hListener, hAddress⟩ := h
  exact ⟨hExtends.serial.trans hSerial, ⟨ns, hExtends.namespaces ns hNs, hBdev⟩,
    laddr, hExtends.listeners laddr hListener, hAddress⟩

theorem Node.Serves.put (h : node.Serves tgt)
    (hPut : ∀ found, node.subsystems.lookup nqn = some found → Extends found subsys) :
    (node.put nqn subsys).Serves tgt := by
  obtain ⟨served, hServed, hServes⟩ := h
  unfold Node.Serves
  rw [Node.lookup_put]
  split
  · rename_i hName
    exact ⟨subsys, rfl, hServes.extends (hPut served (hName ▸ hServed))⟩
  · exact ⟨served, hServed, hServes⟩

theorem Node.Serves.extend {subsys' : Subsystem} (h : node.Serves tgt)
    (hFound : node.subsystems.lookup nqn = some subsys) (hExtends : Extends subsys subsys') :
    (node.put nqn subsys').Serves tgt :=
  h.put fun _ hOther => Option.some.inj (hFound.symm.trans hOther) ▸ hExtends

theorem Rpc.Effect.serves (h : Rpc.Effect node c node') (hKeeps : ∀ nqn, c ≠ .nvmfDeleteSubsystem nqn)
    (hServes : node.Serves tgt) : node'.Serves tgt := by
  cases h with
  | idle => exact hServes
  | bdevs => exact hServes
  | create nqn _ _ _ hNew => exact hServes.put fun _ hOther => absurd (hNew.symm.trans hOther) nofun
  | delete nqn => exact absurd rfl (hKeeps nqn)
  | addNS nqn _ _ subsys hFound =>
    exact hServes.extend hFound ⟨rfl, fun _ => List.mem_append_left _, fun _ => id⟩
  | addListener nqn _ subsys hFound =>
    exact hServes.extend hFound ⟨rfl, fun _ => id, fun _ => List.mem_append_left _⟩
  | addHost nqn _ subsys hFound => exact hServes.extend hFound ⟨rfl, fun _ => id, fun _ => id⟩

end

structure Suitable (tgt : SpdkTarget) (a : Access) : Prop where
  serial : a.openAccess.serialNumber = tgt.serialNum
  transType : listenType a.openAccess = tgt.transType
  transAddr : a.openAccess.transAddr = tgt.address
  bdev : bdevOf a = "" ∨ bdevOf a = tgt.bdevName
  aio : ∀ bdevName ∈ a.aio.map AioVolume.bdevName, bdevName ≠ ""

section

variable {tgt : SpdkTarget} {a : Access} {c : Rpc} {node : Node}

theorem Suitable.suits (h : Suitable tgt a) (hRequest : Requests a c) : Suits tgt c := by
  cases c with
  | bdevAioCreate bdevName => exact h.aio bdevName hRequest
  | nvmfCreateSubsystem => exact hRequest.2.trans h.serial
  | nvmfSubsystemAddNS nqn bdevName uuid =>
    obtain ⟨_, rfl⟩ := hRequest
    exact h.bdev
  | nvmfSubsystemAddListener => exact ⟨hRequest.2.1.trans h.transType, hRequest.2.2.trans h.transAddr⟩
  | nvmfDeleteSubsystem => exact hRequest.elim
  | _ => trivial

theorem Requests.keeps (hRequest : Requests a c) (nqn : String) : c ≠ .nvmfDeleteSubsystem nqn := by
  rintro rfl
  exact hRequest

theorem exposeAccess_fits (h : Suitable tgt a) (hSerial : tgt.serialNum ≠ "") (ans : Answers)
    (hFits : node.Fits tgt) : ((exposeAccess a).eval ans.serve node).2.Fits tgt := by
  refine Prog.eval_keeps exposeAccess_all (fun c hRequest node => ?_) hFits
  exact (c.perform_effect _ node).fits (h.suits hRequest) hSerial

theorem exposeAccess_serves (ans : Answers) (hServes : node.Serves tgt) :
    ((exposeAccess a).eval ans.serve node).2.Serves tgt := by
  refine Prog.eval_keeps exposeAccess_all (fun c hRequest node => ?_) hServes
  exact (c.perform_effect _ node).serves hRequest.keeps

end

def Acts (c : Rpc) (node : Node) (out : c.Reply × Node) : Prop := ∃ ans, out = c.perform ans node

section

variable {tgt : SpdkTarget} {info : Target} {node : Node}

def Half (tgt : SpdkTarget) (listeners : List ListenAddress) (node : Node) : Prop :=
  ∃ subsys, node.subsystems.lookup tgt.subsysNQN = some subsys ∧ subsys.serialNum = tgt.serialNum ∧
    (∃ ns ∈ subsys.namespaces, ns.bdevName = tgt.bdevName) ∧ subsys.listenAddresses = listeners

theorem addNS_wp {subsys : Subsystem} (hName : info.nqn = tgt.subsysNQN)
    (hFound : node.subsystems.lookup tgt.subsysNQN = some subsys) (hSerial : subsys.serialNum = tgt.serialNum) :
    (addNS info tgt.bdevName).Wp Acts (fun _ => Half tgt subsys.listenAddresses) node := by
  refine Prog.wp_attempt ?_
  rintro reply node' ⟨ans, hActs⟩ hOk
  rw [hName] at hActs
  rcases node.addNS_cases ans tgt.subsysNQN ⟨tgt.bdevName, info.nsUUID⟩ with hFail | ⟨found, hLookup, _, hDone⟩
  · cases hActs.trans hFail
    cases hOk
  · cases hActs.trans hDone
    obtain rfl := Option.some.inj (hFound.symm.trans hLookup)
    refine ⟨_, node.lookup_put_self _ _, hSerial, ⟨⟨tgt.bdevName, info.nsUUID⟩, ?_, rfl⟩, rfl⟩
    exact List.mem_append_right _ (List.mem_singleton_self _)

theorem addListener_wp (hName : info.nqn = tgt.subsysNQN) (hType : listenType info = tgt.transType)
    (hAddr : info.transAddr = tgt.address) {listeners : List ListenAddress} (hHalf : Half tgt listeners node) :
    (addListener info).Wp Acts (fun resp node => node.Serves { tgt with svcID := resp.svcID }) node := by
  have hPort : (if info.svcID = "" then Prog.fetch .nextID id else pure info.svcID : Service String).Wp Acts
      (fun _ => Half tgt listeners) node := by
    split
    · refine Prog.wp_fetch ?_
      rintro reply node' svcID ⟨ans, hActs⟩ _
      cases hActs
      exact hHalf
    · exact hHalf
  refine hPort.bind fun svcID node hHalf => ?_
  obtain ⟨subsys, hFound, hSerial, hBdev, _⟩ := hHalf
  have hListen : (Prog.attempt (.nvmfSubsystemAddListener info.nqn
      ⟨listenType info, info.addrFam, info.transAddr, svcID⟩) id : Service PUnit).Wp Acts
      (fun _ node => node.Serves { tgt with svcID := svcID }) node := by
    refine Prog.wp_attempt ?_
    rintro reply node' ⟨ans, hActs⟩ hOk
    rw [hName] at hActs
    rcases node.request_cases ans tgt.subsysNQN fun subsys =>
      subsys.addListener ⟨listenType info, info.addrFam, info.transAddr, svcID⟩ with hFail | ⟨found, hLookup, hDone⟩
    · cases hActs.trans hFail
      cases hOk
    · cases hActs.trans hDone
      obtain rfl := Option.some.inj (hFound.symm.trans hLookup)
      refine ⟨_, node.lookup_put_self _ _, hSerial, hBdev, ?_⟩
      exact ⟨_, List.mem_append_right _ (List.mem_singleton_self _), hType, hAddr, rfl⟩
  exact hListen.bind fun _ _ hServes => hServes

theorem svcIDOf_mem {subsys : Subsystem} {transType : String} (svcID : String) (hSome : subsys.listenAddresses ≠ [])
    (hType : ∀ laddr ∈ subsys.listenAddresses, laddr.trType = transType) :
    ∃ laddr ∈ subsys.listenAddresses, laddr.trSvcID = svcIDOf subsys transType svcID := by
  unfold svcIDOf
  generalize subsys.listenAddresses = listeners at hSome hType
  induction listeners generalizing svcID with
  | nil => exact absurd rfl hSome
  | cons laddr rest ih =>
    rw [List.foldl_cons, if_pos (hType laddr List.mem_cons_self)]
    cases rest with
    | nil => exact ⟨laddr, List.mem_cons_self, rfl⟩
    | cons next rest =>
      obtain ⟨found, hFound, hPort⟩ := ih laddr.trSvcID (List.cons_ne_nil next rest)
        fun other hOther => hType other (List.mem_cons_of_mem laddr hOther)
      exact ⟨found, List.mem_cons_of_mem laddr hFound, hPort⟩

theorem findListener_wp {subsys : Subsystem} (hFits : subsys.Fits tgt) (hName : info.nqn = tgt.subsysNQN)
    (hType : listenType info = tgt.transType) (hAddr : info.transAddr = tgt.address)
    (hHalf : Half tgt subsys.listenAddresses node) :
    (findListener subsys info).Wp Acts (fun resp node => node.Serves { tgt with svcID := resp.svcID }) node := by
  unfold findListener
  split
  · exact addListener_wp hName hType hAddr hHalf
  · rename_i hSome
    obtain ⟨current, hFound, hSerial, hBdev, hListeners⟩ := hHalf
    have hTypes : ∀ laddr ∈ subsys.listenAddresses, laddr.trType = listenType info :=
      fun laddr hMem => (hFits.listener laddr hMem).1.trans hType.symm
    obtain ⟨laddr, hMem, hPort⟩ := svcIDOf_mem info.svcID hSome hTypes
    exact ⟨current, hFound, hSerial, hBdev, laddr, hListeners ▸ hMem, (hFits.listener laddr hMem).1,
      (hFits.listener laddr hMem).2, hPort⟩

theorem makeTarget_wp (hName : info.nqn = tgt.subsysNQN) (hSerial : info.serialNumber = tgt.serialNum)
    (hGiven : tgt.serialNum ≠ "") (hType : listenType info = tgt.transType) (hAddr : info.transAddr = tgt.address)
    (hFits : node.Fits tgt) :
    (makeTarget (node.subsystems.lookup info.nqn) info tgt.bdevName).Wp Acts
      (fun resp node => node.Serves { tgt with svcID := resp.svcID }) node := by
  rw [hName]
  cases hFound : node.subsystems.lookup tgt.subsysNQN with
  | some subsys =>
    have hSubsys := hFits.subsystem subsys hFound
    have hNamespace : (Prog.when (subsys.namespaces = []) (addNS info tgt.bdevName)).Wp Acts
        (fun _ => Half tgt subsys.listenAddresses) node := by
      -- A namespace that is there was added on the bdev of the target: no other name would be accepted.
      refine Prog.wp_when (fun _ => addNS_wp hName hFound hSubsys.serial) fun hSome => ?_
      obtain ⟨ns, hNs⟩ := List.exists_mem_of_ne_nil _ hSome
      exact ⟨subsys, hFound, hSubsys.serial, ⟨ns, hNs, hSubsys.bdev ns hNs⟩, rfl⟩
    exact hNamespace.bind fun _ _ hHalf => findListener_wp hSubsys hName hType hAddr hHalf
  | none =>
    have hCreate : ∀ modelNumber, (Prog.attempt
        (.nvmfCreateSubsystem info.nqn cfgAllowAnyHost info.serialNumber modelNumber) id : Service PUnit).Wp Acts
        (fun _ node => ∃ subsys, node.subsystems.lookup tgt.subsysNQN = some subsys ∧
          subsys.serialNum = tgt.serialNum) node := by
      intro modelNumber
      refine Prog.wp_attempt ?_
      rintro reply node' ⟨ans, hActs⟩ hOk
      rw [hName, hSerial] at hActs
      rcases node.createSubsystem_cases ans tgt.subsysNQN (newSubsystem cfgAllowAnyHost tgt.serialNum modelNumber)
        with hFail | ⟨_, hDone⟩
      · cases hActs.trans hFail
        cases hOk
      · cases hActs.trans hDone
        exact ⟨_, node.lookup_put_self _ _, if_neg hGiven⟩
    refine (hCreate _).bind fun _ node hNew => ?_
    obtain ⟨subsys, hNew, hNewSerial⟩ := hNew
    exact (addNS_wp hName hNew hNewSerial).bind fun _ _ hHalf => addListener_wp hName hType hAddr hHalf

end

section

variable {tgt : SpdkTarget} {a : Access} {node : Node}

theorem fits_wp {β : Type} {p : Service β} {post : β → Prop} (hAll : p.All (Requests a) (fun _ => True) post)
    (h : Suitable tgt a) (hGiven : tgt.serialNum ≠ "") (hFits : node.Fits tgt) :
    p.Wp Acts (fun _ node => node.Fits tgt) node := by
  refine Prog.wp_of_all hAll hFits ?_
  rintro c hRequest node reply node' ⟨ans, hOut⟩ hFits
  have hNode : node' = (c.perform ans node).2 := congrArg Prod.snd hOut
  exact hNode ▸ (c.perform_effect ans node).fits (h.suits hRequest) hGiven hFits

theorem serves_wp {β : Type} {p : Service β} {post : β → Prop} (hAll : p.All (Requests a) (fun _ => True) post)
    (hServes : node.Serves tgt) : p.Wp Acts (fun _ node => node.Serves tgt) node := by
  refine Prog.wp_of_all hAll hServes ?_
  rintro c hRequest node reply node' ⟨ans, hOut⟩ hServes
  have hNode : node' = (c.perform ans node).2 := congrArg Prod.snd hOut
  exact hNode ▸ (c.perform_effect ans node).serves hRequest.keeps hServes

theorem createTarget_wp (h : Suitable tgt a) (hGiven : tgt.serialNum ≠ "") (hName : a.openAccess.nqn = tgt.subsysNQN)
    (hBdev : bdevOf a = tgt.bdevName) (hFits : node.Fits tgt) :
    (createTarget (bdevOf a) a.openAccess).Wp Acts
      (fun resp node => node.Serves { tgt with svcID := resp.svcID }) node := by
  have hList : (Prog.fetch .nvmfGetSubsystems id : Service (FiniteMap String Subsystem)).Wp Acts
      (fun list node => list = node.subsystems ∧ node.Fits tgt) node := by
    refine Prog.wp_fetch ?_
    rintro reply node' list ⟨ans, hActs⟩ hSome
    cases hActs
    obtain ⟨_, hList⟩ := Option.ite_none_left_eq_some.mp hSome
    exact ⟨(Option.some.inj hList).symm, hFits⟩
  refine hList.bind ?_
  rintro _ node ⟨rfl, hFits⟩
  split
  · trivial
  · rw [hBdev]
    refine (makeTarget_wp hName h.serial hGiven h.transType h.transAddr hFits).bind fun resp node hServes => ?_
    have hPorts : (Prog.attempt .syncFromTruth id : Service PUnit).All (Requests a) (fun _ => True) fun _ => True :=
      Prog.all_attempt trivial
    exact (serves_wp hPorts hServes).bind fun _ _ hServes => hServes

theorem exposeAccess_wp (h : Suitable tgt a) (hGiven : tgt.serialNum ≠ "") (hName : a.openAccess.nqn = tgt.subsysNQN)
    (hBdev : bdevOf a = tgt.bdevName) (hFits : node.Fits tgt) :
    (exposeAccess a).Wp Acts (fun resp node => node.Serves { tgt with svcID := resp.svcID }) node := by
  refine (fits_wp createAioBdev_all h hGiven hFits).bind fun _ node hFits => ?_
  refine (fits_wp (Prog.all_when fun _ => Prog.all_attempt (by trivial)) h hGiven hFits).bind fun _ node hFits => ?_
  refine ((createTarget_wp h hGiven hName hBdev hFits).and_all createTarget_all).bind ?_
  rintro resp node ⟨hServes, hResp⟩
  refine (serves_wp (a := a) (Prog.all_fetch (by trivial)) hServes).bind fun subsys node hServes => ?_
  rw [hResp]
  exact (serves_wp (addHosts_all _ fun _ => id) hServes).bind fun _ _ hServes => hServes

theorem exposeAccess_served (h : Suitable tgt a) (hGiven : tgt.serialNum ≠ "")
    (hName : a.openAccess.nqn = tgt.subsysNQN) (hBdev : bdevOf a = tgt.bdevName) (hFits : node.Fits tgt)
    (ans : Answers) {resp : Target} (hDone : ((exposeAccess a).eval ans.serve node).1 = some resp) :
    ((exposeAccess a).eval ans.serve node).2.Serves { tgt with svcID := resp.svcID } :=
  (exposeAccess_wp h hGiven hName hBdev hFits).eval (fun c _ => ⟨ans.rpc c, rfl⟩) hDone

end

end Liteio.Nvmf
