import Liteio.Agent.Access

/-! # The hosts that may connect to a volume

A history of syncs of a volume on its node, with another host between any two of
them. `ExposeAccess` adds the host that is annotated on the pool of the current
host node and never takes one away, so that a host stays allowed after the volume
has moved to another.
-/

namespace Liteio.Nvmf

open VolumeSyncer Worker

def Node.hosts (node : Node) (nqn : String) : List String :=
  ((node.subsystems.lookup nqn).map Subsystem.hosts).getD []

structure Sync where
  vol : AntstorVolume
  answers : Call → Answers := fun _ => {}

def Sync.currentHost (s : Sync) : Option String :=
  match s.vol.spec.hostNode with
  | some hostNode =>
    if hostNode.id ≠ "" then (s.answers (.getStoragePool hostNode.id)).pool.annotationAt annotationHostNQN
    else none
  | none => none

def syncNode (svc : PoolService) (node : Node) (s : Sync) : Node :=
  ((agent svc).exec s.answers (syncOneVolume svc s.vol) false (some s.vol) node).2

def exposedTarget : Sigma Reply → Option String
  | ⟨.exposeAccess access, some _⟩ => some access.openAccess.nqn
  | _ => none

def exposedBy (svc : PoolService) (node : Node) (s : Sync) : List String :=
  ((agent svc).trace s.answers (syncOneVolume svc s.vol) false node).filterMap exposedTarget

/-- A subsystem that was exposed allows only the current host. -/
def AllowsCurrentHost (svc : PoolService) (node : Node) (s : Sync) : Prop :=
  ∀ nqn ∈ exposedBy svc node s, ∀ host ∈ (syncNode svc node s).hosts nqn, some host = s.currentHost

/-- The names that a history of syncs has exposed, each with the host that was
annotated then. -/
def exposures (svc : PoolService) : Node → List Sync → List (String × Option String)
  | _, [] => []
  | node, s :: syncs =>
    (exposedBy svc node s).map (·, s.currentHost) ++ exposures svc (syncNode svc node s) syncs

/-- A name is not exposed for another host after it was exposed for one. -/
def SameHost (first second : String × Option String) : Prop :=
  first.1 = second.1 → first.2 = none ∨ first.2 = second.2

instance (first second : String × Option String) : Decidable (SameHost first second) :=
  inferInstanceAs (Decidable (_ → _))

def FewerHosts (node node' : Node) : Prop := ∀ nqn, ∀ item ∈ node'.hosts nqn, item ∈ node.hosts nqn

theorem FewerHosts.trans {first second third : Node} (h : FewerHosts first second)
    (h' : FewerHosts second third) : FewerHosts first third :=
  fun nqn item hItem => h nqn item (h' nqn item hItem)

theorem FewerHosts.put {node : Node} {nqn : String} {subsys : Subsystem}
    (h : ∀ item ∈ subsys.hosts, item ∈ node.hosts nqn) : FewerHosts node (node.put nqn subsys) := by
  intro other item hItem
  rw [Node.hosts, Node.put, FiniteMap.lookup_insert_eq] at hItem
  split at hItem
  · rename_i hName
    exact hName ▸ h item hItem
  · exact hItem

theorem Node.hosts_of_lookup {node : Node} {nqn : String} {subsys : Subsystem}
    (h : node.subsystems.lookup nqn = some subsys) : node.hosts nqn = subsys.hosts := by
  rw [hosts, h]
  rfl

theorem Node.hosts_erase {node : Node} {nqn other item : String}
    (h : item ∈ Node.hosts { node with subsystems := node.subsystems.erase nqn } other) :
    item ∈ node.hosts other := by
  by_cases hName : other = nqn
  · subst hName
    rw [hosts, Finmap.lookup_erase] at h
    cases h
  · rwa [hosts, Finmap.lookup_erase_ne hName] at h

def AddsNoHost : Rpc → Prop
  | .nvmfSubsystemAddHost _ _ => False
  | _ => True

theorem Rpc.Effect.fewerHosts {node node' : Node} {c : Rpc} (h : Rpc.Effect node c node') (hHost : AddsNoHost c) :
    FewerHosts node node' := by
  cases h with
  | idle => exact fun _ _ => id
  | bdevs => exact fun _ _ => id
  | create => exact .put fun item hItem => absurd hItem List.not_mem_nil
  | delete nqn => exact fun _ _ => Node.hosts_erase
  | addNS nqn _ _ subsys hFound => exact .put fun item hItem => Node.hosts_of_lookup hFound ▸ hItem
  | addListener nqn _ subsys hFound => exact .put fun item hItem => Node.hosts_of_lookup hFound ▸ hItem
  | addHost => exact hHost.elim

theorem eval_fewerHosts {β : Type} {p : Service β} {post : β → Prop}
    (h : p.All AddsNoHost (fun _ => True) post) (ans : Answers) (node : Node) :
    FewerHosts node (p.eval ans.serve node).2 :=
  Prog.eval_step h (fun _ _ _ => id) (fun _ _ _ => .trans)
    (fun c hCall node => (c.perform_effect (ans.rpc c) node).fewerHosts hCall) node

def Grants (nqn : String) (host : Option String) {β : Type} (p : Service β) : Prop :=
  ∀ (ans : Answers) (node : Node) (other : String), ∀ item ∈ (p.eval ans.serve node).2.hosts other,
    item ∈ node.hosts other ∨ other = nqn ∧ some item = host ∧ (p.eval ans.serve node).1.isSome

theorem Grants.after {nqn : String} {host : Option String} {β γ : Type} {p : Service β} {f : β → Service γ}
    {mid : β → Prop} (h : p.All AddsNoHost (fun _ => True) mid) (hNext : ∀ b, mid b → Grants nqn host (f b)) :
    Grants nqn host (p.bind f) := by
  intro ans node other item hItem
  have hFewer := eval_fewerHosts h ans node other item
  rcases Prog.eval_bind_cases h ans.serve f node with hStop | ⟨b, hb, hGo⟩
  · rw [hStop] at hItem
    exact .inl (hFewer hItem)
  · rw [hGo] at hItem ⊢
    exact (hNext b hb ans _ other item hItem).imp_left hFewer

theorem addHosts_grants (nqn : String) (known : List String) (host : Option String) (result : Target) :
    Grants nqn host ((addHosts nqn known host.toList).bind fun _ => .done result) := by
  cases host with
  | none => exact fun _ _ _ _ hItem => .inl hItem
  | some added =>
    by_cases hKnown : added ∈ known
    · simp only [Option.toList_some, addHosts, Prog.when, hKnown, not_true_eq_false, if_false]
      exact fun _ _ _ _ hItem => .inl hItem
    · intro ans node other item hItem
      have hRun : ((addHosts nqn known [added]).bind fun _ => .done result).eval ans.serve node =
          let out := node.request (ans.rpc (.nvmfSubsystemAddHost nqn added)) nqn fun subsys => subsys.addHost added
          (if out.1 then some result else none, out.2) := by
        simp only [addHosts, Prog.when, hKnown, not_false_eq_true, if_true]
        change Prog.eval ans.serve (Prog.bind (Prog.bind (if (Node.request _ _ _ _).1 then _ else _) _) _)
          (Node.request _ _ _ _).2 = _
        cases (node.request (ans.rpc (.nvmfSubsystemAddHost nqn added)) nqn fun subsys => subsys.addHost added).1 <;> rfl
      rw [Option.toList_some, hRun] at hItem ⊢
      rcases node.request_cases (ans.rpc (.nvmfSubsystemAddHost nqn added)) nqn (·.addHost added) with
        hFails | ⟨subsys, hFound, hAdded⟩
      · rw [hFails] at hItem
        exact .inl hItem
      · rw [hAdded] at hItem ⊢
        simp only [Node.hosts, Node.put, FiniteMap.lookup_insert_eq] at hItem
        split at hItem
        · rename_i hName
          rcases List.mem_append.mp hItem with hOld | hNew
          · exact .inl (by rw [hName, Node.hosts_of_lookup hFound]; exact hOld)
          · exact .inr ⟨hName, congrArg some (List.mem_singleton.mp hNew), rfl⟩
        · exact .inl hItem

theorem exposeAccess_grants {a : Access} {host : Option String} (h : a.allowHostNQN = host.toList) :
    Grants a.openAccess.nqn host (exposeAccess a) := by
  have hQuiet : ∀ c, Requests { a with allowHostNQN := [] } c → AddsNoHost c := by
    intro c hRequest
    cases c with
    | nvmfSubsystemAddHost nqn hostNQN => exact absurd hRequest.2 List.not_mem_nil
    | _ => trivial
  have hAio : (createAioBdev a.aio).All AddsNoHost (fun _ => True) fun _ => True :=
    (createAioBdev_all (a := { a with allowHostNQN := [] })).mono hQuiet (fun _ => id) fun _ => id
  have hTarget : (createTarget (bdevOf a) a.openAccess).All AddsNoHost (fun _ => True)
      fun resp => resp.nqn = a.openAccess.nqn :=
    (createTarget_all (a := { a with allowHostNQN := [] })).mono hQuiet (fun _ => id) fun _ => id
  refine .after hAio fun _ _ => .after (Prog.all_when fun _ => Prog.all_attempt trivial) fun _ _ => ?_
  refine .after hTarget fun resp hResp => .after (Prog.all_fetch trivial) fun subsys _ => ?_
  rw [hResp, h]
  exact addHosts_grants _ _ _ _

theorem removeAccess_addsNoHost (a : Access) :
    (removeAccess a).All AddsNoHost (fun _ => True) fun _ => True := by
  have hDelete : (deleteTarget a.openAccess.nqn).All AddsNoHost (fun _ => True) fun _ => True := by
    refine (Prog.all_fetch trivial).bind fun list _ => Prog.all_when fun _ => ⟨trivial, fun deleted => ?_⟩
    refine ⟨trivial, fun _ => ?_⟩
    split <;> trivial
  have hAio : (deleteAioBdev a.aio).All AddsNoHost (fun _ => True) fun _ => True := by
    cases a.aio with
    | none => trivial
    | some aio => exact Prog.all_attempt trivial
  exact (Prog.all_when fun _ => hDelete).bind fun _ _ =>
    (Prog.all_when fun _ => Prog.all_attempt trivial).bind fun _ _ => hAio

def Exposes (s : Sync) : Call → Prop
  | .exposeAccess a => a.allowHostNQN = s.currentHost.toList
  | _ => True

def Allows (s : Sync) (entries : List (Sigma Reply)) (node node' : Node) : Prop :=
  ∀ nqn, ∀ item ∈ node'.hosts nqn,
    item ∈ node.hosts nqn ∨ nqn ∈ entries.filterMap exposedTarget ∧ some item = s.currentHost

theorem FewerHosts.allows {s : Sync} {node node' : Node} (h : FewerHosts node node')
    (entries : List (Sigma Reply)) : Allows s entries node node' :=
  fun nqn item hItem => .inl (h nqn item hItem)

theorem Allows.cons {s : Sync} {entry : Sigma Reply} {entries : List (Sigma Reply)} {first second third : Node}
    (h : Allows s [entry] first second) (h' : Allows s entries second third) :
    Allows s (entry :: entries) first third := by
  intro nqn item hItem
  rw [← List.singleton_append, List.filterMap_append, List.mem_append]
  rcases h' nqn item hItem with hSecond | ⟨hExposed, hHost⟩
  · exact (h nqn item hSecond).imp_right fun hNew => ⟨.inl hNew.1, hNew.2⟩
  · exact .inr ⟨.inr hExposed, hHost⟩

theorem Exposes.allows {s : Sync} {svc : PoolService} {c : Call} (h : Exposes s c) (ans : Answers) (node : Node) :
    Allows s [⟨c, (perform svc c ans node).1⟩] node (perform svc c ans node).2 := by
  cases c with
  | exposeAccess a =>
    intro nqn item hItem
    refine (exposeAccess_grants h ans node nqn item hItem).imp_right ?_
    rintro ⟨rfl, hHost, hSome⟩
    obtain ⟨target, hTarget⟩ := Option.isSome_iff_exists.mp hSome
    exact ⟨by simp [perform, hTarget, exposedTarget], hHost⟩
  | removeAccess a => exact (eval_fewerHosts (removeAccess_addsNoHost a) ans node).allows _
  | createVolume volName | createLvolClone _ _ volName =>
    refine FewerHosts.allows ?_ _
    simp only [perform]
    split
    · exact fun _ _ => id
    · unfold Node.addLvol
      split <;> exact fun _ _ => id
  | _ => exact FewerHosts.allows (fun _ _ => id) _

def ReadsPool (s : Sync) : (c : Call) → Reply c → Prop
  | .getStoragePool name, reply => ∀ pool, reply = some pool → pool = (s.answers (.getStoragePool name)).pool
  | _, _ => True

theorem readsPool_perform (s : Sync) (svc : PoolService) (c : Call) (node : Node) :
    ReadsPool s c ((agent svc).perform c (s.answers c) node).1 := by
  cases c with
  | getStoragePool name =>
    intro pool hPool
    change (if (s.answers (.getStoragePool name)).fails then none
      else some (s.answers (.getStoragePool name)).pool) = some pool at hPool
    split at hPool
    · cases hPool
    · exact (Option.some.inj hPool).symm
  | _ => trivial

section

variable {s : Sync} {svc : PoolService} {vol : AntstorVolume}

theorem allowHosts_allIf : (allowHosts s.vol.spec.hostNode).AllIf (ReadsPool s) (Exposes s)
    fun hosts => hosts = s.currentHost.toList := by
  unfold Sync.currentHost
  cases hHost : s.vol.spec.hostNode with
  | none => exact rfl
  | some hostNode =>
    by_cases hId : hostNode.id = ""
    · simp only [allowHosts, hId, ne_eq, not_true_eq_false, if_false]
      exact rfl
    · have hPool : (Prog.fetch (.getStoragePool hostNode.id) id : Pass StoragePool).AllIf (ReadsPool s)
          (Exposes s) fun pool => pool = (s.answers (.getStoragePool hostNode.id)).pool :=
        Prog.allIf_fetch trivial fun reply pool hReply hSome => hReply pool hSome
      simp only [allowHosts, ne_eq, hId, not_false_eq_true, if_true]
      refine hPool.bind ?_
      rintro _ rfl
      exact rfl

theorem applyAllowHosts_allIf (h : Alike s.vol vol) :
    (applyAllowHosts vol).AllIf (ReadsPool s) (Exposes s) fun _ => True := by
  unfold applyAllowHosts
  rw [h.spec]
  split
  · exact allowHosts_allIf.bind fun hosts hHosts => ⟨hHosts, fun _ _ => trivial⟩
  · trivial

theorem expose_allIf (h : Alike s.vol vol) (tgt : SpdkTarget) (aio : Option AioVolume) (lvol : Option SpdkLVolume) :
    (expose vol tgt aio lvol).AllIf (ReadsPool s) (Exposes s) fun _ => True := by
  unfold expose
  rw [h.spec]
  refine allowHosts_allIf.bind fun hosts hHosts => ?_
  exact Prog.AllIf.bind (Prog.allIf_fetch hHosts fun _ _ _ _ => trivial) fun _ _ => trivial

theorem openAccess_allIf (h : Alike s.vol vol) (isLocal : Bool) (nodeIP : String) :
    (openAccess vol isLocal nodeIP).AllIf (ReadsPool s) (Exposes s) fun _ => True := by
  unfold openAccess
  split
  · split
    · trivial
    · split
      · split
        · trivial
        · exact expose_allIf h _ _ _
      · trivial
  · split
    · exact expose_allIf h _ _ _
    · trivial
  · split
    · exact expose_allIf h _ _ _
    · trivial

theorem createOpenAccess_allIf (h : Alike s.vol vol) :
    (createOpenAccess svc vol).AllIf (ReadsPool s) (Exposes s) fun _ => True := by
  unfold createOpenAccess
  split
  · trivial
  · dsimp only
    split
    · trivial
    · split
      · trivial
      · split
        · trivial
        · exact openAccess_allIf h _ _

theorem Exposes.of_quiet {c : Call} (h : Quiet c) : Exposes s c := by
  cases c <;> first | exact h.elim | trivial

theorem allIf_of_quiet {β : Type} {p : Pass β} {writes : Write → Prop} {post : β → Prop}
    (h : p.All Quiet writes post) : p.AllIf (ReadsPool s) (Exposes s) post :=
  (h.mono (fun _ => .of_quiet) (fun _ => id) fun _ => id).allIf

theorem bringUp_allIf (h : Alike s.vol vol) :
    (bringUp svc vol).AllIf (ReadsPool s) (Exposes s) fun _ => True := by
  unfold bringUp
  split
  · trivial
  · split
    · trivial
    · refine (allIf_of_quiet ((createVolume_all svc vol).mono (fun _ => Silent.quiet) (fun _ => id)
        fun _ => id)).bind ?_
      rintro _ ⟨-, rfl⟩
      exact (createOpenAccess_allIf h).bind fun _ _ => trivial

theorem handleDeletion_all : (handleDeletion svc vol).All (Exposes s) (fun _ => True) fun _ => True := by
  have hRemove : (removeTarget vol).All (Exposes s) (fun _ => True) fun _ => True := by
    unfold removeTarget
    split
    · refine (Prog.all_attempt trivial).bind fun _ _ => ?_
      split <;> trivial
    · split <;> trivial
  refine hRemove.bind fun _ _ => ?_
  split
  · exact (deleteLogicVolume_all svc vol).mono (fun _ => .of_quiet) (fun _ _ => trivial) fun _ => id
  · trivial

theorem syncOneVolume_allIf (s : Sync) (svc : PoolService) :
    (syncOneVolume svc s.vol).AllIf (ReadsPool s) (Exposes s) fun _ => True := by
  unfold syncOneVolume
  split
  · trivial
  split
  · exact handleDeletion_all.allIf
  · refine (allIf_of_quiet (expandVolume_all s.vol)).bind fun vol hVol => ?_
    have hApply : (applyVolume vol).AllIf (ReadsPool s) (Exposes s) (Alike s.vol) := by
      refine (allIf_of_quiet (applyAllocatedSize_all.mono (fun _ => Silent.quiet) (fun _ => id)
        fun _ => Alike.of_allocated)).bind fun applied hApplied => ?_
      exact (applyAllowHosts_allIf (hVol.trans hApplied)).bind fun _ _ => hVol.trans hApplied
    exact hApply.bind fun applied hApplied => bringUp_allIf hApplied

end

theorem syncNode_allows (svc : PoolService) (node : Node) (s : Sync) (nqn : String) :
    ∀ item ∈ (syncNode svc node s).hosts nqn,
      item ∈ node.hosts nqn ∨ nqn ∈ exposedBy svc node s ∧ some item = s.currentHost :=
  Model.exec_trace (r := Allows s) (syncOneVolume_allIf s svc) (readsPool_perform s svc)
    (fun _ => FewerHosts.allows (fun _ _ => id) _) (fun _ _ _ _ _ => .cons)
    (fun c hCall node => hCall.allows (s.answers c) node) false (some s.vol) node nqn

theorem history_of_granted {svc : PoolService} {node : Node} {syncs : List Sync}
    {granted : List (String × Option String)}
    (hGranted : ∀ nqn, ∀ item ∈ node.hosts nqn, (nqn, some item) ∈ granted)
    (h : (granted ++ exposures svc node syncs).Pairwise SameHost) :
    Runs.Guarded (syncNode svc) (AllowsCurrentHost svc) node syncs := by
  induction syncs generalizing node granted with
  | nil => trivial
  | cons s syncs ih =>
    rw [exposures, ← List.append_assoc] at h
    refine ⟨?_, ih (fun nqn item hItem => ?_) h⟩
    · intro nqn hExposed host hHost
      rcases syncNode_allows svc node s nqn host hHost with hBefore | ⟨-, hCurrent⟩
      · have hNow : (nqn, s.currentHost) ∈ (exposedBy svc node s).map (·, s.currentHost) :=
          List.mem_map_of_mem hExposed
        rcases (List.pairwise_append.mp (List.pairwise_append.mp h).1).2.2 _ (hGranted nqn host hBefore) _ hNow rfl
          with hNone | hSame
        · cases hNone
        · exact hSame
      · exact hCurrent
    · rw [List.mem_append]
      rcases syncNode_allows svc node s nqn item hItem with hBefore | ⟨hExposed, hCurrent⟩
      · exact .inl (hGranted nqn item hBefore)
      · rw [hCurrent]
        exact .inr (List.mem_map_of_mem hExposed)

/-- Where no name is exposed for two hosts, each sync that exposes a subsystem
leaves only the current host. -/
theorem history_allowsCurrentHost {svc : PoolService} {node : Node} {syncs : List Sync}
    (hStart : ∀ nqn, node.hosts nqn = []) (h : (exposures svc node syncs).Pairwise SameHost) :
    Runs.Guarded (syncNode svc) (AllowsCurrentHost svc) node syncs :=
  @history_of_granted svc node syncs [] (fun nqn item hItem => by rw [hStart nqn] at hItem; cases hItem) h

def remoteVolume (hostNode : String) : AntstorVolume where
  name := "v"
  finalizers := [inStateFinalizer, logicVolumeFinalizer, spdkTargetFinalizer]
  spec := {
    uuid := "u"
    type := .spdkLVol
    targetNodeId := "n"
    hostNode := some { id := hostNode }
    spdkLvol := some { lvsName := "lvs", name := "v" }
    spdkTarget := some {
      bdevName := "lvs/v"
      subsysNQN := "nqn.v"
      serialNum := "u"
      transType := "TCP"
      address := "10.0.0.1"
      svcID := "4510" } }
  status := { status := .ready }

def annotatedPool (name : String) : StoragePool :=
  { name := name, annotations := some (Finmap.singleton annotationHostNQN ("nqn." ++ name)) }

def syncWith (hostNode : String) : Sync where
  vol := remoteVolume hostNode
  answers
    | .getStoragePool name => { pool := annotatedPool name }
    | _ => {}

def servingNode : Node where
  bdevs := ["lvs/v"]
  subsystems := Finmap.singleton "nqn.v" {
    serialNum := "u"
    namespaces := [{ bdevName := "lvs/v" }]
    listenAddresses := [{ trType := "TCP", adrFam := "IPv4", trAddr := "10.0.0.1", trSvcID := "4510" }] }

theorem sameHost_allowed :
    Runs.Guarded (syncNode {}) (AllowsCurrentHost {}) servingNode [syncWith "a", syncWith "a"] :=
  history_allowsCurrentHost (by
    intro nqn
    rw [Node.hosts]
    rcases eq_or_ne nqn "nqn.v" with rfl | hOther
    · rfl
    · rw [servingNode, Finmap.lookup_eq_none.mpr fun hMem => hOther (Finmap.mem_singleton _ _ _ |>.mp hMem)]
      rfl) (by decide)

/-- The host of the first sync is still allowed after the second. -/
theorem movedHost_allowed :
    ¬ Runs.Guarded (syncNode {}) (AllowsCurrentHost {}) servingNode [syncWith "a", syncWith "b"] := by
  have hFormer : ∃ nqn ∈ exposedBy {} (syncNode {} servingNode (syncWith "a")) (syncWith "b"),
      "nqn.a" ∈ (syncNode {} (syncNode {} servingNode (syncWith "a")) (syncWith "b")).hosts nqn := by
    decide
  have hCurrent : some "nqn.a" ≠ (syncWith "b").currentHost := by
    decide
  rintro ⟨_, hSecond, _⟩
  obtain ⟨nqn, hExposed, hHost⟩ := hFormer
  exact hCurrent (hSecond nqn hExposed "nqn.a" hHost)

end Liteio.Nvmf
