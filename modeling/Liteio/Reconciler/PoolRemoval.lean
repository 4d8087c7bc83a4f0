import Liteio.Reconciler.PoolPass

/-! # A pass over a pool against the removal of its node

`HandleReconcile` of the pool reconciler step by step, with `RemoveStoragePool`
of the same pool between any two of its steps. The pool is stored under the node
ID in its spec and looked up by the name of the object. The heartbeat check goes
on with a node it has not found and with a lease that was never renewed, and
dereferences nil in both cases.
-/

namespace Liteio.PoolReconciler

structure Lease where
  renewTime : Option ℤ
  deriving DecidableEq

inductive Phase where
  | validate
  | save
  | reserve
  | lease
  | check (sinceLastHB : ℤ)
  | offline
  | ended (how : Ended)
  deriving DecidableEq

def Phase.isEarly : Phase → Bool
  | .validate | .save => true
  | _ => false

def Phase.isLate : Phase → Bool
  | .offline | .ended _ => true
  | _ => false

def Phase.rank : Phase → ℕ
  | .validate => 6
  | .save => 5
  | .reserve => 4
  | .lease => 3
  | .check _ => 2
  | .offline => 1
  | .ended _ => 0

structure Pass where
  stored : Stored
  phase : Phase := .validate

inductive Move where
  | pass
  | removeStoragePool
  deriving DecidableEq

structure Work where
  cfg : Settings
  sp : StoragePool
  lease : Except String Lease
  clock : ℤ := 0
  seen : Observed := { sinceLastHB := none }

namespace Work

variable (w : Work)

def save (p : Pass) : Pass :=
  let s := p.stored.state.setStoragePool w.cfg.kube w.sp
  if inStateFinalizer ∈ w.sp.finalizers then { stored := { p.stored with state := s }, phase := .reserve }
  else
    let new := { w.sp with finalizers := w.sp.finalizers ++ [inStateFinalizer] }
    { stored := { p.stored.put new with state := s }, phase := .ended .broke }

def getLease : Phase :=
  match w.lease with
  | .error _ => .ended .failed
  | .ok lease =>
    match lease.renewTime with
    | none => .ended .panicked
    | some renewTime => .check (w.clock - renewTime)

def checkHeartbeat (p : Pass) (sinceLastHB : ℤ) : Pass :=
  match PoolReconciler.checkHeartbeat p.stored w.sp.name (some sinceLastHB) with
  | (st, .done) => { stored := st, phase := .offline }
  | (st, ended) => { stored := st, phase := .ended ended }

def next (p : Pass) : Pass :=
  match p.phase with
  | .validate =>
    match validateAndMutate w.cfg.kube w.sp with
    | some (new, ended) => { stored := p.stored.put new, phase := .ended ended }
    | none => { p with phase := .save }
  | .save => w.save p
  | .reserve =>
    let s := p.stored.state.onNode w.sp.name (addReservations w.cfg.scheduler)
    { stored := { p.stored with state := s }, phase := .lease }
  | .lease => { p with phase := w.getLease }
  | .check sinceLastHB => w.checkHeartbeat p sinceLastHB
  | .offline => { stored := processNodeOffline w.seen w.sp p.stored, phase := .ended .done }
  | .ended _ => p

def step (p : Pass) : Move → Pass
  | .pass => w.next p
  | .removeStoragePool =>
    { p with stored := { p.stored with state := p.stored.state.removeStoragePool w.sp.name } }

def HasNode (s : State) : Prop := (s.nodeMap.lookup w.sp.name).isSome = true

def OwnName : Prop := w.sp.spec.nodeInfo.id = w.sp.name

def Checks : Prop :=
  validateAndMutate w.cfg.kube w.sp = none ∧ inStateFinalizer ∈ w.sp.finalizers ∧ w.lease.toOption.isSome = true

def Renewed : Prop := ∀ lease ∈ w.lease.toOption, lease.renewTime.isSome = true

/-- The node is removed before the pool is stored under its name, or after the
last time it is looked up. -/
def KeepsNode (p : Pass) : Move → Prop
  | .pass => True
  | .removeStoragePool => w.Checks → p.phase.isLate = true ∨ p.phase.isEarly = true ∧ w.OwnName

def Reached (p : Pass) : Prop :=
  match p.phase with
  | .validate | .ended _ => True
  | .save => validateAndMutate w.cfg.kube w.sp = none
  | .reserve | .lease => validateAndMutate w.cfg.kube w.sp = none ∧ inStateFinalizer ∈ w.sp.finalizers
  | .check _ | .offline => w.Checks ∧ w.Renewed

def Sound (p : Pass) : Prop :=
  match p.phase with
  | .validate | .save => w.Checks → w.Renewed ∧ (w.OwnName ∨ w.HasNode p.stored.state)
  | .reserve | .lease => w.Checks → w.Renewed ∧ w.HasNode p.stored.state
  | .check _ => w.HasNode p.stored.state
  | .offline => True
  | .ended how => how ≠ .panicked

end Work

theorem validateAndMutate_not_panicked {K : Kube} {sp : StoragePool} {out : StoragePool × Ended}
    (h : validateAndMutate K sp = some out) : out.2 ≠ .panicked := by
  unfold validateAndMutate at h
  split at h
  · cases h
    exact nofun
  · split at h
    · cases h
      exact nofun
    · split at h
      · cases h
        exact nofun
      · cases h

theorem heartbeatStep_ended {test : PoolStatus → Bool} {newStatus : PoolStatus}
    {out : Stored × StoragePool × Ended} (h : out.2.2 ≠ .panicked) :
    (heartbeatStep test newStatus out).2.2 ≠ .panicked := by
  unfold heartbeatStep Stored.updateStoragePoolStatus
  split
  · split <;> exact nofun
  · exact h

theorem checkHeartbeat_panicked_iff {st : Stored} {name : String} {age : ℤ} :
    (checkHeartbeat st name (some age)).2 = .panicked ↔ st.state.nodeMap.lookup name = none := by
  unfold checkHeartbeat
  dsimp only
  cases hNode : st.state.nodeMap.lookup name with
  | none => simp
  | some node =>
    have hEnded : (heartbeatUpdates (nodeExpireDuration < age) (nodeOfflineExpireDuration < age) st
        node.pool).2.2 ≠ .panicked :=
      heartbeatStep_ended (heartbeatStep_ended (heartbeatStep_ended nofun))
    simpa using hEnded

namespace Work

variable {w : Work} {p : Pass}

theorem hasNode_setStoragePool {s : State} :
    w.HasNode (s.setStoragePool w.cfg.kube w.sp) ↔ w.OwnName ∨ w.HasNode s := by
  rw [HasNode, State.setStoragePool_lookup, OwnName]
  split
  · rename_i hName
    simp [hName]
  · rename_i hName
    simp [HasNode, Ne.symm hName]

theorem hasNode_onNode {s : State} {f : Node → Node} : w.HasNode (s.onNode w.sp.name f) ↔ w.HasNode s := by
  rw [HasNode, State.onNode_lookup, if_pos rfl, Option.isSome_map, HasNode]

theorem not_hasNode_removeStoragePool (s : State) : ¬ w.HasNode (s.removeStoragePool w.sp.name) := by
  rw [HasNode, State.removeStoragePool, Finmap.lookup_erase]
  exact Bool.false_ne_true

theorem checks_of_lease (hValid : validateAndMutate w.cfg.kube w.sp = none)
    (hFinalizer : inStateFinalizer ∈ w.sp.finalizers) {lease : Lease} (hLease : w.lease = .ok lease) : w.Checks :=
  ⟨hValid, hFinalizer, by rw [hLease]; rfl⟩

theorem renewed_iff {lease : Lease} (hLease : w.lease = .ok lease) :
    w.Renewed ↔ lease.renewTime.isSome = true := by
  rw [Renewed, hLease]
  simp [Except.toOption]

theorem getLease_cases (w : Work) :
    (∃ err, w.lease = .error err ∧ w.getLease = .ended .failed) ∨
    ∃ lease, w.lease = .ok lease ∧ (¬ w.Renewed ∧ w.getLease = .ended .panicked ∨
      w.Renewed ∧ ∃ age, w.getLease = .check age) := by
  cases hLease : w.lease with
  | error err => exact .inl ⟨err, rfl, by rw [getLease, hLease]⟩
  | ok lease =>
    refine .inr ⟨lease, rfl, ?_⟩
    rw [renewed_iff hLease, getLease, hLease]
    cases hRenew : lease.renewTime with
    | none => exact .inl ⟨Bool.false_ne_true, by dsimp only; rw [hRenew]⟩
    | some renewTime => exact .inr ⟨rfl, w.clock - renewTime, by dsimp only; rw [hRenew]⟩

theorem checkHeartbeat_cases (p : Pass) (age : ℤ) :
    (w.checkHeartbeat p age).phase = .offline ∧ w.HasNode p.stored.state ∨
      ∃ how, (w.checkHeartbeat p age).phase = .ended how ∧ (how ≠ .panicked ↔ w.HasNode p.stored.state) := by
  have hPanicked := @checkHeartbeat_panicked_iff p.stored w.sp.name age
  rw [checkHeartbeat, HasNode, Option.isSome_iff_ne_none]
  cases hCheck : PoolReconciler.checkHeartbeat p.stored w.sp.name (some age) with
  | mk st how =>
    rw [hCheck] at hPanicked
    cases how with
    | done => exact .inl ⟨rfl, fun hNone => nomatch hPanicked.mpr hNone⟩
    | broke | failed | panicked => exact .inr ⟨_, rfl, not_congr hPanicked⟩

theorem reached_next (h : w.Reached p) : w.Reached (w.next p) := by
  obtain ⟨st, phase⟩ := p
  cases phase with
  | validate =>
    rw [next]
    dsimp only
    split
    · trivial
    · assumption
  | save =>
    rw [next]
    dsimp only [save]
    split
    · exact ⟨h, by assumption⟩
    · trivial
  | reserve => exact h
  | lease =>
    obtain ⟨hValid, hFinalizer⟩ := h
    rw [next, Reached]
    dsimp only
    obtain ⟨err, -, hPhase⟩ | ⟨lease, hLease, ⟨-, hPhase⟩ | ⟨hRenewed, age, hPhase⟩⟩ := getLease_cases w
    · rw [hPhase]
      trivial
    · rw [hPhase]
      trivial
    · rw [hPhase]
      exact ⟨checks_of_lease hValid hFinalizer hLease, hRenewed⟩
  | check age =>
    rw [next, Reached]
    dsimp only
    obtain ⟨hPhase, -⟩ | ⟨how, hPhase, -⟩ := @checkHeartbeat_cases w ⟨st, .check age⟩ age
    · rw [hPhase]
      exact h
    · rw [hPhase]
      trivial
  | offline => trivial
  | ended how => trivial

theorem sound_next_iff (h : w.Reached p) : w.Sound (w.next p) ↔ w.Sound p := by
  obtain ⟨st, phase⟩ := p
  cases phase with
  | validate =>
    rw [next]
    dsimp only
    cases hValid : validateAndMutate w.cfg.kube w.sp with
    | none => rfl
    | some out =>
      refine iff_of_true (validateAndMutate_not_panicked hValid) fun hChecks => ?_
      rw [hChecks.1] at hValid
      cases hValid
  | save =>
    rw [next]
    dsimp only [save]
    split
    · dsimp only [Sound]
      rw [hasNode_setStoragePool]
    · rename_i hFinalizer
      exact iff_of_true nofun fun hChecks => absurd hChecks.2.1 hFinalizer
  | reserve =>
    rw [next]
    dsimp only [Sound]
    rw [hasNode_onNode]
  | lease =>
    obtain ⟨hValid, hFinalizer⟩ := h
    rw [next]
    dsimp only [Sound]
    obtain ⟨err, hLease, hPhase⟩ | ⟨lease, hLease, ⟨hRenewed, hPhase⟩ | ⟨hRenewed, age, hPhase⟩⟩ := getLease_cases w
    · rw [hPhase]
      refine iff_of_true nofun fun hChecks => ?_
      have hOk := hChecks.2.2
      rw [hLease] at hOk
      cases hOk
    · rw [hPhase]
      have hChecks := checks_of_lease hValid hFinalizer hLease
      exact iff_of_false (fun h => h rfl) fun h => hRenewed (h hChecks).1
    · rw [hPhase]
      have hChecks := checks_of_lease hValid hFinalizer hLease
      simp [hChecks, hRenewed]
  | check age =>
    rw [next, Sound]
    dsimp only
    obtain ⟨hPhase, hNode⟩ | ⟨how, hPhase, hNode⟩ := @checkHeartbeat_cases w ⟨st, .check age⟩ age
    · rw [hPhase]
      exact iff_of_true trivial hNode
    · rw [hPhase]
      exact hNode
  | offline => exact iff_of_true nofun trivial
  | ended how => rfl

theorem sound_step_iff (h : w.Reached p) (m : Move) : w.Sound (w.step p m) ↔ w.Sound p ∧ w.KeepsNode p m := by
  cases m with
  | pass => exact (sound_next_iff h).trans (and_iff_left trivial).symm
  | removeStoragePool =>
    have hGone := @not_hasNode_removeStoragePool w p.stored.state
    obtain ⟨st, phase⟩ := p
    cases phase with
    | validate | save =>
      simp only [step, Sound, KeepsNode, Phase.isLate, Phase.isEarly, hGone]
      tauto
    | reserve | lease =>
      simp only [step, Sound, KeepsNode, Phase.isLate, Phase.isEarly, hGone]
      tauto
    | check age =>
      have hChecks : w.Checks := h.1
      simp [step, Sound, KeepsNode, Phase.isLate, Phase.isEarly, hGone, hChecks]
    | offline => simp [step, Sound, KeepsNode, Phase.isLate]
    | ended how => simp [step, Sound, KeepsNode, Phase.isLate]

theorem reached_step (h : w.Reached p) (m : Move) : w.Reached (w.step p m) := by
  cases m with
  | pass => exact reached_next h
  | removeStoragePool => exact h

theorem rank_next (p : Pass) : (w.next p).phase.rank ≤ p.phase.rank - 1 := by
  obtain ⟨st, phase⟩ := p
  cases phase with
  | validate =>
    rw [next]
    dsimp only
    split <;> simp [Phase.rank]
  | save =>
    rw [next]
    dsimp only [save]
    split <;> simp [Phase.rank]
  | reserve => exact le_rfl
  | lease =>
    rw [next]
    dsimp only
    obtain ⟨err, -, hPhase⟩ | ⟨lease, -, ⟨-, hPhase⟩ | ⟨-, age, hPhase⟩⟩ := getLease_cases w
    · rw [hPhase]
      exact Nat.zero_le _
    · rw [hPhase]
      exact Nat.zero_le _
    · rw [hPhase]
      exact le_rfl
  | check age =>
    rw [next]
    dsimp only
    obtain ⟨hPhase, -⟩ | ⟨how, hPhase, -⟩ := @checkHeartbeat_cases w ⟨st, .check age⟩ age
    · rw [hPhase]
      exact le_rfl
    · rw [hPhase]
      exact Nat.zero_le _
  | offline => exact le_rfl
  | ended how => exact le_rfl

theorem run_ended {n : ℕ} (h : p.phase.rank ≤ n) :
    ∃ how, (Runs.run w.step p (List.replicate n .pass)).phase = .ended how := by
  induction n generalizing p with
  | zero =>
    obtain ⟨st, phase⟩ := p
    cases phase with
    | ended how => exact ⟨how, rfl⟩
    | validate | save | reserve | lease | check age | offline => simp [Phase.rank] at h
  | succ n ih =>
    rw [List.replicate_succ, Runs.run_cons]
    exact ih ((@rank_next w p).trans (by omega))

theorem rank_run_le (moves : List Move) : (Runs.run w.step p moves).phase.rank ≤ p.phase.rank := by
  induction moves generalizing p with
  | nil => exact le_rfl
  | cons m moves ih =>
    rw [Runs.run_cons]
    refine ih.trans ?_
    cases m with
    | pass => exact (@rank_next w p).trans (Nat.sub_le _ 1)
    | removeStoragePool => exact le_rfl

theorem run_of_ended {st : Stored} {how : Ended} (n : ℕ) :
    Runs.run w.step { stored := st, phase := .ended how } (List.replicate n .pass) =
      { stored := st, phase := .ended how } := by
  induction n with
  | zero => rfl
  | succ n ih => exact ih

/-- Left alone, the pass is that of `handleReconcile`. -/
theorem run_alone {st : Stored} (hRenewed : w.Renewed)
    (hSeen : w.seen.sinceLastHB = w.lease.toOption.bind fun lease => lease.renewTime.map (w.clock - ·)) :
    Runs.run w.step { stored := st } (List.replicate 6 .pass) =
      { stored := (handleReconcile w.cfg w.seen st w.sp).1
        phase := .ended (handleReconcile w.cfg w.seen st w.sp).2 } := by
  rw [List.replicate_succ, Runs.run_cons, step, next, handleReconcile]
  cases hValid : validateAndMutate w.cfg.kube w.sp with
  | some out => exact run_of_ended 5
  | none =>
    dsimp only
    rw [List.replicate_succ, Runs.run_cons, step, next, saveToState]
    dsimp only [save]
    split
    · dsimp only
      rw [List.replicate_succ, Runs.run_cons, step, next, List.replicate_succ, Runs.run_cons, step, next, hSeen]
      dsimp only [getLease]
      cases hLease : w.lease with
      | error err => exact run_of_ended 2
      | ok lease =>
        obtain ⟨renewTime, hRenew⟩ := Option.isSome_iff_exists.mp ((renewed_iff hLease).mp hRenewed)
        simp only [hRenew, Except.toOption, Option.bind_some, Option.map_some]
        rw [List.replicate_succ, Runs.run_cons, step, next]
        dsimp only [checkHeartbeat]
        cases hCheck : PoolReconciler.checkHeartbeat _ w.sp.name (some (w.clock - renewTime)) with
        | mk st how =>
          cases how with
          | done => rfl
          | broke | failed | panicked => rfl
    · exact run_of_ended 4

/-- The pass runs to its end, wherever the removals fall, exactly when a lease it
comes to has been renewed, the node it looks up is its own or was there before,
and no removal takes that node away from it. -/
theorem completes_iff (w : Work) (st : Stored) (moves : List Move) :
    (∃ how, how ≠ Ended.panicked ∧ (Runs.run w.step { stored := st }
      (moves ++ List.replicate 6 .pass)).phase = .ended how) ↔
      (w.Checks → w.Renewed ∧ (w.OwnName ∨ w.HasNode st.state)) ∧
        Runs.Guarded w.step w.KeepsNode { stored := st } moves := by
  have hEnd : ∃ how, (Runs.run w.step { stored := st } (moves ++ List.replicate 6 .pass)).phase = .ended how := by
    rw [Runs.run_append]
    exact run_ended (rank_run_le moves)
  have hPasses : ∀ q, Runs.Guarded w.step w.KeepsNode q (List.replicate 6 .pass) := by
    intro q
    refine Runs.guarded_of_forall fun m hm s => ?_
    rw [List.eq_of_mem_replicate hm]
    trivial
  have hSound := @Runs.run_iff_guarded _ _ w.step w.KeepsNode w.Sound w.Reached { stored := st }
    (moves ++ List.replicate 6 .pass) trivial (fun _ m h => reached_step h m) fun _ m h => sound_step_iff h m
  rw [Runs.guarded_append, and_iff_left (hPasses _)] at hSound
  refine Iff.trans ?_ hSound
  obtain ⟨how, hHow⟩ := hEnd
  rw [Sound, hHow]
  simp

end Work

def workOn (sp : StoragePool) (renewTime : Option ℤ) : Work where
  cfg := plainSettings
  sp := sp
  lease := .ok { renewTime := renewTime }

def comesTo (sp : StoragePool) (renewTime : Option ℤ) (moves : List Move) : Phase :=
  (Runs.run (workOn sp renewTime).step { stored := held sp } (moves ++ List.replicate 6 .pass)).phase

/-- A lease without a renewal, a node ID that is not the name, and a removal in
the middle of the pass. -/
theorem comesTo_panic : (heldPool .ready []).spec.nodeInfo.id ≠ "" ∧
    comesTo (heldPool .ready []) none [] = .ended .panicked ∧
    comesTo { heldPool .ready [] with name := "other" } (some 0) [] = .ended .panicked ∧
    comesTo (heldPool .ready []) (some 0) [.pass, .pass, .removeStoragePool] = .ended .panicked := by
  decide +kernel

end Liteio.PoolReconciler
