import Liteio.Migration.Finished
import Liteio.Migration.Safety

/-! # What the migration processes have recorded

The controller writes what it found of the source and the destination, the agent
and the host what they know of their connections. As long as the answers of a run
speak of one source and one destination, what is recorded belongs together after
every event, however the passes interleave.
-/

namespace Liteio.Migration

open Optimistic

structure Setting where
  source : SpdkTarget
  dest : SpdkTarget
  nqn : source.subsysNQN ≠ ""
  address : dest.address ≠ ""

variable {E : Setting}

structure Setting.Source (E : Setting) (vol : AntstorVolume) : Prop where
  ns : vol.ns ≠ ""
  type : vol.spec.type = .spdkLVol
  position : vol.spec.positionAdvice ≠ .mustLocal
  node : vol.spec.targetNodeId ≠ ""
  host : ∃ host, vol.spec.hostNode = some host ∧ host.id ≠ ""
  target : vol.spec.spdkTarget = some E.source
  lvol : ∃ lvol, vol.spec.spdkLvol = some lvol

structure Setting.Dest (E : Setting) (vol : AntstorVolume) : Prop where
  type : vol.spec.type = .spdkLVol
  node : vol.spec.targetNodeId ≠ ""
  target : vol.spec.spdkTarget = some E.dest

/-- The volumes that are found are those of the setting. The host asks for the
destination where the others ask for the source. -/
structure Truthful (E : Setting) (i : Process) (ans : Answers) : Prop where
  source : i ≠ .host → ∀ vol, ans.srcVol = .found vol → E.Source vol
  dest : ∀ vol, ans.destVol = .found vol → vol.status.status = .ready → E.Dest vol

inductive Moves (E : Setting) (m : VolumeMigration) : Write → Prop where
  | advance {status} (h : Advances m status.phase) (hStatus : status.status ≠ .error)
      (hFinished : status.phase = .finished → status.status = .finished) : Moves E m (.updateStatus status)
  | source {vol host} (hVol : E.Source vol) (hHost : host.id ≠ "") :
      Moves E m (.update (Controller.fillSource m vol host E.source))
  | label {vol host} (hVol : E.Source vol) : Moves E m (.update (Controller.addLabels m vol host))
  | name {vol host uuid} (hVol : E.Source vol) (hName : m.spec.destVolume.name = "") :
      Moves E m (.update (Controller.nameDest m vol host uuid))
  | dest {vol} (hVol : E.Dest vol) : Moves E m (.update (Controller.fillDest m vol E.dest))

section moves

variable {ans : Answers} {m : VolumeMigration} {w : Write} {vol : AntstorVolume}

theorem advance_moves (hStatus : m.status.status ≠ .error) (h : (Controller.advance m).write = some w) :
    Moves E m w := by
  unfold Controller.advance at h
  dsimp only at h
  split at h
  · rename_i hPhase
    cases h
    exact .advance (.setupPipe hPhase) hStatus nofun
  · rename_i hPhase
    obtain ⟨hConnected, hWrite⟩ := Option.ite_none_left_eq_some.mp ((apply_ite Outcome.write _ _ _).symm.trans h)
    cases hWrite
    rw [not_or, not_not, not_not] at hConnected
    exact .advance (.syncing hPhase hConnected.1 hConnected.2) hStatus nofun
  · rename_i hPhase
    obtain ⟨hSwitched, hWrite⟩ := Option.ite_none_left_eq_some.mp ((apply_ite Outcome.write _ _ _).symm.trans h)
    cases hWrite
    exact .advance (.cleaning hPhase (not_not.mp hSwitched)) hStatus nofun
  · rename_i hPhase
    obtain ⟨hGone, hWrite⟩ := Option.ite_none_left_eq_some.mp ((apply_ite Outcome.write _ _ _).symm.trans h)
    cases hWrite
    rw [not_or, not_not, not_not] at hGone
    exact .advance (.finished hPhase hGone.1 hGone.2) nofun fun _ => rfl
  · cases h

theorem reconcileDest_moves (hStatus : m.status.status ≠ .error) (hSource : E.Source vol)
    (hDest : ∀ vol, ans.destVol = .found vol → vol.status.status = .ready → E.Dest vol)
    (h : (Controller.reconcileDest ans m vol).write = some w) : Moves E m w := by
  unfold Controller.reconcileDest at h
  split at h
  · rename_i hName
    split at h
    · cases h
      exact .name hSource hName
    · cases h
  · split at h
    · cases h
    · split at h <;> cases h
    · rename_i destVol hFound
      split at h
      · cases h
      · rename_i hReady
        have hVol := hDest destVol hFound (not_not.mp hReady)
        split at h
        · rw [hVol.target] at h
          cases h
          exact .dest hVol
        · exact advance_moves hStatus h

theorem reconcileSource_moves (hStatus : m.status.status ≠ .error) (hSource : E.Source vol)
    (hReady : vol.status.status = .ready)
    (hDest : ∀ vol, ans.destVol = .found vol → vol.status.status = .ready → E.Dest vol)
    (h : (Controller.reconcileSource ans m vol).write = some w) : Moves E m w := by
  obtain ⟨host, hHost, hId⟩ := hSource.host
  unfold Controller.reconcileSource at h
  rw [if_neg (not_not.mpr hSource.type), if_neg hSource.position, if_neg (not_not.mpr hReady), hHost,
    hSource.target] at h
  split at h
  · cases h
    exact .source hSource hId
  split at h
  · cases h
    exact .label hSource
  split at h
  · rename_i hPhase
    cases h
    exact .advance (.creatingVolume hPhase) nofun nofun
  · exact reconcileDest_moves hStatus hSource hDest h

theorem controller_moves {pass : ℕ} (hAns : Truthful E (.controller pass) ans)
    (h : (Controller.reconcile ans m).write = some w) :
    Moves E m w ∨ ∃ status, w = .updateStatus status ∧ status.phase = m.status.phase ∧
      (status.status = m.status.status ∨ status.status = .error) := by
  unfold Controller.reconcile at h
  split at h
  · cases h
  split at h
  · cases h
  rename_i hStatus
  split at h
  · rename_i hPhase
    cases h
    exact .inl (.advance (.pending hPhase) nofun nofun)
  split at h
  · rename_i vol hFound
    have hSource := hAns.source nofun vol hFound
    by_cases hReady : vol.status.status = .ready
    · exact .inl (reconcileSource_moves hStatus hSource hReady hAns.dest h)
    · unfold Controller.reconcileSource at h
      rw [if_neg (not_not.mpr hSource.type), if_neg hSource.position, if_pos hReady] at h
      cases h
      exact .inr ⟨_, rfl, rfl, .inl rfl⟩
  · cases h
    exact .inr ⟨_, rfl, rfl, .inr rfl⟩
  · cases h
    exact .inr ⟨_, rfl, rfl, .inr rfl⟩

end moves

def Established (status : ConnectStatus) : Prop := status = .connected ∨ status = .disconnected

def phaseRank : MigrationPhase → ℕ
  | .unset => 0
  | .pending => 1
  | .creatingVolume => 2
  | .setupPipe => 3
  | .syncing => 4
  | .cleaning => 5
  | .finished => 6

structure Recorded (E : Setting) (m : VolumeMigration) : Prop where
  live : m.deletionTimestamp = none
  named : m.spec.destVolume.name ≠ "" → m.spec.destVolume.ns ≠ ""
  source : SourceRecorded m → m.spec.sourceVolume.spdk = E.source
  dest : DestRecorded m → m.spec.destVolume.spdk = E.dest
  pipe : m.spec.migrationInfo.migrationPipe.destBdevName ≠ "" →
    Established m.spec.migrationInfo.migrationPipe.status
  syncing : 4 ≤ phaseRank m.status.phase → Established m.spec.migrationInfo.migrationPipe.status ∧
    Established m.spec.migrationInfo.hostConnectStatus
  finished : m.status.phase = .finished → m.status.status = .finished ∨ m.status.status = .error

section recorded

variable {i : Process} {copy m m' : VolumeMigration} {w : Write}

theorem Advances.rank {phase : MigrationPhase} (h : Advances m phase) :
    phaseRank phase = phaseRank m.status.phase + 1 := by
  cases h with
  | pending h | creatingVolume h | setupPipe h | syncing h | cleaning h | finished h => rw [h]; rfl

theorem Recorded.advance {status : VolumeMigrationStatus} (h : Recorded E m) (hAdvances : Advances m status.phase)
    (hFinished : status.phase = .finished → status.status = .finished) :
    Recorded E { m with status := status } := by
  refine { h with syncing := fun hRank => ?_, finished := fun hPhase => .inl (hFinished hPhase) }
  generalize hPhase : status.phase = phase at hAdvances
  have hNext := hAdvances.rank
  rw [← hPhase] at hNext
  have hLate : 4 ≤ phaseRank m.status.phase ∨ phaseRank m.status.phase = 3 := by
    dsimp only at hRank
    omega
  rcases hLate with hLate | hLast
  · exact h.syncing hLate
  · cases hAdvances with
    | syncing _ hPipe hHost => exact ⟨.inl hPipe, .inl hHost⟩
    | pending h | creatingVolume h | setupPipe h | cleaning h | finished h =>
      rw [h] at hLast
      cases hLast

theorem Moves.recorded (h : Moves E m w) (hm : Recorded E m) : Recorded E (w.apply m) := by
  cases h with
  | advance hAdvances _ hFinished => exact hm.advance hAdvances hFinished
  | source _ _ => exact { hm with source := fun _ => rfl }
  | label _ => exact { hm with }
  | name hVol _ => exact { hm with named := fun _ => hVol.ns }
  | dest _ => exact { hm with dest := fun _ => rfl }

theorem Recorded.connect (h : Recorded E m) (hLive : m'.deletionTimestamp = m.deletionTimestamp)
    (hSource : m'.spec.sourceVolume = m.spec.sourceVolume) (hDest : m'.spec.destVolume = m.spec.destVolume)
    (hStatus : m'.status = m.status)
    (hPipe : m'.spec.migrationInfo.migrationPipe = m.spec.migrationInfo.migrationPipe ∨
      Established m'.spec.migrationInfo.migrationPipe.status)
    (hHost : m'.spec.migrationInfo.hostConnectStatus = m.spec.migrationInfo.hostConnectStatus ∨
      Established m'.spec.migrationInfo.hostConnectStatus) : Recorded E m' where
  live := hLive.trans h.live
  named := by
    rw [hDest]
    exact h.named
  source := by
    rw [SourceRecorded, hSource]
    exact h.source
  dest := by
    rw [DestRecorded, hDest]
    exact h.dest
  pipe hName := by
    rcases hPipe with hSame | hPipe
    · rw [hSame] at hName ⊢
      exact h.pipe hName
    · exact hPipe
  syncing hRank := by
    rw [hStatus] at hRank
    refine ⟨?_, ?_⟩
    · rcases hPipe with hSame | hPipe
      · rw [hSame]
        exact (h.syncing hRank).1
      · exact hPipe
    · rcases hHost with hSame | hHost
      · rw [hSame]
        exact (h.syncing hRank).2
      · exact hHost
  finished := by
    rw [hStatus]
    exact h.finished

theorem merged_pipe (old new current : MigrationInfo) (h : new.migrationPipe = old.migrationPipe) :
    (mergeInfo old new current).migrationPipe = current.migrationPipe := by
  simp [mergeInfo, h]

theorem Writes.recorded (h : Writes copy i w) (hWorker : ∀ pass, i ≠ .controller pass) (hm : Recorded E m)
    (hCurrent : w.guarded = true → copy = m) : Recorded E (w.apply m) := by
  cases h with
  | status | advance | fill => exact absurd rfl (hWorker _)
  | pipe _ =>
    cases hCurrent rfl
    exact hm.connect rfl rfl rfl rfl (.inr (.inl rfl)) (.inl rfl)
  | progress | enable => exact hm.connect rfl rfl rfl rfl (.inl (merged_pipe _ _ _ rfl)) (.inl (mergeField_self _ _))
  | unpipe _ =>
    cases hCurrent rfl
    exact hm.connect rfl rfl rfl rfl (.inr (.inr rfl)) (.inl rfl)
  | connect _ =>
    cases hCurrent rfl
    exact hm.connect rfl rfl rfl rfl (.inl rfl) (.inr (.inl rfl))
  | switch _ =>
    cases hCurrent rfl
    exact hm.connect rfl rfl rfl rfl (.inl rfl) (.inl rfl)
  | disconnect _ =>
    cases hCurrent rfl
    exact hm.connect rfl rfl rfl rfl (.inl rfl) (.inr (.inr rfl))

def Answered (E : Setting) (i : Process) (copy : VolumeMigration) (w : Write) : Prop :=
  ∃ ans, Truthful E i ans ∧ (reconcile i ans copy).write = some w

theorem Answered.recorded (h : Answered E i copy w) (hm : Recorded E m)
    (hCurrent : w.guarded = true → copy = m) : Recorded E (w.apply m) := by
  obtain ⟨ans, hAns, hWrite⟩ := h
  cases i with
  | controller pass =>
    rcases controller_moves hAns hWrite with hMoves | ⟨status, rfl, hPhase, hStatus⟩
    · have hGuarded : w.guarded = true := by cases hMoves <;> rfl
      cases hCurrent hGuarded
      exact hMoves.recorded hm
    · cases hCurrent rfl
      refine { hm with syncing := fun hRank => ?_, finished := fun hFinished => ?_ }
      · exact hm.syncing (hPhase ▸ hRank)
      · rcases hStatus with hSame | hError
        · exact (hm.finished (hPhase ▸ hFinished)).imp hSame.trans hSame.trans
        · exact .inr hError
  | agent => exact (agent_writes hWrite).recorded nofun hm hCurrent
  | host => exact (host_writes hWrite).recorded nofun hm hCurrent

end recorded

def recording (E : Setting) : Annotation Process VolumeMigration (List Call) Write Unit where
  inv m _ := Recorded E m
  held _ _ _ _ _ := True
  pending i copy w rest _ _ := Answered E i copy w ∧ rest = none

def TruthfulEvent (E : Setting) : Event Process Answers → Prop
  | .act i ans => Truthful E i ans
  | _ => True

theorem recording_step {s : System Process VolumeMigration (List Call) Write Unit} {e : Event Process Answers}
    (hs : (recording E).Good s) (he : TruthfulEvent E e) : (recording E).Good (protocol.step s e) := by
  refine hs.step ?_
  cases e with
  | read i => trivial
  | act i ans =>
    intro copy mem _
    refine ⟨hs.inv, ?_, fun j _ => ⟨fun _ _ h => h, fun _ _ _ h => h⟩⟩
    rw [protocol]
    dsimp only
    cases hWrite : (reconcile i ans copy.value).write with
    | none => trivial
    | some w => exact ⟨⟨ans, he, hWrite⟩, rfl⟩
  | write i =>
    intro copy w rest hProc hAccepts
    have hKnows := hs.knows i
    rw [hProc] at hKnows
    obtain ⟨hRead, hAnswered, rfl⟩ := hKnows
    exact ⟨hAnswered.recorded hs.inv ( Annotation.accepted_current hRead hAccepts), fun _ hNone => (by cases hNone),
      fun j _ => ⟨fun _ _ h => h, fun _ _ _ h => h⟩⟩
  | fail i => trivial

structure Requested (m : VolumeMigration) : Prop where
  live : m.deletionTimestamp = none
  source : m.spec.sourceVolume.targetNodeId = ""
  dest : m.spec.destVolume = {}
  info : m.spec.migrationInfo = {}
  status : m.status = {}

theorem Requested.fresh {m : VolumeMigration} (h : Requested m) : Fresh m := by
  refine ⟨.inl (by rw [h.status]), ?_, ?_, ?_⟩
  · rw [h.info]
    decide
  · rw [h.info]
    decide
  · rw [Switched, h.info]
    decide

theorem Requested.recorded {m : VolumeMigration} (h : Requested m) : Recorded E m where
  live := h.live
  named hName := absurd (by rw [h.dest]) hName
  source hSource := absurd h.source hSource.1
  dest hDest := absurd (by rw [h.dest]) hDest.1
  pipe hPipe := absurd (by rw [h.info]) hPipe
  syncing hRank := by
    rw [h.status] at hRank
    exact absurd hRank (by decide)
  finished hPhase := by
    rw [h.status] at hPhase
    cases hPhase

end Liteio.Migration
