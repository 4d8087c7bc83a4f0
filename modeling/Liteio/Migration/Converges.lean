import Liteio.Migration.Stages

/-! # Migrations come to their end

The safety results say what the three processes never do; this module says that
they finish. After any interleaved run a turn has a pass of each process, in any
order and any number, and every turn takes the migration to its next stage.
-/

namespace Liteio.Migration

open Optimistic

variable {E : Setting}

theorem passes_serve : Tasks.Serves Reached passOver (Undisturbed E) (Steady E) Stage.order Stage.Mine where
  invariant s a hs ha := (passOver_keeps hs ha).1
  keeps s a hs ha := (passOver_keeps hs ha).2
  does s a t hs ha hMine hEarlier := by
    by_cases hReached : Reached s t
    · exact (passOver_keeps hs ha).2 t hReached
    obtain ⟨i, ans⟩ := a
    cases t
    case started =>
      obtain ⟨pass, rfl⟩ := hMine
      have hPhase : s.1.status.phase = .unset := phaseRank_inj (Nat.lt_one_iff.mp (Nat.not_le.mp hReached))
      rw [passOver_eq (.controller pass) (hs.reconcile_eq hPhase)]
      exact Nat.le_refl 1
    case source | labelled | creating =>
      obtain ⟨pass, rfl⟩ := hMine
      exact ha.source_reached hs (by decide) hEarlier hReached
    case named | created | dest =>
      obtain ⟨pass, rfl⟩ := hMine
      exact ha.dest_reached hs (by decide) hEarlier hReached
    case piping | syncing | cleaning | finished =>
      obtain ⟨pass, rfl⟩ := hMine
      exact ha.phase_reached hs (by decide) hEarlier hReached
    case pipe =>
      cases hMine
      exact ha.pipe_reached hs hEarlier hReached
    case copying | enabled =>
      cases hMine
      exact ha.job_reached hs (by decide) hEarlier hReached
    case unpiped =>
      cases hMine
      exact ha.unpiped_reached hs hEarlier hReached
    case host =>
      cases hMine
      exact ha.host_reached hs hEarlier hReached
    case switched =>
      cases hMine
      exact ha.switched_reached hs hEarlier hReached
    case unhosted =>
      cases hMine
      exact ha.unhosted_reached hs hEarlier hReached

/-- A turn: each of the three processes makes a pass at least. -/
structure Turn (passes : List (Process × Answers)) : Prop where
  controller : ∃ pass ans, (.controller pass, ans) ∈ passes
  agent : ∃ ans, (.agent, ans) ∈ passes
  host : ∃ ans, (.host, ans) ∈ passes

theorem Turn.mine {passes : List (Process × Answers)} (h : Turn passes) (t : Stage) : ∃ a ∈ passes, t.Mine a := by
  obtain ⟨⟨pass, ans, hController⟩, ⟨ans', hAgent⟩, ⟨ans'', hHost⟩⟩ := h
  cases t
  case pipe | copying | enabled | unpiped => exact ⟨_, hAgent, rfl⟩
  case host | switched | unhosted => exact ⟨_, hHost, rfl⟩
  all_goals exact ⟨_, hController, pass, rfl⟩

/-- Whatever the three processes did on a requested migration, it finishes
within eighteen turns in which they are left alone, unless an error was reported. -/
theorem migration_finishes {m : VolumeMigration} (hRequested : Requested m)
    {events : List (Event Process Answers)} (hTruthful : ∀ e ∈ events, TruthfulEvent E e)
    {turns : List (List (Process × Answers))} (hTurns : ∀ turn ∈ turns, Turn turn) (hLength : 18 ≤ turns.length) :
    let s := Runs.run protocol.step (System.init m []) events
    s.object.value.status.status ≠ .error →
    Runs.Guarded passOver (Undisturbed E) (s.object.value, s.world) turns.flatten →
    let out := Runs.run passOver (s.object.value, s.world) turns.flatten
    out.1.status.phase = .finished ∧ out.1.status.status = .finished ∧ Switched out.1 ∧
      migrationFinalizerPipeConnected ∉ out.1.finalizers ∧ migrationFinalizerHostConnected ∉ out.1.finalizers := by
  intro s hStatus hGuarded out
  have hSafe := (knowledge_sound.run hRequested.fresh.safe events).inv
  have hRecorded : (recording E).Good s :=
    Runs.run_of_forall hTruthful ⟨hRequested.recorded, fun _ => trivial⟩ fun _ _ hs he => recording_step hs he
  have hLeft : Tasks.left Reached (s.object.value, s.world) ≤ turns.length := (Tasks.left_le _).trans hLength
  have hStart : Steady E (s.object.value, s.world) := ⟨hSafe, hRecorded.inv, hStatus⟩
  obtain ⟨hSteady, hReached⟩ := passes_serve.run_turns hStart hGuarded
    (fun turn hTurn => (hTurns turn hTurn).mine) hLeft
  have hPhase : out.1.status.phase = .finished := by
    have hLast : 6 ≤ phaseRank out.1.status.phase := hReached .finished
    refine phase_eq hLast ?_
    cases out.1.status.phase <;> decide
  refine ⟨hPhase, (hSteady.recorded.finished hPhase).resolve_right hSteady.status, hReached .switched, ?_, ?_⟩
  · exact (hSteady.safe.pipe (hReached .unpiped)).2
  · exact (hSteady.safe.host (hReached .unhosted)).2

def answered : Setting where
  source := { subsysNQN := "nqn", address := "a", svcID := "1" }
  dest := { subsysNQN := "nqn", address := "b", svcID := "1" }
  nqn := by decide
  address := by decide

theorem answered_source : answered.Source (spdkVolume "src" "a") :=
  ⟨by decide, rfl, nofun, by decide, ⟨_, rfl, by decide⟩, rfl, _, rfl⟩

theorem answered_dest : answered.Dest (spdkVolume "dst" "b") := ⟨rfl, by decide, rfl⟩

def hostAnswers : Answers := { answers with srcVol := answers.destVol }

theorem answers_undisturbed (s : Account) {i : Process} (hHost : i ≠ .host) :
    Undisturbed answered s (i, answers) where
  source _ := ⟨_, rfl, answered_source, rfl⟩
  twice h := absurd h hHost
  dest := .inl ⟨_, rfl, answered_dest, rfl⟩
  succeeds _ := rfl
  job _ _ := .inl ⟨_, _, rfl, by decide, .inl rfl⟩
  paths h := absurd h hHost

theorem hostAnswers_undisturbed (s : Account) : Undisturbed answered s (.host, hostAnswers) where
  source h := absurd rfl h
  twice _ := rfl
  dest := .inl ⟨_, rfl, answered_dest, rfl⟩
  succeeds _ := rfl
  job := nofun
  paths _ := ⟨_, rfl, fun _ => ⟨by decide +kernel, by decide +kernel, by decide +kernel⟩⟩

def eighteenTurns : List (List (Process × Answers)) :=
  List.replicate 18 [(.host, hostAnswers), (.controller 0, answers), (.agent, answers)]

/-- Two passes of the controller at once, of which the second is refused. -/
def overtaken : List (Event Process Answers) :=
  [.read (.controller 1), .read (.controller 0), .act (.controller 0) answers, .write (.controller 0),
    .act (.controller 1) answers, .write (.controller 1)]

theorem migration_finishes_after_overtaken :
    let s := Runs.run protocol.step (System.init createdMigration []) overtaken
    s.object.value.status.phase = .pending ∧
      (Runs.run passOver (s.object.value, s.world) eighteenTurns.flatten).1.status.phase = .finished := by
  have hTruthful : ∀ pass, Truthful answered (.controller pass) answers :=
    fun pass => (answers_undisturbed (createdMigration, []) (i := .controller pass) nofun).truthful
  refine ⟨by decide +kernel, (migration_finishes (E := answered) ?_ ?_ ?_ ?_ ?_ ?_).1⟩
  · exact ⟨rfl, rfl, rfl, rfl, rfl⟩
  · exact List.forall_iff_forall_mem.mp ⟨trivial, trivial, hTruthful 0, trivial, hTruthful 1, trivial⟩
  · intro turn hTurn
    cases List.eq_of_mem_replicate hTurn
    exact ⟨⟨0, answers, by simp⟩, ⟨answers, by simp⟩, ⟨hostAnswers, by simp⟩⟩
  · exact Nat.le_refl 18
  · decide +kernel
  · refine Runs.guarded_of_forall fun a ha s => ?_
    obtain ⟨turn, hTurn, ha⟩ := List.mem_flatten.mp ha
    cases List.eq_of_mem_replicate hTurn
    simp only [List.mem_cons, List.not_mem_nil, or_false] at ha
    rcases ha with rfl | rfl | rfl
    · exact hostAnswers_undisturbed s
    · exact answers_undisturbed s nofun
    · exact answers_undisturbed s nofun

end Liteio.Migration
