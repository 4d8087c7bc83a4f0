import Liteio.Migration.Reconcile

/-! # Migration tasks of SPDK

`CleanMigrationTask` of pkg/spdk with the two requests it makes. SPDK reports
the tasks of every bdev; the client keeps those of the source, and the service
then looks for the destination. Each task overwrites what the one before it
gave, so that only the last task of the source decides.
-/

namespace Liteio.Spdk

structure MigrateTask extends Migration.MigrateTask where
  srcBdev : String
  dstBdev : String

structure MigrateStartRequest where
  srcBdev : String
  dstBdev : String
  autoSwitch : Bool := false
  deriving DecidableEq

inductive MigrateCall where
  | query (srcBdev : String)
  | cleanupTask (req : MigrateStartRequest)
  deriving DecidableEq

/-- The answers of SPDK. A failed request carries the text of its error; a reply
to the query decodes to tasks, also when it breaks off with an error. -/
structure MigrateAnswers where
  client : Except String Unit := .ok ()
  query : Except String (List MigrateTask × Option String)
  cleanupTask : Except (String × String) Unit := .ok ()

def bdevMigrateQuery (ans : MigrateAnswers) (srcBdev : String) : List MigrateTask × Option String :=
  match ans.query with
  | .error err => ([], some err)
  | .ok (tasks, err) => (tasks.filter fun item => item.srcBdev = srcBdev, err)

def bdevMigrateCleanupTask (ans : MigrateAnswers) : Option String :=
  match ans.cleanupTask with
  | .error (err, bs) => some (err ++ bs)
  | .ok _ => none

def MigrateTask.IsOf (task : MigrateTask) (req : MigrateStartRequest) : Prop :=
  task.srcBdev = req.srcBdev ∧ task.dstBdev = req.dstBdev

instance (task : MigrateTask) (req : MigrateStartRequest) : Decidable (task.IsOf req) :=
  inferInstanceAs (Decidable (_ ∧ _))

/-- The loop over the tasks, which does not stop at a match. -/
def foundTask (list : List MigrateTask) (req : MigrateStartRequest) : Bool :=
  list.foldl (fun _ item => decide (item.IsOf req)) false

/-- The error, if any, and the requests made. The error of the query comes back
only where no task was found. -/
def cleanMigrationTask (ans : MigrateAnswers) (req : MigrateStartRequest) : Option String × List MigrateCall :=
  match ans.client with
  | .error err => (some err, [])
  | .ok _ =>
    let (list, err) := bdevMigrateQuery ans req.srcBdev
    if foundTask list req then (bdevMigrateCleanupTask ans, [.query req.srcBdev, .cleanupTask req])
    else (err, [.query req.srcBdev])

def lastOfSource (tasks : List MigrateTask) (req : MigrateStartRequest) : Option MigrateTask :=
  (tasks.filter fun item => item.srcBdev = req.srcBdev).getLast?

section

variable {ans : MigrateAnswers} {tasks : List MigrateTask} {req : MigrateStartRequest}

theorem foundTask_eq (list : List MigrateTask) (req : MigrateStartRequest) :
    foundTask list req = list.getLast?.any fun item => item.IsOf req := by
  rcases List.eq_nil_or_concat list with rfl | ⟨before, last, rfl⟩
  · rfl
  · simp [foundTask]

theorem foundTask_filter_iff :
    foundTask (tasks.filter fun item => item.srcBdev = req.srcBdev) req ↔
      ∃ last, lastOfSource tasks req = some last ∧ last.dstBdev = req.dstBdev := by
  rw [foundTask_eq, Option.any_eq_true]
  refine exists_congr fun last => and_congr_right fun hLast => ?_
  have hSource := List.of_mem_filter (List.mem_of_getLast? hLast)
  rw [decide_eq_true_iff]
  exact and_iff_right (of_decide_eq_true hSource)

theorem cleanMigrationTask_eq (hClient : ans.client = .ok ()) (hQuery : ans.query = .ok (tasks, none)) :
    cleanMigrationTask ans req =
      if foundTask (tasks.filter fun item => item.srcBdev = req.srcBdev) req then
        (bdevMigrateCleanupTask ans, [.query req.srcBdev, .cleanupTask req])
      else (none, [.query req.srcBdev]) := by
  simp only [cleanMigrationTask, bdevMigrateQuery, hClient, hQuery]

theorem bdevMigrateCleanupTask_eq_none : bdevMigrateCleanupTask ans = none ↔ ans.cleanupTask = .ok () := by
  unfold bdevMigrateCleanupTask
  split <;> simp_all

end

/-- A clean-up without error leaves no task of the request: none was reported, or
SPDK was told to remove it and did. -/
def LeavesNoTask (ans : MigrateAnswers) (tasks : List MigrateTask) (req : MigrateStartRequest) : Prop :=
  (cleanMigrationTask ans req).1 = none →
    (∀ task ∈ tasks, ¬ task.IsOf req) ∨
      .cleanupTask req ∈ (cleanMigrationTask ans req).2 ∧ ans.cleanupTask = .ok ()

/-- A reported task is cleaned up precisely if no later task of its source goes
to another destination. -/
theorem cleanMigrationTask_leavesNoTask_iff {ans : MigrateAnswers} {tasks : List MigrateTask}
    (hClient : ans.client = .ok ()) (hQuery : ans.query = .ok (tasks, none)) (req : MigrateStartRequest) :
    LeavesNoTask ans tasks req ↔ ((∃ task ∈ tasks, task.IsOf req) →
      ∃ last, lastOfSource tasks req = some last ∧ last.dstBdev = req.dstBdev) := by
  unfold LeavesNoTask
  rw [cleanMigrationTask_eq hClient hQuery, ← foundTask_filter_iff]
  by_cases hFound : foundTask (tasks.filter fun item => item.srcBdev = req.srcBdev) req
  · rw [if_pos hFound]
    refine iff_of_true ?_ fun _ => hFound
    intro hNil
    exact .inr ⟨by simp, bdevMigrateCleanupTask_eq_none.mp hNil⟩
  · rw [if_neg hFound]
    simp [hFound]

def twoTasks (first second : String) : List MigrateTask :=
  [{ srcBdev := "s", dstBdev := first }, { srcBdev := "s", dstBdev := second }]

def reporting (tasks : List MigrateTask) : MigrateAnswers where
  query := .ok (tasks, none)

theorem lastTask_cleaned :
    LeavesNoTask (reporting (twoTasks "other" "d")) (twoTasks "other" "d") { srcBdev := "s", dstBdev := "d" } :=
  (cleanMigrationTask_leavesNoTask_iff rfl rfl _).mpr fun _ => ⟨_, rfl, rfl⟩

theorem firstTask_left :
    ¬ LeavesNoTask (reporting (twoTasks "d" "other")) (twoTasks "d" "other") { srcBdev := "s", dstBdev := "d" } := by
  intro hLeaves
  rcases hLeaves (by decide) with hNone | hCleaned
  · exact hNone _ List.mem_cons_self ⟨rfl, rfl⟩
  · exact absurd hCleaned.1 (by decide)

end Liteio.Spdk
