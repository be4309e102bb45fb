/-
# Output

The lines that the program prints: for events as they happen, for a job that is
over, for a workflow, and for the documents of a library.  Events are also put
down in the log (`JobEvent.record`).
-/

import Runbook.Engine.Event
import Runbook.Engine.Job
import Runbook.Log
import Runbook.Workflow.Library

namespace Runbook

/-- The line for an event. -/
def JobEvent.line : JobEvent → String
  | .jobStarted id workflowId => "[job] " ++ id ++ " started (" ++ workflowId ++ ")"
  | .taskStarted _ task worker => "[" ++ worker.word ++ "] " ++ task ++ " ..."
  | .taskCompleted _ task worker _ => "[" ++ worker.word ++ "] " ++ task ++ " done"
  | .taskFailed _ task worker error continued =>
    "[" ++ worker.word ++ "] " ++ task ++ " failed: " ++ error
      ++ if continued then " (continuing)" else ""
  | .jobCompleted id durationMs =>
    "[job] " ++ id ++ " completed in " ++ toString durationMs ++ " ms"
  | .jobFailed id error => "[job] " ++ id ++ " failed: " ++ error
  | .jobStopped id => "[job] " ++ id ++ " stopped"
  | .reportGenerated .. => "[report] final report generated"
  | .reportFailed _ error => "[report] final report failed: " ++ error

/-- The record of an event.  A failed task is worth a warning if the job goes on,
and a final report that cannot be written never ends a job. -/
def JobEvent.record : JobEvent → LogRecord
  | .jobStarted id workflowId =>
    ⟨.info, "ジョブを開始しました", [("job_id", id), ("workflow_id", workflowId)]⟩
  | .taskStarted id task worker =>
    ⟨.info, "タスクを開始します", [("job_id", id), ("task", task), ("worker", worker.word)]⟩
  | .taskCompleted id task worker _ =>
    ⟨.info, "タスクが完了しました", [("job_id", id), ("task", task), ("worker", worker.word)]⟩
  | .taskFailed id task _ error true =>
    ⟨.warn, "タスクが失敗しましたが、ワークフローを継続します",
      [("job_id", id), ("task", task), ("error", error)]⟩
  | .taskFailed id task _ error false =>
    ⟨.error, "タスクが失敗しました", [("job_id", id), ("task", task), ("error", error)]⟩
  | .jobCompleted id durationMs =>
    ⟨.info, "ワークフローが完了しました", [("job_id", id), ("duration_ms", toString durationMs)]⟩
  | .jobFailed id error =>
    ⟨.error, "ワークフローが失敗しました", [("job_id", id), ("error", error)]⟩
  | .jobStopped id => ⟨.info, "ジョブを停止しました", [("job_id", id)]⟩
  | .reportGenerated id _ => ⟨.info, "最終レポートを生成しました", [("job_id", id)]⟩
  | .reportFailed id error =>
    ⟨.warn, "最終レポートを生成できませんでした", [("job_id", id), ("error", error)]⟩

/-- The lines that sum up a job, after an empty one. -/
def Job.summary (j : Job) : List String :=
  ["",
   "Workflow:  " ++ j.workflowName ++ " (" ++ j.workflowId ++ ")",
   "Job:       " ++ j.id,
   "Status:    " ++ j.status.word,
   "Completed: " ++ toString j.completedTasks.size,
   "Failed:    " ++ toString j.failedTasks.size]
    ++ (j.durationMs.map fun ms => "Duration:  " ++ toString ms ++ " ms").toList
    ++ (j.error.map fun e => "Error:     " ++ e).toList

/-- The line for a task of a workflow. -/
def Task.line (t : Task) : String :=
  "     - " ++ t.name ++ " [" ++ t.worker.word ++ " / " ++ t.action.word ++ "]"

/-- The lines for a phase; names that are no task's are left out. -/
def Workflow.phaseLines (w : Workflow) (p : Phase) : List String :=
  ("  " ++ toString p.order ++ ". " ++ p.name)
    :: p.tasks.filterMap fun name => (w.task? name).map Task.line

/-- The lines that show a workflow and what validation found. -/
def Workflow.outline (w : Workflow) : List String :=
  let report := w.validate
  [w.name ++ " (" ++ w.id ++ ")"]
    ++ w.phases.flatMap w.phaseLines
    ++ report.warnings.map ("warning: " ++ ·)
    ++ report.errors.map ("error: " ++ ·)
    ++ if report.valid then ["OK: " ++ toString w.tasks.length ++ " tasks"] else []

/-- The text with spaces behind it up to a width. -/
def paddedEnd (width : Nat) (s : String) : String :=
  s ++ String.ofList (List.replicate (width - s.length) ' ')

/-- The text with spaces in front of it up to a width. -/
def paddedStart (width : Nat) (s : String) : String :=
  String.ofList (List.replicate (width - s.length) ' ') ++ s

/-- The line for a document of a library. -/
def LibraryEntry.line (e : LibraryEntry) : String :=
  paddedEnd 32 e.name ++ " " ++ paddedStart 8 (toString e.size) ++ " bytes  " ++ e.path

/-- The lines for the documents of a library. -/
def libraryLines (dir : String) (entries : List LibraryEntry) : List String :=
  if entries.isEmpty then ["No workflows found in " ++ dir] else entries.map LibraryEntry.line

end Runbook
