/-
# Jobs

A job is one execution of a workflow.  It runs until it is completed, failed or
stopped, and stays so (`finish` does nothing to a job that has ended).
-/

import Runbook.Instant
import Runbook.Workflow.Basic

namespace Runbook

/-- The states of a job. -/
inductive JobStatus where
  | running
  | completed
  | failed
  | stopped
deriving DecidableEq, Inhabited

namespace JobStatus

/-- The word of a state. -/
def word : JobStatus → String
  | .running => "running"
  | .completed => "completed"
  | .failed => "failed"
  | .stopped => "stopped"

/-- Whether the state is final. -/
def isTerminal : JobStatus → Bool
  | .running => false
  | _ => true

end JobStatus

/-- What is kept of a task's failure. -/
structure TaskFailure where
  worker : WorkerKind
  error : String
  timestamp : Instant

/-- The failure as an object. -/
def TaskFailure.toJson (f : TaskFailure) : Json :=
  .object
    [("worker", .string f.worker.word), ("error", .string f.error),
     ("timestamp", .string f.timestamp.text)]

/-- One execution of a workflow. -/
structure Job where
  id : String
  workflowId : String
  workflowName : String
  parameters : Dict Json
  status : JobStatus := .running
  completedTasks : NameSet := .empty
  failedTasks : NameSet := .empty
  currentTasks : NameSet := .empty
  results : Dict Json := .empty
  failures : Dict TaskFailure := .empty
  startTime : Instant
  endTime : Option Instant := none
  durationMs : Option Nat := none
  finalReport : Option Json := none
  error : Option String := none

namespace Job

/-- A job that has just started. -/
def new (id : String) (w : Workflow) (parameters : Dict Json) (now : Instant) : Job :=
  { id, workflowId := w.id, workflowName := w.name, parameters, startTime := now }

/-- Whether the job has ended. -/
def isTerminal (j : Job) : Bool := j.status.isTerminal

/-- The job ended in a state at an instant; none if it has ended before. -/
def finish? (j : Job) (status : JobStatus) (now : Instant) : Option Job :=
  if j.isTerminal then none
  else some { j with status, endTime := some now, durationMs := some (now.since j.startTime) }

/-- A task has been started. -/
def startTask (j : Job) (task : String) : Job :=
  { j with currentTasks := j.currentTasks.insert task }

/-- A task has ended in one way or another. -/
def endTask (j : Job) (task : String) : Job :=
  { j with currentTasks := j.currentTasks.erase task }

/-- A task has given a result. -/
def completeTask (j : Job) (task : String) (result : Json) : Job :=
  { j with
    results := j.results.insert task result
    completedTasks := j.completedTasks.insert task }

/-- A task has failed; if the job goes on in spite of that, the task counts as
completed. -/
def failTask (j : Job) (task : String) (failure : TaskFailure) (continued : Bool) : Job :=
  { j with
    failedTasks := j.failedTasks.insert task
    failures := j.failures.insert task failure
    completedTasks := if continued then j.completedTasks.insert task else j.completedTasks }

/-- The job as an object. -/
def toJson (j : Job) : Json :=
  .object
    [("id", .string j.id), ("workflow_id", .string j.workflowId),
     ("workflow_name", .string j.workflowName), ("parameters", .ofValues j.parameters),
     ("status", .string j.status.word), ("completed_tasks", .ofStrings j.completedTasks.names),
     ("failed_tasks", .ofStrings j.failedTasks.names),
     ("current_tasks", .ofStrings j.currentTasks.names), ("results", .ofValues j.results),
     ("failures", .ofDict TaskFailure.toJson j.failures),
     ("start_time", .string j.startTime.text),
     ("end_time", .ofOption (fun t => .string t.text) j.endTime),
     ("duration_ms", .ofOption .ofNat j.durationMs),
     ("final_report", .ofOption (fun v => v) j.finalReport),
     ("error", .ofOption .string j.error)]

end Job
end Runbook
