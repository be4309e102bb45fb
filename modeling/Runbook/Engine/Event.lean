/-
# Events of jobs
-/

import Runbook.Json.Basic
import Runbook.Workflow.Kind

namespace Runbook

/-- What is told of a job while it runs. -/
inductive JobEvent where
  | jobStarted (jobId workflowId : String)
  | taskStarted (jobId task : String) (worker : WorkerKind)
  | taskCompleted (jobId task : String) (worker : WorkerKind) (result : Json)
  | taskFailed (jobId task : String) (worker : WorkerKind) (error : String) (continued : Bool)
  | jobCompleted (jobId : String) (durationMs : Nat)
  | jobFailed (jobId error : String)
  | jobStopped (jobId : String)
  | reportGenerated (jobId : String) (report : Json)
  | reportFailed (jobId error : String)

namespace JobEvent

/-- The job that an event tells of. -/
def jobId : JobEvent → String
  | .jobStarted id _ | .taskStarted id _ _ | .taskCompleted id _ _ _ | .taskFailed id _ _ _ _
  | .jobCompleted id _ | .jobFailed id _ | .jobStopped id | .reportGenerated id _
  | .reportFailed id _ => id

/-- An event as an object with its name in front. -/
def object (name jobId : String) (fields : List (String × Json)) : Json :=
  .object ([("event", .string name), ("job_id", .string jobId)] ++ fields)

/-- The fields that name a task and its worker. -/
def taskFields (task : String) (worker : WorkerKind) : List (String × Json) :=
  [("task", .string task), ("worker", .string worker.word)]

/-- The event as an object. -/
def toJson : JobEvent → Json
  | .jobStarted id workflowId => object "job_started" id [("workflow_id", .string workflowId)]
  | .taskStarted id task worker => object "task_started" id (taskFields task worker)
  | .taskCompleted id task worker result =>
    object "task_completed" id (taskFields task worker ++ [("result", result)])
  | .taskFailed id task worker error continued =>
    object "task_failed" id
      (taskFields task worker ++ [("error", .string error), ("continued", .bool continued)])
  | .jobCompleted id durationMs => object "job_completed" id [("duration_ms", .ofNat durationMs)]
  | .jobFailed id error => object "job_failed" id [("error", .string error)]
  | .jobStopped id => object "job_stopped" id []
  | .reportGenerated id report => object "report_generated" id [("report", report)]
  | .reportFailed id error => object "report_failed" id [("error", .string error)]

end JobEvent
end Runbook
