/-
# The orchestrator

The orchestrator holds the registered workflows and all jobs.  Each operation
here is one atomic step on that state: it gives an answer, which may be an error,
and the state that it leaves.  A workflow is held under its own identifier and
only if it is valid; a job is never removed.
-/

import Runbook.Engine.Error
import Runbook.Engine.Event
import Runbook.Settings.Basic
import Runbook.Worker.Registry
import Runbook.Workflow.Validation

namespace Runbook

/-- How much the worker of a kind has done. -/
structure Activity where
  tasksExecuted : Nat := 0
  lastActivity : Option Instant := none
deriving Inhabited

/-- What can be told of a registered worker. -/
structure WorkerStatus where
  kind : WorkerKind
  capabilities : List String
  activity : Activity

/-- The workflows, the jobs in the order of their start, and the events so far,
which are kept only while somebody listens. -/
structure Orchestrator where
  registry : Registry
  settings : EngineSettings
  workflows : Dict Workflow := .empty
  jobs : List Job := []
  activity : WorkerKind → Activity := fun _ => {}
  listening : Bool := true
  events : List JobEvent := []

namespace Orchestrator

/-- Tells an event to whoever listens. -/
def emit (o : Orchestrator) (e : JobEvent) : Orchestrator :=
  if o.listening then { o with events := o.events ++ [e] } else o

/-- Registers a workflow, in the place of one with its identifier, if it is valid. -/
def register (o : Orchestrator) (w : Workflow) : Except WorkflowError Unit × Orchestrator :=
  match w.validate.toExcept with
  | .error e => (.error e, o)
  | .ok () => (.ok (), { o with workflows := o.workflows.insert w.id w })

/-- Registers the workflow of a file, if there is one in it. -/
def load (o : Orchestrator) :
    Except WorkflowError Workflow → Except WorkflowError Workflow × Orchestrator
  | .error e => (.error e, o)
  | .ok w =>
    let (registered, o) := o.register w
    (registered.map fun () => w, o)

/-- The job of an identifier. -/
def job? (o : Orchestrator) (id : String) : Option Job := o.jobs.find? fun j => j.id == id

/-- Replaces the job of an identifier. -/
def setJob (o : Orchestrator) (id : String) (j : Job) : Orchestrator :=
  { o with jobs := o.jobs.map fun k => if k.id == id then j else k }

/-- The jobs that have not ended. -/
def activeJobs (o : Orchestrator) : List Job := o.jobs.filter fun j => j.status = .running

/-- Counts a task that a worker of the kind has ended. -/
def countActivity (o : Orchestrator) (kind : WorkerKind) (now : Instant) : Orchestrator :=
  { o with
    activity := fun k =>
      if k = kind then ⟨(o.activity kind).tasksExecuted + 1, some now⟩ else o.activity k }

/-- What can be told of each registered worker. -/
def workerStatus (o : Orchestrator) : List WorkerStatus :=
  WorkerKind.all.filterMap fun k =>
    (o.registry.worker? k).map fun w => ⟨k, w.capabilities, o.activity k⟩

/-- Stops a running job.  Its tasks are not interrupted. -/
def stop (o : Orchestrator) (id : String) (now : Instant) :
    Except ExecutionError Job × Orchestrator :=
  match o.job? id with
  | none => (.error (.jobNotFound id), o)
  | some j =>
    match j.finish? .stopped now with
    | none => (.error (.invalidJobState id j.status), o)
    | some j => (.ok j, (o.setJob id j).emit (.jobStopped id))

end Orchestrator
end Runbook
