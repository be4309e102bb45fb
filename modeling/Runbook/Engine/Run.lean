/-
# Runs

A run carries a job through the rounds of its workflow.  In each round all tasks
whose dependencies are completed are started, and the next round begins when all
of them have ended.

A run is a machine of small steps.  Each step is one atomic change of the job,
with the events that follow from it, so that other runs, and those who stop
jobs, may act on the orchestrator between any two steps.  A run that waits makes
no step of its own: it goes on when an outcome is delivered to it.
-/

import Runbook.Engine.Attempt
import Runbook.Engine.Orchestrator
import Runbook.Engine.Reference

namespace Runbook

/-- Where a run is. -/
inductive Stage where
  | round (pending : List Task)
  | starting (ready : List Prepared) (started : Nat) (pending : List Task)
  | waiting (inFlight : Nat) (pending : List Task)
  | recording (outcome : Outcome) (inFlight : Nat) (pending : List Task)
  | rejecting (task : Task) (error : ExecutionError)
  | failing (error : ExecutionError)
  | completing
  | reporting
  | awaitingReport
  | leaving
  | ended (result : Except ExecutionError Job)
  | panicked (message : String)

/-- A run of a job. -/
structure Run where
  jobId : String
  stage : Stage

/-- How a run is over: it has returned a result, or the panic of the worker of
its final report has torn it down. -/
inductive RunEnd where
  | returned (result : Except ExecutionError Job)
  | panicked (message : String)

/-- How the run is over, if it is. -/
def Run.ending? (r : Run) : Option RunEnd :=
  match r.stage with
  | .ended result => some (.returned result)
  | .panicked message => some (.panicked message)
  | _ => none

/-- The name of the task that writes the final report. -/
def finalReportTask : String := "final_workflow_report"

/-- The assignment of the final report. -/
def finalReport (j : Job) : Assignment :=
  { jobId := j.id, name := finalReportTask, worker := .report, action := .report
    parameters := .ofList
      [("type", .string "workflow"), ("scope", .string "full"),
       ("workflow_id", .string j.workflowId), ("workflow_name", .string j.workflowName),
       ("job_id", .string j.id), ("results", .ofValues j.results),
       ("failures", .ofDict (fun f => .ofFields
         [("worker", .string f.worker.word), ("error", .string f.error),
          ("timestamp", .string f.timestamp.text)]) j.failures),
       ("completed_tasks", .ofStrings j.completedTasks.names),
       ("failed_tasks", .ofStrings j.failedTasks.names),
       ("duration_ms", .ofOption .ofNat j.durationMs)] }

/-- Makes a task ready: resolves its references, finds its worker and has it
check the assignment. -/
def Orchestrator.prepare (o : Orchestrator) (jobId : String) (scope : Scope) (t : Task) :
    Except ExecutionError Prepared := do
  if o.settings.strictReferences then
    if let some reference := (scope.unresolved t).head? then
      throw (.unresolvedReference t.name reference)
  let some worker := o.registry.worker? t.worker | throw (.workerNotFound t.name t.worker)
  let assignment : Assignment :=
    { jobId, name := t.name, worker := t.worker, action := t.action
      parameters := scope.values t, code := t.code, output := t.output, critical := t.critical }
  let validation := worker.check assignment
  if !validation.valid then throw (.taskInvalid t.name validation.errors)
  return {
    assignment, worker
    limitMs := if o.settings.enforceTimeouts then some t.timeoutMs else none
    retries := t.retries
    continues := t.continuesOnFailure }

/-- Makes all tasks of a round ready, or gives the first that cannot be. -/
def Orchestrator.prepareAll (o : Orchestrator) (jobId : String) (scope : Scope) :
    List Task → Except (Task × ExecutionError) (List Prepared)
  | [] => .ok []
  | t :: ts =>
    match o.prepare jobId scope t with
    | .error e => .error (t, e)
    | .ok p => (o.prepareAll jobId scope ts).map (p :: ·)

/-- The final report as a task that can be started. -/
def Orchestrator.prepareReport (o : Orchestrator) (worker : Worker) (j : Job) : Prepared :=
  { assignment := finalReport j, worker
    limitMs := if o.settings.enforceTimeouts then some defaultTimeoutMs else none
    retries := 0, continues := false }

/-- Whether all dependencies of a task are among the completed tasks. -/
def Task.isReady (t : Task) (completed : NameSet) : Bool :=
  t.dependencies.names.all fun d => d ∈ completed

/-- Records the failure of a task, unless the job has ended. -/
def Orchestrator.recordFailure (o : Orchestrator) (j : Job) (task : String) (worker : WorkerKind)
    (error : ExecutionError) (continued : Bool) (now : Instant) : Orchestrator :=
  if j.isTerminal then o
  else
    (o.setJob j.id (j.failTask task ⟨worker, error.message, now⟩ continued)).emit
      (.taskFailed j.id task worker error.message continued)

/-- What a step gives: the orchestrator, the run, and a task that was started. -/
structure Stepped where
  orchestrator : Orchestrator
  run : Run
  launched : Option Prepared := none

namespace Run

/-- The run at another stage. -/
def enter (r : Run) (stage : Stage) : Run := { r with stage }

/-- Whether the run waits for an outcome or is over. -/
def isAwaiting (r : Run) : Bool :=
  match r.stage with
  | .waiting (_ + 1) _ | .awaitingReport | .ended _ | .panicked _ => true
  | _ => false

/-- Begins a round. -/
def beginRound (r : Run) (o : Orchestrator) (j : Job) (pending : List Task) : Run :=
  if j.isTerminal then r.enter .leaving
  else
    let (ready, blocked) := pending.partition fun t => t.isReady j.completedTasks
    if ready.isEmpty then r.enter (.failing (.unresolvedDependency (blocked.map (·.name))))
    else
      match o.prepareAll r.jobId ⟨j.parameters, j.results⟩ ready with
      | .error (t, e) => r.enter (.rejecting t e)
      | .ok prepared => r.enter (.starting prepared 0 blocked)

/-- Records an outcome. -/
def recordOutcome (r : Run) (o : Orchestrator) (j : Job) (outcome : Outcome) (inFlight : Nat)
    (pending : List Task) (now : Instant) : Stepped :=
  match outcome.result with
  | .ok v =>
    { orchestrator :=
        (o.setJob r.jobId (j.completeTask outcome.task v)).emit
          (.taskCompleted r.jobId outcome.task outcome.worker v)
      run := r.enter (.waiting inFlight pending) }
  | .error e =>
    let continued := outcome.continues && e.isContinuable
    { orchestrator := o.recordFailure j outcome.task outcome.worker e continued now
      run := r.enter (if continued then .waiting inFlight pending else .failing e) }

/-- The step at a stage, on the run's job. -/
def stepOn (r : Run) (o : Orchestrator) (j : Job) (now : Instant) : Stepped :=
  match r.stage with
  | .round [] => { orchestrator := o, run := r.enter .completing }
  | .round pending => { orchestrator := o, run := r.beginRound o j pending }
  | .starting [] started pending =>
    { orchestrator := o, run := r.enter (.waiting started pending) }
  | .starting (p :: ready) started pending =>
    { orchestrator :=
        (o.setJob r.jobId (j.startTask p.assignment.name)).emit
          (.taskStarted r.jobId p.assignment.name p.assignment.worker)
      run := r.enter (.starting ready (started + 1) pending)
      launched := some p }
  | .waiting 0 pending => { orchestrator := o, run := r.enter (.round pending) }
  | .recording outcome inFlight pending => r.recordOutcome o j outcome inFlight pending now
  | .rejecting t e =>
    { orchestrator := o.recordFailure j t.name t.worker e false now, run := r.enter (.failing e) }
  | .failing e =>
    { orchestrator :=
        match j.finish? .failed now with
        | none => o
        | some j =>
          (o.setJob r.jobId { j with error := some e.message }).emit
            (.jobFailed r.jobId e.message)
      run := r.enter (.ended (.error e)) }
  | .completing =>
    match j.finish? .completed now with
    | none => { orchestrator := o, run := r.enter .leaving }
    | some j =>
      { orchestrator :=
          (o.setJob r.jobId j).emit (.jobCompleted r.jobId (j.durationMs.getD 0))
        run := r.enter (if o.settings.generateReport then .reporting else .leaving) }
  | .reporting =>
    match o.registry.worker? .report with
    | none =>
      { orchestrator :=
          o.emit (.reportFailed r.jobId "レポートワーカーが登録されていません")
        run := r.enter .leaving }
    | some worker =>
      { orchestrator := o, run := r.enter .awaitingReport
        launched := some (o.prepareReport worker j) }
  | .leaving => { orchestrator := o, run := r.enter (.ended (.ok j)) }
  | .waiting (_ + 1) _ | .awaitingReport | .ended _ | .panicked _ => { orchestrator := o, run := r }

/-- One step.  A run whose job is not known ends at once. -/
def step (r : Run) (o : Orchestrator) (now : Instant) : Stepped :=
  if r.isAwaiting then { orchestrator := o, run := r }
  else
    match o.job? r.jobId with
    | none => { orchestrator := o, run := r.enter (.ended (.error (.jobNotFound r.jobId))) }
    | some j => r.stepOn o j now

/-- Delivers the outcome of a started task: its worker's activity is counted,
and the task is no longer current, unless the job has ended. -/
def deliver (r : Run) (o : Orchestrator) (outcome : Outcome) (now : Instant) :
    Orchestrator × Run :=
  match r.stage with
  | .waiting (inFlight + 1) pending =>
    let o := o.countActivity outcome.worker now
    match o.job? r.jobId with
    | none => (o, r.enter (.ended (.error (.jobNotFound r.jobId))))
    | some j =>
      if j.isTerminal then (o, r.enter .leaving)
      else
        (o.setJob r.jobId (j.endTask outcome.task),
         r.enter (.recording outcome inFlight pending))
  | .awaitingReport =>
    match outcome.result with
    | .error (.taskPanicked _ message) => (o, r.enter (.panicked message))
    | .error e =>
      ((o.countActivity .report now).emit (.reportFailed r.jobId e.message), r.enter .leaving)
    | .ok report =>
      let o := o.countActivity .report now
      match o.job? r.jobId with
      | none => (o, r.enter .leaving)
      | some j =>
        ((o.setJob r.jobId { j with finalReport := some report }).emit
          (.reportGenerated r.jobId report),
         r.enter .leaving)
  | _ => (o, r)

end Run

/-- Starts a job on the workflow of an identifier. -/
def Orchestrator.start (o : Orchestrator) (workflowId jobId : String) (parameters : Dict Json)
    (now : Instant) : Except ExecutionError Run × Orchestrator :=
  match o.workflows.get? workflowId with
  | none => (.error (.workflowNotFound workflowId), o)
  | some w =>
    let o := { o with jobs := o.jobs ++ [Job.new jobId w parameters now] }
    (.ok ⟨jobId, .round w.tasks⟩, o.emit (.jobStarted jobId w.id))

end Runbook
