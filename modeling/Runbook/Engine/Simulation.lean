/-
# Simulated time

Runs, and the attempts at their tasks, on a clock that stands still while
anything can be done and then jumps to the next thing that is due.  What is due
at one instant is done in the order in which it was put down.  A run takes up
the outcomes of its tasks only when nothing else is left to do at that instant,
the runs in the order of their start.

Attempts go on after the end of their job; their outcomes are then ignored.
-/

import Runbook.Engine.Advance
import Runbook.Text.Quoted

namespace Runbook

/-- The attempts at a started task: how many there have been at a task of its name
before, and how many may still follow the present one. -/
structure Flight where
  number : Nat
  prepared : Prepared
  earlier : Nat
  left : Nat

/-- The how-manieth attempt at a task of its name the present one is. -/
def Flight.attempt (f : Flight) : Nat := f.earlier + (f.prepared.retries - f.left) + 1

/-- Something that is due. -/
inductive Due where
  | begin (flight : Flight)
  | proceed (flight : Flight) (plan : Plan)
  | expire (flight : Flight)

/-- The flight that something due belongs to. -/
def Due.flight : Due → Flight
  | .begin f | .proceed f _ | .expire f => f

/-- What is written down of attempts: each with its job as it was then, and each
attempt to stop a job with what came of it. -/
inductive LogEntry where
  | call (assignment : Assignment) (number : Nat) (job : Option Job)
  | stop (jobId byJob : String) (result : Except ExecutionError Job)

/-- Whether the entry is an attempt at a task of a job. -/
def LogEntry.isCall (jobId task : String) : LogEntry → Bool
  | .call a _ _ => a.jobId == jobId && a.name == task
  | .stop .. => false

/-- A run with the outcomes that it has not taken up yet. -/
structure Traveller where
  run : Run
  outcomes : List Outcome := []

/-- A simulated world: an orchestrator, its runs, a clock, what is due, the files
that there are, and the answers that the inference service has in store. -/
structure Simulation where
  orchestrator : Orchestrator
  clock : Nat := 0
  agenda : List (Nat × Due) := []
  runs : List Traveller := []
  flights : Nat := 0
  files : String → Option ByteArray := fun _ => none
  replies : List (Except InferenceError Json) := []
  requests : List InferenceRequest := []
  log : List LogEntry := []
  panicMark : String := ""

/-- What is reported of a panic: the mark of the flight and the quoted message. -/
def panicReport (mark message : String) : String :=
  "task " ++ mark ++ " panicked with message " ++ String.ofList (Text.quoted message.toList)

/-- Puts something down behind all that is due no later. -/
def schedule (time : Nat) (d : Due) : List (Nat × Due) → List (Nat × Due)
  | [] => [(time, d)]
  | e :: es => if time < e.1 then (time, d) :: e :: es else e :: schedule time d es

namespace Simulation

/-- The present instant. -/
def now (s : Simulation) : Instant := ⟨s.clock⟩

/-- Puts something down that is due after a while. -/
def later (s : Simulation) (ms : Nat) (d : Due) : Simulation :=
  { s with agenda := schedule (s.clock + ms) d s.agenda }

/-- Puts something down that is due before all else. -/
def next (s : Simulation) (d : Due) : Simulation :=
  { s with agenda := (s.clock, d) :: s.agenda }

/-- Takes all that belongs to a flight off the agenda. -/
def cancel (s : Simulation) (number : Nat) : Simulation :=
  { s with agenda := s.agenda.filter fun e => e.2.flight.number != number }

/-- How many attempts there have been at a task of a job. -/
def callCount (s : Simulation) (jobId task : String) : Nat :=
  (s.log.filter (LogEntry.isCall jobId task)).length

/-- The answer of the inference service to a request. -/
def ask (s : Simulation) (r : InferenceRequest) : Except InferenceError Json × Simulation :=
  let s : Simulation := { s with requests := s.requests ++ [r] }
  match s.replies with
  | [] => (.ok .null, s)
  | reply :: replies => (reply, { s with replies })

/-- Stops a job on behalf of another. -/
def stopFor (s : Simulation) (byJob jobId : String) : Simulation :=
  let (result, orchestrator) := s.orchestrator.stop jobId s.now
  { s with orchestrator, log := s.log ++ [.stop jobId byJob result] }

/-- Carries out a plan as far as it goes at this instant.  The answer is the end
of the attempt, if it is reached. -/
def carry (f : Flight) : Plan → Simulation → Option AttemptEnd × Simulation
  | .answer (.ok v), s => (some (.value v), s)
  | .answer (.error e), s => (some (.error e), s)
  | .panic message, s => (some (.panic (panicReport s.panicMark message)), s)
  | .hang, s => (none, s)
  | .wait 0 next, s => carry f next s
  | .wait (ms + 1) next, s => (none, s.later (ms + 1) (.proceed f next))
  | .stop jobId next, s => carry f next (s.stopFor f.prepared.assignment.jobId jobId)
  | .ask request next, s =>
    let (reply, s) := s.ask request
    carry f (next reply) s
  | .load path next, s => carry f (next (s.files path)) s
  | .now next, s => carry f (next s.now) s

/-- Gives an outcome to the run of its job. -/
def post (s : Simulation) (jobId : String) (outcome : Outcome) : Simulation :=
  { s with
    runs := s.runs.map fun t =>
      if t.run.jobId == jobId then { t with outcomes := t.outcomes ++ [outcome] } else t }

/-- What follows an attempt, which may have ended or reached its limit: its
outcome goes to the run, or another attempt is due. -/
def afterAttempt (s : Simulation) (f : Flight) (e : Option AttemptEnd) : Simulation :=
  let s := s.cancel f.number
  match f.prepared.after f.left e with
  | some outcome => s.post f.prepared.assignment.jobId outcome
  | none =>
    let again : Due := .begin { f with left := f.left - 1 }
    match s.orchestrator.settings.retryBackoffMs with
    | 0 => s.next again
    | ms => s.later ms again

/-- Goes on with an attempt. -/
def proceed (s : Simulation) (f : Flight) (plan : Plan) : Simulation :=
  match carry f plan s with
  | (none, s) => s
  | (some e, s) => s.afterAttempt f (some e)

/-- Begins an attempt. -/
def beginAttempt (s : Simulation) (f : Flight) : Simulation :=
  let a := f.prepared.assignment
  let s : Simulation :=
    { s with log := s.log ++ [.call a f.attempt (s.orchestrator.job? a.jobId)] }
  let s :=
    match f.prepared.limitMs with
    | none => s
    | some ms => s.later ms (.expire f)
  s.proceed f (f.prepared.worker.attempt a f.attempt)

/-- Does what is due. -/
def perform (s : Simulation) : Due → Simulation
  | .begin f => s.beginAttempt f
  | .proceed f plan => s.proceed f plan
  | .expire f => s.afterAttempt f none

/-- A new flight for a started task. -/
def newFlight (s : Simulation) (p : Prepared) : Flight × Simulation :=
  (⟨s.flights, p, s.callCount p.assignment.jobId p.assignment.name, p.retries⟩,
   { s with flights := s.flights + 1 })

/-- Replaces the run of a job. -/
def setRun (s : Simulation) (t : Traveller) : Simulation :=
  { s with runs := s.runs.map fun u => if u.run.jobId == t.run.jobId then t else u }

/-- The run of a job. -/
def run? (s : Simulation) (jobId : String) : Option Traveller :=
  s.runs.find? fun t => t.run.jobId == jobId

/-- Launches what a run has started: a task is due at this instant, a final
report is begun at once. -/
def launch (s : Simulation) (r : Run) (p : Prepared) : Simulation :=
  let (f, s) := s.newFlight p
  match r.stage with
  | .awaitingReport => s.beginAttempt f
  | _ => s.later 0 (.begin f)

/-- Lets a run advance, and puts it down with the outcomes left to it. -/
def settle (s : Simulation) (r : Run) (outcomes : List Outcome) : Simulation :=
  let (orchestrator, r, launched) := r.advance s.orchestrator s.now
  let s : Simulation := { s with orchestrator }
  launched.foldl (fun s p => s.launch r p) (s.setRun ⟨r, outcomes⟩)

/-- Lets the run of a job take up its outcomes, at most the given number. -/
def takeUp : (fuel : Nat) → (jobId : String) → Simulation → Simulation
  | 0, _, s => s
  | fuel + 1, jobId, s =>
    match s.run? jobId with
    | none | some ⟨_, []⟩ => s
    | some ⟨r, outcome :: outcomes⟩ =>
      let (orchestrator, r) := r.deliver s.orchestrator outcome s.now
      let s : Simulation := { s with orchestrator }
      takeUp fuel jobId (s.settle r outcomes)

/-- Lets all runs take up their outcomes.  Besides those at hand there may be
that of a final report. -/
def takeUpAll (s : Simulation) : Simulation :=
  s.runs.foldl (fun s t => takeUp (t.outcomes.length + 1) t.run.jobId s) s

/-- Does the next thing, if there is one up to the horizon. -/
def tick (s : Simulation) (horizon : Option Nat) : Option Simulation :=
  match s.agenda with
  | [] => if s.runs.any fun t => !t.outcomes.isEmpty then some s.takeUpAll else none
  | (time, d) :: agenda =>
    if time ≤ s.clock then some ({ s with agenda }.perform d)
    else if s.runs.any fun t => !t.outcomes.isEmpty then some s.takeUpAll
    else if horizon.all fun h => time ≤ h then some { s with clock := time }
    else none

/-- Does one thing after the other, until all is over or nothing is left to do
up to the horizon. -/
def runUntil : (fuel : Nat) → (ended : Simulation → Bool) → (horizon : Option Nat) →
    Simulation → Simulation
  | 0, _, _, s => s
  | fuel + 1, ended, horizon, s =>
    if ended s then s
    else
      match s.tick horizon with
      | none => s
      | some s => runUntil fuel ended horizon s

/-- More things than any simulation does. -/
def fuel : Nat := 0x10000000000

/-- The identifier of the job that is started as the `n`th. -/
def jobName (n : Nat) : String := "job-" ++ toString n

/-- Starts a job on a workflow. -/
def start (s : Simulation) (workflowId : String) (parameters : Dict Json) :
    Except ExecutionError String × Simulation :=
  let jobId := jobName (s.orchestrator.jobs.length + 1)
  let (started, orchestrator) := s.orchestrator.start workflowId jobId parameters s.now
  match started with
  | .error e => (.error e, { s with orchestrator })
  | .ok r =>
    let s : Simulation := { s with orchestrator, runs := s.runs ++ [⟨r, []⟩] }
    (.ok jobId, s.settle r [])

/-- Whether the run of a job is over. -/
def isOver (s : Simulation) (jobId : String) : Bool :=
  (s.run? jobId).all fun t => t.run.ending?.isSome

/-- How the run of a job is over, if it is. -/
def result? (s : Simulation) (jobId : String) : Option RunEnd :=
  (s.run? jobId).bind fun t => t.run.ending?

/-- The time that goes by after an execution, for attempts that outlast it. -/
def restMs : Nat := 86400000

/-- Starts jobs in turn, waits until their runs are over, and lets a day go by.
The answer is how each run ended. -/
def execute (s : Simulation) (starts : List (String × Dict Json)) :
    List (Option RunEnd) × Simulation :=
  let (started, s) :=
    starts.foldl
      (fun (started, s) (workflowId, parameters) =>
        let (r, s) := start s workflowId parameters
        (started ++ [r], s))
      (([] : List (Except ExecutionError String)), s)
  let s :=
    runUntil fuel
      (fun s => started.all fun
        | .ok jobId => s.isOver jobId
        | .error _ => true)
      none s
  let results := started.map fun
    | .ok jobId => s.result? jobId
    | .error e => some (.returned (.error e))
  let horizon := s.clock + restMs
  let s := runUntil fuel (fun _ => false) (some horizon) s
  (results, { s with clock := horizon })

end Simulation
end Runbook
