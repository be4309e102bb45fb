/-
# Executing jobs on a host

A run advances by itself until it waits.  What it has started is attempted beside
it; the outcomes are delivered in the order in which they come in.
-/

import Runbook.Engine.Advance
import Runbook.Host
import Runbook.Inference.Client

namespace Runbook

/-- Whether the run is over. -/
def Run.isOver (r : Run) : Bool :=
  match r.stage with
  | .ended _ | .panicked _ => true
  | _ => false

/-- A run is over when it has an ending. -/
theorem Run.isSome_ending? (r : Run) : r.ending?.isSome = r.isOver := by
  obtain ⟨jobId, stage⟩ := r
  cases stage <;> rfl

namespace Host

variable {m : Type → Type} [Monad m]

/-- How plans are carried out on a host whose inference service is asked by the
given client.  Nobody else can stop a job there, and nothing hangs for longer
than the clock can tell. -/
def performer (h : Host m) (client : InferenceClient) : Performer m :=
  { hang := do
      h.sleep 0x8000000000000000
      return .error (.failed "")
    wait := h.sleep
    stop := fun _ => pure ()
    ask := client.invoke h.web
    load := fun path => return (← h.load path).toOption
    now := h.now }

/-- One attempt at a started task, cut off at its limit. -/
def attempt (h : Host m) (client : InferenceClient) (p : Prepared) (number : Nat) :
    m (Option AttemptEnd) :=
  let ended := (p.worker.attempt p.assignment number).perform (h.performer client)
  match p.limitMs with
  | none => some <$> ended
  | some ms => h.within ms ended

/-- Attempts a started task until no other attempt follows.  `left` attempts may
follow this one, which is the `number`th. -/
def attempts (h : Host m) (client : InferenceClient) (backoffMs : Nat) (p : Prepared) :
    (left number : Nat) → m Outcome
  | 0, number => return p.outcomeOf (← h.attempt client p number)
  | left + 1, number => do
    match p.after (left + 1) (← h.attempt client p number) with
    | some outcome => return outcome
    | none =>
      h.sleep backoffMs
      h.attempts client backoffMs p left (number + 1)

/-- Carries a run to its end with at most the given number of deliveries, and
tells its events as they happen. -/
def drive (h : Host m) (client : InferenceClient) (tell : JobEvent → m Unit) :
    (fuel : Nat) → Run → Orchestrator → m (Run × Orchestrator)
  | 0, r, o => return (r, o)
  | fuel + 1, r, o => do
    let (o, r, launched) := r.advance o (← h.now)
    o.events.forM tell
    let o : Orchestrator := { o with events := [] }
    launched.forM fun p =>
      h.spawn (h.attempts client o.settings.retryBackoffMs p p.retries 1)
    if r.isOver then return (r, o)
    else
      match ← h.await with
      | none => return (r, o)
      | some outcome =>
        let (o, r) := r.deliver o outcome (← h.now)
        h.drive client tell fuel r o

/-- Executes a registered workflow.  The answer is how the run ended, if it did,
and the job as it was left. -/
def execute (h : Host m) (client : InferenceClient) (tell : JobEvent → m Unit)
    (o : Orchestrator) (workflowId : String) (parameters : Dict Json) :
    m (Option RunEnd × Option Job) := do
  let jobId := "job-" ++ (← h.newId)
  let (started, o) := o.start workflowId jobId parameters (← h.now)
  match started with
  | .error e => return (some (.returned (.error e)), none)
  | .ok r =>
    let (r, o) ← h.drive client tell (r.weight + 1) r o
    return (r.ending?, o.job? jobId)

end Host
end Runbook
