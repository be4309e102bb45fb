/-
# Attempts at a task

A task that is ready is attempted until an attempt gives a value or a panic, or
until no retries are left.  An attempt that takes longer than its limit has
failed by that.
-/

import Runbook.Engine.Error
import Runbook.Worker.Perform

namespace Runbook

/-- A task that can be started: its assignment, the worker that takes it, and
how it is attempted. -/
structure Prepared where
  assignment : Assignment
  worker : Worker
  limitMs : Option Nat
  retries : Nat
  continues : Bool

/-- How a started task ended. -/
structure Outcome where
  task : String
  worker : WorkerKind
  continues : Bool
  result : Except ExecutionError Json

namespace Prepared

/-- The outcome with a result. -/
def outcome (p : Prepared) (result : Except ExecutionError Json) : Outcome :=
  { task := p.assignment.name, worker := p.assignment.worker, continues := p.continues, result }

/-- The outcome of an attempt after which there is no other.  An attempt without
an end has reached its limit.  After a panic the job never goes on. -/
def outcomeOf (p : Prepared) : Option AttemptEnd → Outcome
  | some (.value v) => p.outcome (.ok v)
  | some (.panic message) =>
    { p.outcome (.error (.taskPanicked p.assignment.name message)) with continues := false }
  | some (.error cause) => p.outcome (.error (.taskFailed p.assignment.name cause))
  | none => p.outcome (.error (.taskTimeout p.assignment.name (p.limitMs.getD 0)))

end Prepared

/-- Whether another attempt may follow one that ended so: it has failed or
reached its limit. -/
def AttemptEnd.allowsRetry : Option AttemptEnd → Bool
  | some (.value _) | some (.panic _) => false
  | some (.error _) | none => true

/-- What comes of the end of an attempt after which the given number of attempts
are left: an outcome, or none if another attempt follows. -/
def Prepared.after (p : Prepared) (left : Nat) (e : Option AttemptEnd) : Option Outcome :=
  if left != 0 && AttemptEnd.allowsRetry e then none else some (p.outcomeOf e)

end Runbook
