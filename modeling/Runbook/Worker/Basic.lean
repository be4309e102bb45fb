/-
# Workers

A worker is given an assignment: a task of a running job whose references have
been replaced by values.  It checks the assignment and attempts it.  An attempt
is a plan, a tree of the things it does and asks for; who carries the plan out
supplies the answers, so a worker itself is a pure value.
-/

import Runbook.Inference.Basic
import Runbook.Instant
import Runbook.Json.Printer
import Runbook.Text.Blank
import Runbook.Workflow.Kind

namespace Runbook

/-- A task as handed to a worker. -/
structure Assignment where
  jobId : String
  name : String
  worker : WorkerKind
  action : Action
  parameters : Dict Json := .empty
  code : Option String := none
  output : Option String := none
  critical : Bool := false

namespace Assignment

/-- The assignment with one parameter set. -/
def withParameter (a : Assignment) (key : String) (value : Json) : Assignment :=
  { a with parameters := a.parameters.insert key value }

/-- The value of a parameter, unless it is null. -/
def parameter? (a : Assignment) (key : String) : Option Json :=
  (a.parameters.get? key).filter fun v => !v.isNull

/-- The text of a parameter: a string that is not blank as it is, any other
value in compact JSON. -/
def parameterText? (a : Assignment) (key : String) : Option String :=
  match a.parameter? key with
  | none => none
  | some (.string s) => if Text.isBlankText s then none else some s
  | some v => some v.compact

/-- The assignment as an object. -/
def toJson (a : Assignment) : Json :=
  .object
    [("job_id", .string a.jobId), ("name", .string a.name), ("worker", .string a.worker.word),
     ("action", .string a.action.word), ("parameters", .ofValues a.parameters),
     ("code", .ofOption .string a.code), ("output", .ofOption .string a.output),
     ("critical", .bool a.critical)]

end Assignment

/-- Why an attempt failed. -/
inductive WorkerError where
  | inference (cause : InferenceError)
  | invalidInput (message : String)
  | failed (message : String)
deriving DecidableEq

/-- The wording of the error. -/
def WorkerError.message : WorkerError → String
  | .inference cause => cause.message
  | .invalidInput message => "入力が不正です: " ++ message
  | .failed message => message

/-- What an attempt does from some point on. -/
inductive Plan where
  | answer (result : Except WorkerError Json)
  | panic (message : String)
  | hang
  | wait (ms : Nat) (next : Plan)
  | stop (jobId : String) (next : Plan)
  | ask (request : InferenceRequest) (next : Except InferenceError Json → Plan)
  | load (path : String) (next : Option ByteArray → Plan)
  | now (next : Instant → Plan)

/-- What a worker says of an assignment before it attempts it. -/
structure TaskValidation where
  valid : Bool
  errors : List String
deriving DecidableEq

namespace TaskValidation

/-- There is nothing wrong. -/
def ok : TaskValidation := ⟨true, []⟩

/-- There are these faults, if any. -/
def invalid (errors : List String) : TaskValidation := ⟨errors.isEmpty, errors⟩

end TaskValidation

/-- A worker.  `check` judges an assignment; `attempt` is told the how-manieth
attempt at it this is, from one on. -/
structure Worker where
  kind : WorkerKind
  capabilities : List String
  check : Assignment → TaskValidation
  attempt : Assignment → Nat → Plan

/-- The fault of an assignment without a name. -/
def unnamedTask : String := "タスク名は必須です"

/-- The least that every worker checks: the task has a name. -/
def checkName (a : Assignment) : TaskValidation :=
  if Text.isBlankText a.name then .invalid [unnamedTask] else .ok

/-- The plan that asks the inference service and ends with its answer, put into
the given form. -/
def Plan.askFor (request : InferenceRequest) (form : Json → Json) : Plan :=
  .ask request fun
    | .ok v => .answer (.ok (form v))
    | .error e => .answer (.error (.inference e))

end Runbook
