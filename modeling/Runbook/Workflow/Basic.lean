/-
# Workflows

A workflow is a list of tasks, which depend on each other by name, grouped into
phases.  Phases order the text, not the execution: only dependencies do that.
-/

import Runbook.Workflow.Kind
import Runbook.Workflow.Parameter

namespace Runbook

/-- The time that an attempt may take if nothing else is said, in milliseconds. -/
def defaultTimeoutMs : Nat := 300000

/-- One task of a workflow, as defined. -/
structure Task where
  name : String
  phase : String
  worker : WorkerKind
  action : Action
  parameters : Dict Parameter := .empty
  dependencies : NameSet := .empty
  timeoutMs : Nat := defaultTimeoutMs
  retries : Nat := 0
  critical : Bool := false
  continueFlag : Bool := false
  output : Option String := none
  code : Option String := none

namespace Task

/-- Whether the workflow goes on after a failure of this task: it is set to
continue and it is not critical. -/
def continuesOnFailure (t : Task) : Bool := t.continueFlag && !t.critical

/-- The task with one parameter set. -/
def withParameter (t : Task) (key : String) (p : Parameter) : Task :=
  { t with parameters := t.parameters.insert key p }

/-- The task as an object. -/
def toJson (t : Task) : Json :=
  .object
    [("name", .string t.name), ("phase", .string t.phase), ("worker", .string t.worker.word),
     ("action", .string t.action.word), ("parameters", .ofDict Parameter.toJson t.parameters),
     ("dependencies", .ofStrings t.dependencies.names), ("timeout_ms", .ofNat t.timeoutMs),
     ("retry", .ofNat t.retries), ("critical", .bool t.critical),
     ("continue_on_failure", .bool t.continueFlag), ("output", .ofOption .string t.output),
     ("code", .ofOption .string t.code)]

end Task

/-- A phase: a heading, its place among the headings from one on, and the names
of the tasks under it. -/
structure Phase where
  name : String
  order : Nat
  tasks : List String := []

/-- The phase as an object. -/
def Phase.toJson (p : Phase) : Json :=
  .object
    [("name", .string p.name), ("order", .ofNat p.order), ("tasks", .ofStrings p.tasks)]

/-- A workflow. -/
structure Workflow where
  id : String := ""
  name : String := ""
  description : String := ""
  metadata : Dict String := .empty
  phases : List Phase := []
  tasks : List Task := []
  warnings : List String := []

instance : Inhabited Workflow := ⟨{}⟩

/-- Notes a task's name in the last phase of the given name. -/
def enlist (phase task : String) : List Phase → List Phase
  | [] => []
  | p :: ps =>
    if ps.any (·.name == phase) then p :: enlist phase task ps
    else if p.name = phase then { p with tasks := p.tasks ++ [task] } :: ps
    else p :: ps

/-- Noting a task changes no phase's name. -/
theorem map_name_enlist (phase task : String) (ps : List Phase) :
    (enlist phase task ps).map (·.name) = ps.map (·.name) := by
  induction ps with
  | nil => rfl
  | cons p ps ih =>
    rw [enlist]
    split
    · rw [List.map_cons, ih, List.map_cons]
    · split <;> rfl

namespace Workflow

/-- The task of a name, the first if several have it. -/
def task? (w : Workflow) (name : String) : Option Task := w.tasks.find? fun t => t.name == name

/-- The workflow with one task more, which is noted in its phase. -/
def pushTask (w : Workflow) (t : Task) : Workflow :=
  { w with phases := enlist t.phase t.name w.phases, tasks := w.tasks ++ [t] }

/-- The workflow as an object. -/
def toJson (w : Workflow) : Json :=
  .object
    [("id", .string w.id), ("name", .string w.name), ("description", .string w.description),
     ("metadata", .ofDict .string w.metadata), ("phases", .array (w.phases.map Phase.toJson)),
     ("tasks", .array (w.tasks.map Task.toJson)), ("warnings", .ofStrings w.warnings)]

end Workflow
end Runbook
