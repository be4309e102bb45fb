/-
# Validation of workflows

A workflow can be run when it has a name and tasks, no two tasks share a name,
every dependency is a task of the workflow, and no task depends on itself, not
even through others.  Every fault is reported; one does not hide another.
-/

import Runbook.Text.Blank
import Runbook.Workflow.Basic

namespace Runbook

/-- A reason why a workflow cannot be run. -/
inductive Fault where
  | unnamed
  | noTasks
  | duplicateTask (name : String)
  | unknownDependency (task dependency : String)
  | cycle (task : String)
deriving DecidableEq

/-- The wording of a fault. -/
def Fault.message : Fault → String
  | .unnamed => "ワークフロー名は必須です"
  | .noTasks => "ワークフローには1つ以上のタスクが必要です"
  | .duplicateTask name => "タスク名 \"" ++ name ++ "\" が重複しています"
  | .unknownDependency task dependency =>
    "タスク \"" ++ task ++ "\" が未知のタスク \"" ++ dependency ++ "\" に依存しています"
  | .cycle task => "循環依存が検出されました（タスク \"" ++ task ++ "\"）"

/-- A workflow that cannot be had. -/
inductive WorkflowError where
  | unreadable (path detail : String)
  | invalid (errors : List String)
deriving DecidableEq

/-- The wording of the error. -/
def WorkflowError.message : WorkflowError → String
  | .unreadable path detail =>
    "ワークフローファイルを読み込めません: " ++ path ++ ": " ++ detail
  | .invalid errors =>
    "ワークフローのバリデーションに失敗しました: " ++ "; ".intercalate errors

/-- What validation found. -/
structure ValidationReport where
  faults : List Fault
  warnings : List String

namespace ValidationReport

/-- Whether the workflow can be run. -/
def valid (r : ValidationReport) : Bool := r.faults.isEmpty

/-- The wordings of the faults. -/
def errors (r : ValidationReport) : List String := r.faults.map Fault.message

/-- Accepts the workflow, or refuses it with all its faults. -/
def toExcept (r : ValidationReport) : Except WorkflowError Unit :=
  if r.valid then .ok () else .error (.invalid r.errors)

end ValidationReport

namespace Workflow

/-- The faults of tasks that repeat a name; `seen` are the names so far. -/
def duplicateFaults : (seen names : List String) → List Fault
  | _, [] => []
  | seen, n :: ns =>
    if n ∈ seen then .duplicateTask n :: duplicateFaults seen ns
    else duplicateFaults (n :: seen) ns

/-- The faults of dependencies that are no task of the workflow. -/
def unknownFaults (names : List String) (tasks : List Task) : List Fault :=
  tasks.flatMap fun t =>
    (t.dependencies.names.filter fun d => d ∉ names).map (.unknownDependency t.name)

/-- The dependencies of each task name; the last task of a name counts. -/
def dependencyGraph (w : Workflow) : Dict NameSet :=
  .ofList (w.tasks.map fun t => (t.name, t.dependencies))

/-- How far a search for a cycle has got: the nodes that it has visited, and the
edges that it has followed, in their order. -/
structure Search where
  visited : NameSet := .empty
  followed : List (String × String) := []

/-- The edge from the head of the path to a node.  To the nodes from which the
search starts there is none. -/
def edgeTo (path : List String) (node : String) : List (String × String) :=
  path.head?.toList.map fun a => (a, node)

/-- Follows the edge to a node. -/
def Search.follow (s : Search) (path : List String) (node : String) : Search :=
  { s with followed := s.followed ++ edgeTo path node }

/-- Goes into a node. -/
def Search.enter (s : Search) (node : String) : Search :=
  { s with visited := s.visited.insert node }

/-- Follows the edge to a node, and visits it and all that can be reached from it,
depth first.  The search gives up at a node that it meets again on the path to it.
Each node of the graph takes one unit of fuel, so as many units as the graph has
nodes suffice. -/
def visit (graph : Dict NameSet) (fuel : Nat) (path : List String) (s : Search)
    (node : String) : Except (String × Search) Search :=
  let s := s.follow path node
  if node ∈ path then .error (node, s)
  else if node ∈ s.visited then .ok s
  else
    match fuel with
    | 0 => .ok (s.enter node)
    | fuel + 1 =>
      (((graph.get? node).getD .empty).names).foldlM (visit graph fuel (node :: path))
        (s.enter node)

/-- Searches for a cycle from each task in turn. -/
def search (w : Workflow) : Except (String × Search) Search :=
  let graph := w.dependencyGraph
  (w.tasks.map (·.name)).foldlM (visit graph graph.size []) {}

/-- A task that depends on itself, directly or through others. -/
def findCycle (w : Workflow) : Option String :=
  match w.search with
  | .error (node, _) => some node
  | .ok _ => none

/-- All that is wrong with a workflow. -/
def faults (w : Workflow) : List Fault :=
  let names := w.tasks.map (·.name)
  (if Text.isBlankText w.name then [.unnamed] else [])
    ++ (if w.tasks.isEmpty then [.noTasks] else [])
    ++ duplicateFaults [] names
    ++ unknownFaults names w.tasks
    ++ (w.findCycle.map Fault.cycle).toList

/-- Validates a workflow. -/
def validate (w : Workflow) : ValidationReport := ⟨w.faults, w.warnings⟩

end Workflow
end Runbook
