/-
# Libraries of workflows

A directory of documents is a library: each file whose extension is `md` holds a
workflow.
-/

import Runbook.Host
import Runbook.Workflow.Document
import Runbook.Workflow.Validation

namespace Runbook

/-- A workflow's document in a library. -/
structure LibraryEntry where
  name : String
  path : String
  size : Nat

namespace LibraryEntry

/-- The document that stands in a directory under the given entry, if it is one. -/
def ofFile? (dir : String) (e : FileEntry) : Option LibraryEntry :=
  if e.isFile && Path.extension? e.name = some "md" then
    some ⟨(Path.stem? e.name).getD "", Path.join dir e.name, e.size⟩
  else none

end LibraryEntry

/-- The workflow of a file, which may be named after it, from what reading the
file gave. -/
def Workflow.ofFile (path : String) : Except String (List Char) → Except WorkflowError Workflow
  | .error detail => .error (.unreadable path detail)
  | .ok text => .ok (.parseAs (Path.stem? path) text)

namespace Host

variable {m : Type → Type} [Monad m]

/-- The documents of a library, ordered by name.  What is no directory has none. -/
def library (h : Host m) (dir : String) : m (Except String (List LibraryEntry)) := do
  if ← h.isDirectory dir then
    match ← h.entries dir with
    | .error detail => return .error detail
    | .ok entries =>
      return .ok
        ((entries.filterMap (LibraryEntry.ofFile? dir)).mergeSort fun a b => a.name ≤ b.name)
  else return .ok []

/-- The workflow of a document, which may be named after its file. -/
def loadWorkflow (h : Host m) (path : String) : m (Except WorkflowError Workflow) := do
  return Workflow.ofFile path (← h.loadText path)

end Host
end Runbook
