/-
# The archive of outcomes

The outcome of each task is kept in a file of its own in the directory of
results.  The file's name tells whether the task succeeded, its worker, its name
and the millisecond in which it was saved.
-/

import Runbook.Engine.Event
import Runbook.Host

namespace Runbook

/-- A task's outcome as it is kept: its value, or the wording of its error. -/
structure ArchiveRecord where
  worker : WorkerKind
  task : String
  outcome : Except String Json

/-- A record that could not be saved, with the system's text. -/
structure ArchiveError where
  detail : String
deriving DecidableEq

/-- The wording of the error. -/
def ArchiveError.message (e : ArchiveError) : String :=
  "結果ファイルを保存できません: " ++ e.detail

namespace ArchiveRecord

/-- The record of an event; only the ends of tasks are kept. -/
def ofEvent? : JobEvent → Option ArchiveRecord
  | .taskCompleted _ task worker result => some ⟨worker, task, .ok result⟩
  | .taskFailed _ task worker error _ => some ⟨worker, task, .error error⟩
  | _ => none

/-- The word for the kind of outcome. -/
def word (r : ArchiveRecord) : String :=
  match r.outcome with
  | .ok _ => "result"
  | .error _ => "failure"

/-- A task's name with an underscore for each slash of either kind. -/
def flatName (task : String) : String :=
  String.ofList (task.toList.map fun c => if c = '/' || c = '\\' then '_' else c)

/-- The name of the file for a record that is saved at an instant. -/
def fileName (r : ArchiveRecord) (t : Instant) : String :=
  "-".intercalate [r.word, r.worker.word, flatName r.task, toString t.ms] ++ ".json"

/-- The record as an object. -/
def toJson (r : ArchiveRecord) (t : Instant) : Json :=
  .object
    [("worker", .string r.worker.word), ("task", .string r.task),
     match r.outcome with
     | .ok v => ("result", v)
     | .error e => ("error", .string e),
     ("timestamp", .string t.offsetText)]

/-- Saves a record in a directory, which is made if it is not there.  The answer
is the path of the file.  The record and the name of its file each have the time
at which they are made. -/
def save {m : Type → Type} [Monad m] (h : Host m) (dir : String) (r : ArchiveRecord) :
    m (Except ArchiveError String) := do
  let stamp ← h.now
  let path := Path.join dir (r.fileName (← h.now))
  match ← h.makeDirectories dir with
  | .error detail => return .error ⟨detail⟩
  | .ok () =>
    match ← h.store path (r.toJson stamp).pretty.toUTF8 with
    | .error detail => return .error ⟨detail⟩
    | .ok () => return .ok path

/-- Saves the outcome that an event tells of, if it is the end of a task. -/
def record {m : Type → Type} [Monad m] (h : Host m) (dir : String) (e : JobEvent) :
    m (Option (Except ArchiveError String)) := do
  match ofEvent? e with
  | none => return none
  | some r => return some (← r.save h dir)

end ArchiveRecord
end Runbook
