/-
# Registries of workers

A registry holds at most one worker for each kind.
-/

import Runbook.Worker.Prompt
import Runbook.Worker.Report

namespace Runbook

/-- Which worker takes the tasks of each kind. -/
structure Registry where
  worker? : WorkerKind → Option Worker

namespace Registry

/-- The registry without workers. -/
def empty : Registry := ⟨fun _ => none⟩

instance : Inhabited Registry := ⟨empty⟩

/-- The registry with a worker in the place of the one of its kind. -/
def register (r : Registry) (w : Worker) : Registry :=
  ⟨fun k => if k = w.kind then some w else r.worker? k⟩

@[simp] theorem worker?_register (r : Registry) (w : Worker) (k : WorkerKind) :
    (r.register w).worker? k = if k = w.kind then some w else r.worker? k := rfl

/-- The registry of the given workers, the last one of a kind. -/
def ofList (ws : List Worker) : Registry := ws.foldl register empty

/-- The kinds that have a worker, in order. -/
def kinds (r : Registry) : List WorkerKind := WorkerKind.all.filter fun k => (r.worker? k).isSome

/-- The kinds that have none, in order. -/
def missing (r : Registry) : List WorkerKind := WorkerKind.all.filter fun k => (r.worker? k).isNone

/-- The number of workers. -/
def size (r : Registry) : Nat := r.kinds.length

/-- The workers that come with the program: prompt workers, and one for reports. -/
def bundled (schemasDir : String) (internet : Bool) : Registry :=
  .ofList <| WorkerKind.all.map fun
    | .report => reportWorker true
    | kind => promptWorker kind schemasDir internet

end Registry
end Runbook
