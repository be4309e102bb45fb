/-
# Keywords in names

The worker kind and the action of a task are read off words in its name.  The
text is put in lower case and searched for each keyword as a part of it; the
first group, or the first action, with a hit wins.
-/

import Runbook.Text.Lower
import Runbook.Text.Split
import Runbook.Workflow.Kind

namespace Runbook

/-- The keywords of each worker kind, in the order in which they are tried. -/
def WorkerKind.keywords : List (WorkerKind × List String) :=
  [(.recon, ["recon", "reconnaissance", "discover"]),
   (.exploit, ["exploit", "attack", "payload"]),
   (.scan, ["scan", "enum", "port"]),
   (.analysis, ["analyze", "analysis", "parse"]),
   (.report, ["report", "document", "generate"]),
   (.monitor, ["monitor", "watch", "track"])]

/-- The worker kind that a text speaks of: that of the first group with a
keyword in the text, general if there is none. -/
def WorkerKind.detect (text : List Char) : WorkerKind :=
  let lowered := Text.lower text
  ((keywords.find? fun g => g.2.any fun word => Text.contains word.toList lowered).map (·.1)).getD
    .general

/-- The first action whose word occurs in a text. -/
def Action.detect? (text : List Char) : Option Action :=
  let lowered := Text.lower text
  all.find? fun a => Text.contains a.word.toList lowered

/-- The action that a text speaks of; to execute if it names none. -/
def Action.detect (text : List Char) : Action := (detect? text).getD default

/-- The worker kind of a task: by its name, else by the name of its phase. -/
def WorkerKind.ofTask (name : List Char) (phase : Option (List Char)) : WorkerKind :=
  match detect name, phase with
  | .general, some phase => detect phase
  | kind, _ => kind

/-- The action of a task: by its name, else that of its worker kind. -/
def Action.ofTask (name : List Char) (kind : WorkerKind) : Action :=
  ((detect? name).or kind.primaryAction).getD default

end Runbook
