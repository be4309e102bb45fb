/-
# Parameters of tasks

A parameter is a literal text, or a reference to a value that is known only when
the task is due.  A text stands for a reference when it opens with a dollar sign
and a brace and closes with a brace; what lies between, trimmed, is the
expression.
-/

import Runbook.Json.Basic
import Runbook.Text.Blank
import Runbook.Text.Split

namespace Runbook

/-- The value of a task's parameter, as defined. -/
inductive Parameter where
  | literal (text : String)
  | reference (expression : String)
deriving DecidableEq

namespace Parameter

/-- The expression between the marks of a reference. -/
def expression? (raw : List Char) : Option (List Char) :=
  (Text.dropStart? "$\x7b".toList raw).bind (Text.dropEnd? "\x7d".toList)

/-- The parameter that a text stands for. -/
def ofText (raw : List Char) : Parameter :=
  match expression? raw with
  | some e => .reference (String.ofList (Text.trim e))
  | none => .literal (String.ofList raw)

/-- The written form of a parameter. -/
def text : Parameter → String
  | .literal t => t
  | .reference e => "$\x7b" ++ e ++ "\x7d"

/-- Whether the parameter has to be resolved. -/
def isReference : Parameter → Bool
  | .literal _ => false
  | .reference _ => true

/-- The parameter as a tagged object. -/
def toJson : Parameter → Json
  | .literal t => .object [("kind", .string "literal"), ("value", .string t)]
  | .reference e => .object [("kind", .string "reference"), ("value", .string e)]

end Parameter
end Runbook
