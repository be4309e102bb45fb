/-
# References to values

A reference names a value by a path of segments with dots between them.  It
starts at a job's parameter, if it opens with `job.`, or else at the result of a
task.  Names may hold dots themselves: the longest name that fits is taken, and
no shorter one is tried if the rest of the path then leads nowhere.
-/

import Runbook.Text.Blank
import Runbook.Text.Digits
import Runbook.Workflow.Basic

namespace Runbook

/-- The value that a segment leads to: the field of an object, the item of an
array at the index that the segment is. -/
def Json.member? (v : Json) (segment : List Char) : Option Json :=
  match v with
  | .object fields => lookupEntry (String.ofList segment) fields
  | .array items => (Text.natural? segment).bind fun i => items[i]?
  | _ => none

/-- The value at the end of a path. -/
def Json.walk? (v : Json) (path : List Char) : Option Json :=
  (Text.splitAll '.' path).foldlM member? v

/-- The ways to cut a text at one of its dots, the shortest first part first. -/
def cutsAtDots : List Char → List (List Char × List Char)
  | [] => []
  | c :: cs =>
    let later := (cutsAtDots cs).map fun (a, b) => (c :: a, b)
    if c = '.' then ([], cs) :: later else later

/-- The value of a name, or what the rest of a text leads to from the value of
the longest name in front of a dot. -/
def resolveIn (values : Dict Json) (text : List Char) : Option Json :=
  match values.get? (String.ofList text) with
  | some v => some v
  | none =>
    let root := (cutsAtDots text).reverse.findSome? fun (name, path) =>
      (values.get? (String.ofList name)).map fun v => (v, path)
    root.bind fun (v, path) => v.walk? path

/-- The values that references can name. -/
structure Scope where
  parameters : Dict Json
  results : Dict Json

namespace Scope

/-- The value of an expression. -/
def resolve (s : Scope) (expression : List Char) : Option Json :=
  let expression := Text.trim expression
  match Text.dropStart? "job.".toList expression with
  | some rest => resolveIn s.parameters rest
  | none => resolveIn s.results expression

/-- The value of a parameter as defined. -/
def value? (s : Scope) : Parameter → Option Json
  | .literal text => some (.string text)
  | .reference expression => s.resolve expression.toList

/-- The values of a task's parameters, null for those that have none. -/
def values (s : Scope) (t : Task) : Dict Json :=
  .ofList (t.parameters.entries.map fun e => (e.1, (s.value? e.2).getD .null))

/-- The expressions of a task's parameters that have no value, in the order of
the parameters. -/
def unresolved (s : Scope) (t : Task) : List String :=
  t.parameters.values.filterMap fun
    | .literal _ => none
    | .reference expression =>
      if (s.resolve expression.toList).isSome then none else some expression

end Scope
end Runbook
