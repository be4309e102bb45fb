/-
# Property lines

A property line sets one field of the open task: `Key: value`.  The key may have
several spellings, the value is kept as written but for blanks, a bold mark in
front and one quote at either end.
-/

import Runbook.Text.Digits
import Runbook.Text.Lower
import Runbook.Workflow.Basic

namespace Runbook

/-- The fields of a task that a line can set. -/
inductive Property where
  | target
  | command
  | tool
  | options
  | schema
  | dependencies
  | timeout
  | retries
  | critical
  | continueFlag
  | output
deriving DecidableEq

namespace Property

/-- The spellings of each property, in lower case. -/
def spellings : Property → List String
  | .target => ["target"]
  | .command => ["command"]
  | .tool => ["tool"]
  | .options => ["params", "parameters"]
  | .schema => ["schema"]
  | .dependencies => ["depends", "after"]
  | .timeout => ["timeout"]
  | .retries => ["retry", "retries"]
  | .critical => ["critical"]
  | .continueFlag => ["continue", "continueonfailure", "continue on failure"]
  | .output => ["output"]

/-- Every property. -/
def all : List Property :=
  [.target, .command, .tool, .options, .schema, .dependencies, .timeout, .retries, .critical,
   .continueFlag, .output]

/-- The property that a lower-case key names. -/
def ofKey? (key : String) : Option Property := all.find? fun p => p.spellings.contains key

/-- The keys that a line outside all tasks is warned of. -/
def known : List String :=
  ["target", "command", "tool", "params", "parameters", "depends", "after", "timeout", "retry",
   "retries", "critical", "continue", "continueonfailure", "continue on failure", "output",
   "schema"]

/-- Whether a lower-case key is one to be warned of. -/
def isKnown (key : String) : Bool := known.contains key

/-- A text without the bold marks in front of it. -/
def dropBold : List Char → List Char
  | '*' :: '*' :: cs => dropBold cs
  | cs => cs

/-- Whether a character is a quote, single or double. -/
def isQuote (c : Char) : Bool := c = '"' || c = '\''

/-- A text without one quote in front. -/
def dropQuote : List Char → List Char
  | [] => []
  | c :: cs => if isQuote c then cs else c :: cs

/-- A text without one quote at either end. -/
def unquote (cs : List Char) : List Char := (dropQuote (dropQuote cs).reverse).reverse

/-- A line without the mark of a list item. -/
def dropBullet (line : List Char) : List Char :=
  ((Text.dropStart? "- ".toList line).or (Text.dropStart? "* ".toList line)).getD line

/-- The key of a property line, in lower case and without bold marks. -/
def keyOf (cs : List Char) : List Char :=
  Text.lower (Text.trim (Text.stripChar '*' (Text.trim cs)))

/-- The value of a property line. -/
def valueOf (cs : List Char) : List Char := unquote (Text.trim (dropBold (Text.trim cs)))

/-- The key and the value of a trimmed line. -/
def split? (line : List Char) : Option (List Char × List Char) := do
  let (key, value) ← Text.splitFirst ':' (Text.trimStart (dropBullet line))
  if (keyOf key).isEmpty then none else some (keyOf key, valueOf value)

/-- The largest number that a line can give. -/
def maxNumber : Nat := 0xFFFFFFFFFFFFFFFF

/-- The largest number of retries. -/
def maxRetries : Nat := 0xFFFFFFFF

/-- The number with which a value starts. -/
def leadingNumber? (value : List Char) : Option Nat :=
  let digits := value.takeWhile Char.isDigit
  if digits.isEmpty || maxNumber < Text.digitsValue digits then none
  else some (Text.digitsValue digits)

/-- Whether a value is the word true, in any case. -/
def isTrue (value : List Char) : Bool := value.map Char.toLower = "true".toList

/-- The names of a list with commas between them. -/
def names (value : List Char) : List String :=
  (((Text.splitAll ',' value).map Text.trim).filter fun n => !n.isEmpty).map String.ofList

/-- The task after a line that gives the property this value.  A number that
cannot be read, and a timeout of zero, leave the task as it is. -/
def apply (p : Property) (value : List Char) (t : Task) : Task :=
  match p with
  | .target => t.withParameter "target" (.ofText value)
  | .command => t.withParameter "command" (.ofText value)
  | .tool => t.withParameter "tool" (.ofText value)
  | .options => t.withParameter "options" (.ofText value)
  | .schema => t.withParameter "schema" (.ofText value)
  | .dependencies => { t with dependencies := t.dependencies.insertAll (names value) }
  | .timeout =>
    match leadingNumber? value with
    | none | some 0 => t
    | some seconds => { t with timeoutMs := min (1000 * seconds) maxNumber }
  | .retries =>
    match leadingNumber? value with
    | none => t
    | some n => { t with retries := min n maxRetries }
  | .critical => { t with critical := isTrue value }
  | .continueFlag => { t with continueFlag := isTrue value }
  | .output => { t with output := some (String.ofList value) }

/-- Whether the value is a timeout of zero, which is not taken. -/
def isZeroTimeout (p : Property) (value : List Char) : Bool :=
  p = .timeout && leadingNumber? value = some 0

end Property
end Runbook
