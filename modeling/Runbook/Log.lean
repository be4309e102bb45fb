/-
# The log

A record of the log has a level, a message and fields.  The settings say which
levels are kept and how records look.
-/

import Runbook.Instant
import Runbook.Json.Printer
import Runbook.Settings.Basic

namespace Runbook

/-- Something that is put down in the log. -/
structure LogRecord where
  level : LogLevel
  message : String
  fields : List (String × String) := []

namespace LogRecord

/-- The record as a line. -/
def line (r : LogRecord) (t : Instant) : LogFormat → String
  | .pretty =>
    t.text ++ " " ++ r.level.name ++ " " ++ r.message
      ++ String.join (r.fields.map fun (k, v) => " " ++ k ++ "=" ++ v)
  | .json =>
    (Json.object
      [("timestamp", .string t.text), ("level", .string r.level.name),
       ("fields", .object
         (("message", .string r.message) :: r.fields.map fun (k, v) => (k, .string v)))]).compact

end LogRecord

namespace LogSettings

/-- The settings of a verbose log: it holds at least the records of debugging. -/
def raised (s : LogSettings) (verbose : Bool) : LogSettings :=
  if verbose && s.level.number < LogLevel.debug.number then { s with level := .debug } else s

/-- Whether records of a level are kept. -/
def admits (s : LogSettings) (level : LogLevel) : Bool := level.number ≤ s.level.number

end LogSettings
end Runbook
