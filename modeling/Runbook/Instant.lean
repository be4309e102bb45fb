/-
# Instants

A point in time is a count of milliseconds since the start of 1970 in universal
time.  Its text is a date and a time of day in the proleptic Gregorian calendar.

The instants are those that a clock can show: the system clock tells no time before
1970 but fails, so the count is never negative.
-/

namespace Runbook

/-- A point in time. -/
structure Instant where
  ms : Nat
deriving DecidableEq, Inhabited

namespace Instant

/-- The milliseconds from one instant to another, none if that one is not later. -/
def since (later earlier : Instant) : Nat := later.ms - earlier.ms

/-- A number with at least the given count of digits. -/
def padded (width n : Nat) : String :=
  let digits := toString n
  String.ofList (List.replicate (width - digits.length) '0') ++ digits

/-- The year, month and day that lie a number of days after the start of 1970.
Years are counted from March, in eras of four hundred. -/
def civil (days : Nat) : Nat × Nat × Nat :=
  let shifted := days + 719468
  let era := shifted / 146097
  let dayOfEra := shifted % 146097
  let yearOfEra :=
    (dayOfEra - dayOfEra / 1460 + dayOfEra / 36524 - dayOfEra / 146096) / 365
  let dayOfYear := dayOfEra - (365 * yearOfEra + yearOfEra / 4 - yearOfEra / 100)
  let march := (5 * dayOfYear + 2) / 153
  let day := dayOfYear - (153 * march + 2) / 5 + 1
  let month := if march < 10 then march + 3 else march - 9
  let year := yearOfEra + 400 * era + (if month ≤ 2 then 1 else 0)
  (year, month, day)

/-- The date and the time of day, without a zone. -/
def localText (t : Instant) : String :=
  let seconds := t.ms / 1000
  let (year, month, day) := civil (seconds / 86400)
  let fraction := if t.ms % 1000 = 0 then "" else "." ++ padded 3 (t.ms % 1000)
  padded 4 year ++ "-" ++ padded 2 month ++ "-" ++ padded 2 day ++ "T"
    ++ padded 2 (seconds / 3600 % 24) ++ ":" ++ padded 2 (seconds / 60 % 60) ++ ":"
    ++ padded 2 (seconds % 60) ++ fraction

/-- The text with the zone as its letter. -/
def text (t : Instant) : String := t.localText ++ "Z"

/-- The text with the zone as an offset. -/
def offsetText (t : Instant) : String := t.localText ++ "+00:00"

end Instant
end Runbook
