/-
# Reading numbers

A number is an optional minus, digits without a needless leading zero, and
optionally a fraction and an exponent.

Whole numbers between `-2^63` and `2^64 - 1` are exact; the text `-0` is the
double `-0.0`.  All other numbers are doubles: the digits are taken into an
unsigned 64-bit number until one no longer fits (further ones only count, before
the point, or are dropped, after it), that number is rounded to a double and
multiplied or divided by the rounded power of ten.  A result beyond the finite
doubles is refused.
-/

import Runbook.Json.Basic

namespace Runbook
namespace Json

/-- The value of a decimal digit. -/
def digitValue (c : Char) : Nat := c.toNat - '0'.toNat

/-- Takes digits while the number stays below `2^64`; gives the number and the
digits left over. -/
def takeDigits (n : Nat) : List Char → Nat × List Char
  | [] => (n, [])
  | c :: cs =>
    let next := n * 10 + digitValue c
    if next < 0x10000000000000000 then takeDigits next cs else (n, c :: cs)

/-- `magnitude · 10^exponent` by one rounded product or quotient with a power of
ten up to `10^308`, smaller exponents in steps. -/
def scale (magnitude : Nat) (exponent : Int) : Option Nat :=
  if 0 ≤ exponent then
    if exponent ≤ 308 then
      let scaled := Double.times magnitude (Double.nearest (Double.tenTo exponent.toNat) 1)
      if scaled < Double.infinite then some scaled else none
    else if magnitude = 0 then some 0 else none
  else if -308 ≤ exponent then
    some (Double.divided magnitude (Double.nearest (Double.tenTo (-exponent).toNat) 1))
  else if magnitude = 0 then some 0
  else scale (Double.divided magnitude (Double.nearest (Double.tenTo 308) 1)) (exponent + 308)
termination_by (-exponent).toNat
decreasing_by omega

/-- The double of a significand and an exponent. -/
def doubleOf (negative : Bool) (significand : Nat) (exponent : Int) : Option Number :=
  (scale (Double.nearest significand 1) exponent).map fun m => .double (.ofMagnitude negative m)

/-- A whole number in the 64-bit range, and the double where it leaves the range
or is a negative zero. -/
def wholeOf (negative : Bool) (n : Nat) : Number :=
  if !negative then .whole n
  else if n = 0 || 0x8000000000000000 < n then .double (.ofMagnitude true (Double.nearest n 1))
  else .whole (-n)

/-- The digits of a text that begins with at least one. -/
def digitRun? (cs : List Char) : Option (List Char × List Char) :=
  match cs.takeWhile Char.isDigit with
  | [] => none
  | ds => some (ds, cs.dropWhile Char.isDigit)

/-- The fraction after a point, if there is one. -/
def fraction? : List Char → Option (Option (List Char) × List Char)
  | '.' :: cs => (digitRun? cs).map fun (ds, rest) => (some ds, rest)
  | cs => some (none, cs)

/-- The exponent that ends a number: its sign and digits. -/
def exponent? : List Char → Option (Option (Bool × List Char))
  | [] => some none
  | e :: cs =>
    if e = 'e' ∨ e = 'E' then
      let (negative, cs) :=
        match cs with
        | '+' :: cs => (false, cs)
        | '-' :: cs => (true, cs)
        | cs => (false, cs)
      match digitRun? cs with
      | some (ds, []) => some (some (negative, ds))
      | _ => none
    else none

/-- The number that the parts of a numeral stand for. -/
def numberOf (negative : Bool) (digits : List Char) (fraction : Option (List Char))
    (exponent : Option (Bool × List Char)) : Option Number :=
  let (significand, beyond) := takeDigits 0 digits
  match fraction, exponent, beyond with
  | none, none, [] => some (wholeOf negative significand)
  | _, _, _ =>
    let places := fraction.getD []
    let (significand, dropped) := takeDigits significand places
    let point : Int := (beyond.length : Int) - (places.length - dropped.length : Nat)
    match exponent with
    | none => doubleOf negative significand point
    | some (down, ds) =>
      let e : Int := ds.foldl (fun n c => n * 10 + digitValue c) 0
      if 0x80000000 ≤ e then
        if down || significand = 0 then some (.double (.ofMagnitude negative 0)) else none
      else doubleOf negative significand (if down then point - e else point + e)

/-- Reads the text of one number. -/
def readNumber? (cs : List Char) : Option Number := do
  let (negative, cs) :=
    match cs with
    | '-' :: cs => (true, cs)
    | cs => (false, cs)
  let (digits, cs) ← digitRun? cs
  if digits.head? = some '0' && 1 < digits.length then none
  let (fraction, cs) ← fraction? cs
  let exponent ← exponent? cs
  numberOf negative digits fraction exponent

end Json
end Runbook
