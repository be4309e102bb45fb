/-
# Writing JSON

Doubles are written with the fewest digits that read back, by position from
`10^(-5)` up to `10^16` and with at least one place, otherwise with an exponent
that carries its sign (`numberText`).  Strings escape the quote, the backslash and what lies below
U+0020, and nothing else.  The compact form has no blanks; the pretty form
indents by two spaces and keeps empty arrays and objects on one line.
-/

import Runbook.Json.Basic
import Runbook.Double.Shortest

namespace Runbook
namespace Json

/-- Drops trailing zeros of a positive number and counts them. -/
def dropZeros : (fuel n zeros : Nat) → Nat × Nat
  | 0, n, zeros => (n, zeros)
  | fuel + 1, n, zeros => if n % 10 = 0 then dropZeros fuel (n / 10) (zeros + 1) else (n, zeros)

/-- The mark of an exponent, its sign and its digits. -/
def exponentText : Int → String
  | .ofNat e => "e+" ++ e.repr
  | .negSucc e => "e-" ++ (e + 1).repr

/-- The text of a positive decimal. -/
def decimalText (d : Double.Decimal) : String :=
  let (n, zeros) := dropZeros 20 d.digits 0
  let digits := n.repr
  let exponent := d.exponent + zeros
  let point : Int := digits.length + exponent
  if 0 ≤ exponent ∧ point ≤ 16 then
    digits ++ String.ofList (List.replicate exponent.toNat '0') ++ ".0"
  else if 0 < point ∧ point ≤ 16 then
    String.ofList (digits.toList.take point.toNat) ++ "."
      ++ String.ofList (digits.toList.drop point.toNat)
  else if -5 < point ∧ point ≤ 0 then
    "0." ++ String.ofList (List.replicate (-point).toNat '0') ++ digits
  else
    let mantissa :=
      match digits.toList with
      | c :: c' :: cs => String.ofList (c :: '.' :: c' :: cs)
      | cs => String.ofList cs
    mantissa ++ exponentText (point - 1)

/-- The text of a finite double. -/
def doubleText (x : Double) : String :=
  (if x.negative then "-" else "")
    ++ if x.magnitude = 0 then "0.0" else decimalText (Double.shortest x.magnitude)

/-- The text of a number. -/
def numberText : Number → String
  | .whole (.ofNat n) => n.repr
  | .whole (.negSucc n) => "-" ++ (n + 1).repr
  | .double x => doubleText x

/-- A hexadecimal digit in lower case. -/
def hexDigit (n : Nat) : Char := if n < 10 then Char.ofNat (48 + n) else Char.ofNat (87 + n)

/-- A character inside a string. -/
def escape (c : Char) : List Char :=
  if c = '"' then ['\\', '"']
  else if c = '\\' then ['\\', '\\']
  else if 0x20 ≤ c.toNat then [c]
  else if c = '\n' then ['\\', 'n']
  else if c = '\t' then ['\\', 't']
  else if c = '\r' then ['\\', 'r']
  else if c.toNat = 8 then ['\\', 'b']
  else if c.toNat = 12 then ['\\', 'f']
  else ['\\', 'u', '0', '0', hexDigit (c.toNat / 16), hexDigit (c.toNat % 16)]

/-- A string with its quotes. -/
def quoted (s : String) : String :=
  String.ofList ('"' :: s.toList.flatMap escape ++ ['"'])

mutual

/-- The value without blanks. -/
def compact : Json → String
  | .null => "null"
  | .bool b => if b then "true" else "false"
  | .number n => numberText n
  | .string s => quoted s
  | .array items => "[" ++ compactItems items ++ "]"
  | .object fields => "\x7b" ++ compactFields fields ++ "\x7d"

/-- The items of an array without blanks. -/
def compactItems : List Json → String
  | [] => ""
  | [v] => compact v
  | v :: v' :: vs => compact v ++ "," ++ compactItems (v' :: vs)

/-- The fields of an object without blanks. -/
def compactFields : List (String × Json) → String
  | [] => ""
  | [(k, v)] => quoted k ++ ":" ++ compact v
  | (k, v) :: e :: es => quoted k ++ ":" ++ compact v ++ "," ++ compactFields (e :: es)

end

/-- A new line at a depth. -/
def newLine (depth : Nat) : String := String.ofList ('\n' :: List.replicate (2 * depth) ' ')

mutual

/-- The indented value, begun at a depth. -/
def prettyAt (depth : Nat) : Json → String
  | .null => "null"
  | .bool b => if b then "true" else "false"
  | .number n => numberText n
  | .string s => quoted s
  | .array [] => "[]"
  | .array (v :: vs) => "[" ++ prettyItems (depth + 1) (v :: vs) ++ newLine depth ++ "]"
  | .object [] => "\x7b\x7d"
  | .object (e :: es) => "\x7b" ++ prettyFields (depth + 1) (e :: es) ++ newLine depth ++ "\x7d"

/-- The items of an array, each on lines of its own. -/
def prettyItems (depth : Nat) : List Json → String
  | [] => ""
  | [v] => newLine depth ++ prettyAt depth v
  | v :: v' :: vs => newLine depth ++ prettyAt depth v ++ "," ++ prettyItems depth (v' :: vs)

/-- The fields of an object, each on lines of its own. -/
def prettyFields (depth : Nat) : List (String × Json) → String
  | [] => ""
  | [(k, v)] => newLine depth ++ quoted k ++ ": " ++ prettyAt depth v
  | (k, v) :: e :: es =>
    newLine depth ++ quoted k ++ ": " ++ prettyAt depth v ++ "," ++ prettyFields depth (e :: es)

end

/-- The indented value. -/
def pretty (v : Json) : String := prettyAt 0 v

end Json
end Runbook
