/-
# Numbers in digits
-/

import Runbook.Text.Split

namespace Runbook
namespace Text

/-- The number that digits stand for. -/
def digitsValue (ds : List Char) : Nat :=
  ds.foldl (fun n d => 10 * n + (d.toNat - '0'.toNat)) 0

/-- The number of a text that is digits only, after a plus sign if there is one.  It has
to be below 2⁶⁴. -/
def natural? (cs : List Char) : Option Nat :=
  let digits := (dropStart? ['+'] cs).getD cs
  if digits.isEmpty || !digits.all Char.isDigit || UInt64.size ≤ digitsValue digits then none
  else some (digitsValue digits)

/-- The value of a hexadecimal digit. -/
def hexDigit? (c : Char) : Option Nat :=
  if c.isDigit then some (c.toNat - '0'.toNat)
  else if 'a' ≤ c ∧ c ≤ 'f' then some (c.toNat - 'a'.toNat + 10)
  else if 'A' ≤ c ∧ c ≤ 'F' then some (c.toNat - 'A'.toNat + 10)
  else none

/-- Whether a character is a digit of a base, which is at most sixteen. -/
def isDigitOf (base : Nat) (c : Char) : Bool := (hexDigit? c).any (· < base)

/-- The number that digits of a base stand for. -/
def valueIn (base : Nat) (digits : List Char) : Nat :=
  digits.foldl (fun n c => base * n + (hexDigit? c).getD 0) 0

end Text
end Runbook
