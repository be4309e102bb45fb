/-
# The fewest digits that read back

The shortest decimal of a positive finite magnitude: the decimals that round to
it fill an interval around it, whose ends count exactly when its last bit is
even.  For one digit, two digits, and so on, the two neighbours of the value on
the grid of decimals with that many digits are tried; the first grid with a
neighbour in the interval wins, of two the nearer, and of two equally near the
one with the even digit.  Seventeen digits always suffice.
-/

import Runbook.Double.Basic

namespace Runbook
namespace Double

/-- A decimal `digits · 10^exponent`. -/
structure Decimal where
  digits : Nat
  exponent : Int

/-- The value of a magnitude and the bounds of the interval that rounds to it,
as multiples of one unit of `2^(-1076)`, and whether the bounds count. -/
structure Rounding where
  value : Nat
  low : Nat
  high : Nat
  closed : Bool

/-- The interval of a positive finite magnitude. -/
def rounding (magnitude : Nat) : Rounding :=
  let (m, q) := parts magnitude
  let below := if m = twoTo 52 ∧ q ≠ 0 then 1 else 2
  ⟨4 * m * twoTo q, (4 * m - below) * twoTo q, (4 * m + 2) * twoTo q, m % 2 = 0⟩

/-- The decimal point of the value: the least `p` with `value < 10^p`. -/
def Rounding.point (r : Rounding) : Int :=
  (Nat.repr (r.value * tenTo 400 / twoTo 1076)).length - 400

/-- The neighbour that the grid of multiples of `10^exponent` offers. -/
def Rounding.neighbour? (r : Rounding) (exponent : Int) : Option Nat :=
  let coarse := twoTo 1076 * tenTo exponent.toNat
  let fine := tenTo (-exponent).toNat
  let inside (c : Nat) : Bool :=
    if r.closed then r.low * fine ≤ c * coarse && c * coarse ≤ r.high * fine
    else r.low * fine < c * coarse && c * coarse < r.high * fine
  let under := r.value * fine / coarse
  let rest := r.value * fine % coarse
  if inside under then
    if inside (under + 1) && (coarse < 2 * rest || (coarse == 2 * rest && under % 2 == 1)) then
      some (under + 1)
    else some under
  else if inside (under + 1) then some (under + 1)
  else none

/-- Tries grids from `count` digits on, `fuel` of them. -/
def Rounding.search (r : Rounding) (point : Int) : (fuel count : Nat) → Decimal
  | 0, _ => ⟨r.value, -1076⟩
  | fuel + 1, count =>
    match r.neighbour? (point - count) with
    | some digits => ⟨digits, point - count⟩
    | none => r.search point fuel (count + 1)

/-- The shortest decimal of a positive finite magnitude. -/
def shortest (magnitude : Nat) : Decimal :=
  let r := rounding magnitude
  r.search r.point 17 1

end Double
end Runbook
