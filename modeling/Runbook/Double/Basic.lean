/-
# Binary64 numbers by their bits

A double is a sign bit and a magnitude, the other 63 bits read as a number.  The
finite magnitudes below `infinite` are in the order of the reals they stand for:
`m · 2^q` with `q ≥ -1074` (`parts`).  All arithmetic here is exact on fractions
of natural numbers, followed by one rounding to the nearest magnitude, a half
going to the even one (`nearest`).
-/

namespace Runbook

/-- A binary64 number by its bits. -/
structure Double where
  bits : UInt64
deriving DecidableEq

namespace Double

/-- A power of two. -/
def twoTo (k : Nat) : Nat := Nat.pow 2 k

/-- A power of ten. -/
def tenTo (k : Nat) : Nat := Nat.pow 10 k

/-- The magnitude of infinity; every finite magnitude lies below it. -/
def infinite : Nat := 0x7FF * twoTo 52

/-- The double with the given sign and magnitude. -/
def ofMagnitude (negative : Bool) (magnitude : Nat) : Double :=
  ⟨.ofNat (magnitude + if negative then twoTo 63 else 0)⟩

/-- Whether the sign bit is set. -/
def negative (x : Double) : Bool := twoTo 63 ≤ x.bits.toNat

/-- The bits without the sign. -/
def magnitude (x : Double) : Nat := x.bits.toNat % twoTo 63

/-- A finite magnitude as `m · 2^q`, returned as `(m, q + 1074)`. -/
def parts (magnitude : Nat) : Nat × Nat :=
  let exponent := magnitude / twoTo 52
  let fraction := magnitude % twoTo 52
  if exponent = 0 then (fraction, 0) else (fraction + twoTo 52, exponent - 1)

/-- The quotient rounded to the nearest number, a half to the even one. -/
def roundQuotient (num den : Nat) : Nat :=
  let q := num / den
  let r := num % den
  if 2 * r < den then q
  else if den < 2 * r then q + 1
  else if q % 2 = 0 then q else q + 1

/-- The greatest `e` with `2^e ≤ num / den`, for positive `num` and `den`. -/
def floorLog2 (num den : Nat) : Int :=
  let e : Int := (num.log2 : Int) - den.log2
  if den * twoTo e.toNat ≤ num * twoTo (-e).toNat then e else e - 1

/-- The magnitude nearest to a fraction; `infinite` or more when no finite
magnitude is near enough. -/
def nearest (num den : Nat) : Nat :=
  if num = 0 then 0
  else
    let unit : Int := max (floorLog2 num den - 52) (-1074)
    (unit + 1074).toNat * twoTo 52
      + roundQuotient (num * twoTo (-unit).toNat) (den * twoTo unit.toNat)

/-- The magnitude nearest to the product of two magnitudes. -/
def times (a b : Nat) : Nat :=
  let (m, p) := parts a
  let (n, q) := parts b
  nearest (m * n * twoTo (p + q)) (twoTo (2 * 1074))

/-- The magnitude nearest to the quotient of two magnitudes, the second positive. -/
def divided (a b : Nat) : Nat :=
  let (m, p) := parts a
  let (n, q) := parts b
  nearest (m * twoTo p) (n * twoTo q)

end Double
end Runbook
