/-
# UTF-8

Reading octets as characters, one octet at a time.  An octet that cannot go on
with the character under way ends it as malformed and is read again as the first
of another; every malformed piece counts once, so replacing each by U+FFFD is
the customary repair (`decodeLossy`).
-/

namespace Runbook
namespace Text

/-- A character under way: its bits so far, how many octets it still needs, and
the least and the greatest octet that may come next. -/
structure Pending where
  bits : Nat
  owed : Nat
  low : Nat
  high : Nat

/-- What a first octet begins: a whole character, a character under way, or
nothing. -/
def firstOctet (b : Nat) : Option (Char ⊕ Pending) :=
  if b ≤ 0x7F then some (.inl (Char.ofNat b))
  else if 0xC2 ≤ b ∧ b ≤ 0xDF then some (.inr ⟨b - 0xC0, 1, 0x80, 0xBF⟩)
  else if b = 0xE0 then some (.inr ⟨0, 2, 0xA0, 0xBF⟩)
  else if b = 0xED then some (.inr ⟨0xD, 2, 0x80, 0x9F⟩)
  else if 0xE1 ≤ b ∧ b ≤ 0xEF then some (.inr ⟨b - 0xE0, 2, 0x80, 0xBF⟩)
  else if b = 0xF0 then some (.inr ⟨0, 3, 0x90, 0xBF⟩)
  else if 0xF1 ≤ b ∧ b ≤ 0xF3 then some (.inr ⟨b - 0xF0, 3, 0x80, 0xBF⟩)
  else if b = 0xF4 then some (.inr ⟨4, 3, 0x80, 0x8F⟩)
  else none

/-- Reads octets; a malformed piece gives `none`. -/
def decodeFrom : Option Pending → List UInt8 → List (Option Char)
  | none, [] => []
  | some _, [] => [none]
  | pending, b :: bs =>
    let restart (done : List (Option Char)) : List (Option Char) :=
      match firstOctet b.toNat with
      | some (.inl c) => done ++ some c :: decodeFrom none bs
      | some (.inr p) => done ++ decodeFrom (some p) bs
      | none => done ++ none :: decodeFrom none bs
    match pending with
    | none => restart []
    | some p =>
      if p.low ≤ b.toNat ∧ b.toNat ≤ p.high then
        let bits := p.bits * 64 + (b.toNat - 0x80)
        if p.owed ≤ 1 then some (Char.ofNat bits) :: decodeFrom none bs
        else decodeFrom (some ⟨bits, p.owed - 1, 0x80, 0xBF⟩) bs
      else restart [none]

/-- The characters of a well-formed text. -/
def decode? (bytes : ByteArray) : Option (List Char) :=
  (decodeFrom none bytes.toList).mapM id

/-- The characters of any octets, U+FFFD in the place of each malformed piece. -/
def decodeLossy (bytes : ByteArray) : List Char :=
  (decodeFrom none bytes.toList).map fun c => c.getD (Char.ofNat 0xFFFD)

end Text
end Runbook
