/-
# Names of hosts

A host is named by words with full stops between them, or by the number of its
address.  In a name octets may be escaped and characters may have variant forms
(`Text.plain`).  A name whose last word is a number has to be an address: one to
four numbers, in base eight after a zero, in base sixteen after `0x`, of which
each but the last is one octet and the last all that remain.  The address is
written as four octets in decimal.
-/

import Runbook.Text.Digits
import Runbook.Text.Plain
import Runbook.Text.Utf8

namespace Runbook
namespace HostName

/-- The value of a hexadecimal digit that is an octet. -/
def nibble? (b : UInt8) : Option UInt8 :=
  (Text.hexDigit? (Char.ofNat b.toNat)).map Nat.toUInt8

/-- The octets that a text with escapes stands for. -/
def unescape : List UInt8 → List UInt8
  | 0x25 :: a :: b :: bs =>
    match nibble? a, nibble? b with
    | some high, some low => (16 * high + low) :: unescape bs
    | _, _ => 0x25 :: unescape (a :: b :: bs)
  | b :: bs => b :: unescape bs
  | [] => []

/-- Whether a character may stand in a name. -/
def isNameChar (c : Char) : Bool :=
  0x20 < c.toNat && c.toNat ≠ 0x7F && c ∉ "#/:<>?@[\\]^|%".toList

/-- The number that a word of an address stands for. -/
def number? (word : List Char) : Option Nat :=
  let (base, digits) :=
    match word with
    | '0' :: 'x' :: digits => (16, digits)
    | '0' :: c :: digits => (8, c :: digits)
    | digits => (10, digits)
  if !word.isEmpty && digits.all (Text.isDigitOf base) then some (Text.valueIn base digits)
  else none

/-- The words of a name, without the empty one after a full stop at its end. -/
def words (name : List Char) : List (List Char) :=
  let words := Text.splitAll '.' name
  if 1 < words.length && words.getLast? = some [] then words.dropLast else words

/-- Whether a name has to be an address. -/
def isAddress (name : List Char) : Bool :=
  (words name).getLast?.any fun word =>
    (!word.isEmpty && word.all Char.isDigit) || (number? word).isSome

/-- The four octets of a number. -/
def octets (n : Nat) : List Nat :=
  [n / 0x1000000 % 0x100, n / 0x10000 % 0x100, n / 0x100 % 0x100, n % 0x100]

/-- The octets of the address that numbers make; the last fills the octets that
the others leave. -/
def addressOf? (numbers : List Nat) : Option (List Nat) :=
  match numbers.reverse with
  | [] => none
  | last :: others =>
    let (taken, free) := (octets last).splitAt others.length
    if others.length ≤ 3 ∧ others.all (· ≤ 0xFF) ∧ last < 0x100000000 ∧ taken.all (· = 0) then
      some (others.reverse ++ free)
    else none

theorem octets_lt {n b : Nat} (h : b ∈ octets n) : b < 0x100 := by
  simp only [octets, List.mem_cons, List.not_mem_nil, or_false] at h
  omega

/-- An address has four octets. -/
theorem length_addressOf? {numbers address : List Nat} (h : addressOf? numbers = some address) :
    address.length = 4 := by
  unfold addressOf? at h
  split at h
  · simp at h
  · simp only [List.splitAt_eq] at h
    split at h
    · next hn =>
      obtain rfl := Option.some.inj h
      simp only [List.length_append, List.length_reverse, List.length_drop, octets,
        List.length_cons, List.length_nil]
      omega
    · simp at h

/-- The text of an address. -/
def addressText (octets : List Nat) : List Char :=
  (".".intercalate (octets.map Nat.repr)).toList

/-- The name or the address that a text stands for. -/
def parse? (cs : List Char) : Option (List Char) := do
  let octets := unescape (String.ofList cs).toUTF8.toList
  let name := Text.plain (← Text.decode? ⟨octets.toArray⟩)
  if name.isEmpty || !name.all isNameChar then none
  else if isAddress name then
    addressText <$> addressOf? (← (words name).mapM number?)
  else some name

end HostName
end Runbook
