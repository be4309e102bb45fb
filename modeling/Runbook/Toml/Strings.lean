/-
# Configuration documents: strings

Four kinds: in double quotes with escapes or in single quotes without, each on
one line or between triple quotes on several.  Control characters other than the
tab stand in none of them.
-/

import Runbook.Text.Digits

namespace Runbook
namespace Toml

/-- Whether a character is a space or a tab. -/
def isSpace (c : Char) : Bool := c = ' ' || c = '\t'

/-- Whether a character must not stand as it is. -/
def isControl (c : Char) : Bool := (c.toNat < 0x20 && c ≠ '\t') || c = '\x7f'

/-- The character whose number the digits give. -/
def codePoint? (digits : List Char) : Option Char := do
  let n ← digits.foldlM (fun n c => (Text.hexDigit? c).map (16 * n + ·)) 0
  if n < 0xD800 ∨ (0xDFFF < n ∧ n < 0x110000) then some (Char.ofNat n) else none

/-- The character of an escape, after its backslash, and the rest. -/
def escaped? : List Char → Option (Char × List Char)
  | 'b' :: cs => some ('\x08', cs)
  | 't' :: cs => some ('\t', cs)
  | 'n' :: cs => some ('\n', cs)
  | 'f' :: cs => some ('\x0c', cs)
  | 'r' :: cs => some ('\r', cs)
  | 'e' :: cs => some ('\x1b', cs)
  | '"' :: cs => some ('"', cs)
  | '\\' :: cs => some ('\\', cs)
  | 'x' :: cs => if cs.length < 2 then none else (codePoint? (cs.take 2)).map (·, cs.drop 2)
  | 'u' :: cs => if cs.length < 4 then none else (codePoint? (cs.take 4)).map (·, cs.drop 4)
  | 'U' :: cs => if cs.length < 8 then none else (codePoint? (cs.take 8)).map (·, cs.drop 8)
  | _ => none

/-- An escape takes at least one character. -/
theorem length_escaped? {cs r : List Char} {c : Char} (h : escaped? cs = some (c, r)) :
    r.length < cs.length := by
  unfold escaped? at h
  split at h <;> (try split at h) <;>
    simp_all only [Option.some.injEq, Prod.mk.injEq, Option.map_eq_some_iff, List.length_cons,
      reduceCtorEq]
  all_goals first | omega | (obtain ⟨_, _, _, rfl⟩ := h; rw [List.length_drop]; omega)

/-- Puts a character in front of what was read. -/
def prepend (c : Char) (r : Option (List Char × List Char)) : Option (List Char × List Char) :=
  r.map fun (cs, rest) => (c :: cs, rest)

/-- A string in double quotes, after the first. -/
def basicString : List Char → Option (List Char × List Char)
  | [] => none
  | '"' :: cs => some ([], cs)
  | '\\' :: cs =>
    match _h : escaped? cs with
    | none => none
    | some (c, rest) => prepend c (basicString rest)
  | c :: cs => if isControl c then none else prepend c (basicString cs)
termination_by cs => cs.length
decreasing_by
  all_goals simp only [List.length_cons]
  · have := length_escaped? _h; omega
  · omega

/-- A string in single quotes, after the first. -/
def literalString : List Char → Option (List Char × List Char)
  | [] => none
  | '\'' :: cs => some ([], cs)
  | c :: cs => if isControl c then none else prepend c (literalString cs)

/-- The text without a line end in front. -/
def dropNewline : List Char → List Char
  | '\n' :: cs => cs
  | '\r' :: '\n' :: cs => cs
  | cs => cs

/-- Whether a text starts with a line end. -/
def startsNewline (cs : List Char) : Bool := (dropNewline cs).length < cs.length

/-- The end of a string between triple quotes: up to two quotes in front of the
closing ones belong to it. -/
def closing? (quote : Char) (cs : List Char) : Option (List Char × List Char) :=
  let run := min ((cs.takeWhile (· = quote)).length) 5
  if run < 3 then none else some (List.replicate (run - 3) quote, cs.drop run)

/-- Whether the first character of a text may stand in a string of several
lines: a carriage return only in a line end. -/
def allowed (c : Char) (cs : List Char) : Bool :=
  c = '\n' || (c = '\r' && cs.head? = some '\n') || !isControl c

/-- A string between triple double quotes, after the first line end.  A
backslash at the end of a line takes the blanks and line ends after it away,
while `skipping` is set. -/
def basicLines (skipping : Bool) : List Char → Option (List Char × List Char)
  | [] => none
  | c :: cs =>
    if skipping && (isSpace c || startsNewline (c :: cs) || c = '\n') then basicLines true cs
    else
      match closing? '"' (c :: cs) with
      | some done => some done
      | none =>
        if c = '\\' then
          if startsNewline (cs.dropWhile isSpace) then basicLines true cs
          else
            match _h : escaped? cs with
            | none => none
            | some (e, rest) => prepend e (basicLines false rest)
        else if allowed c cs then prepend c (basicLines false cs)
        else none
termination_by cs => cs.length
decreasing_by
  all_goals simp only [List.length_cons]
  · omega
  · omega
  · have := length_escaped? _h; omega
  · omega

/-- A string between triple single quotes, after the first line end. -/
def literalLines : List Char → Option (List Char × List Char)
  | [] => none
  | c :: cs =>
    match closing? '\'' (c :: cs) with
    | some done => some done
    | none => if allowed c cs then prepend c (literalLines cs) else none

/-- A string of any kind. -/
def anyString : List Char → Option (List Char × List Char)
  | '"' :: '"' :: '"' :: cs => basicLines false (dropNewline cs)
  | '"' :: cs => basicString cs
  | '\'' :: '\'' :: '\'' :: cs => literalLines (dropNewline cs)
  | '\'' :: cs => literalString cs
  | _ => none

end Toml
end Runbook
