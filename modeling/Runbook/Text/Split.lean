/-
# Cutting texts

Small operations on texts as lists of characters: removing a fixed beginning or
end (`dropStart?`, `dropEnd?`), cutting at the first or at every separator
(`splitFirst`, `splitAll`), searching (`contains`, `cutBefore`) and line
splitting (`lines`).
-/

namespace Runbook
namespace Text

/-- The rest of a text that starts with `start`. -/
def dropStart? : (start cs : List Char) → Option (List Char)
  | [], cs => some cs
  | _ :: _, [] => none
  | s :: start, c :: cs => if s = c then dropStart? start cs else none

/-- A text starts with `start` exactly when it is `start` and the rest. -/
theorem dropStart?_eq_some_iff {start cs r : List Char} :
    dropStart? start cs = some r ↔ cs = start ++ r := by
  induction start generalizing cs with
  | nil => simp [dropStart?]
  | cons s start ih =>
    cases cs with
    | nil => simp [dropStart?]
    | cons c cs =>
      by_cases h : s = c
      · simp [dropStart?, h, ih]
      · simp [dropStart?, h, Ne.symm h]

/-- Whether a text starts with `start`. -/
def startsWith (start cs : List Char) : Bool := (dropStart? start cs).isSome

/-- The rest of a text that ends with `finish`. -/
def dropEnd? (finish cs : List Char) : Option (List Char) :=
  (dropStart? finish.reverse cs.reverse).map List.reverse

/-- Whether `needle` occurs in a text. -/
def contains (needle : List Char) : List Char → Bool
  | [] => needle.isEmpty
  | c :: cs => startsWith needle (c :: cs) || contains needle cs

/-- The part of a text before the first occurrence of `mark`, or the whole text. -/
def cutBefore (mark : List Char) : List Char → List Char
  | [] => []
  | c :: cs => if startsWith mark (c :: cs) then [] else c :: cutBefore mark cs

/-- The parts before and after the first separator. -/
def splitFirst (sep : Char) : List Char → Option (List Char × List Char)
  | [] => none
  | c :: cs =>
    if c = sep then some ([], cs) else (splitFirst sep cs).map fun (a, b) => (c :: a, b)

/-- The part before the separator holds none, and the text is the two parts
around it. -/
theorem splitFirst_eq_some_iff {sep : Char} {cs a b : List Char} :
    splitFirst sep cs = some (a, b) ↔ sep ∉ a ∧ cs = a ++ sep :: b := by
  induction cs generalizing a with
  | nil => simp [splitFirst]
  | cons c cs ih =>
    by_cases h : c = sep
    · subst h
      cases a with
      | nil => simp [splitFirst]
      | cons x a => simpa [splitFirst] using fun h₁ _ h₂ => absurd h₂ h₁
    · cases a with
      | nil => simp [splitFirst, h]
      | cons x a =>
        simp only [splitFirst, h, ↓reduceIte, Option.map_eq_some_iff, Prod.mk.injEq, Prod.exists,
          List.cons.injEq, List.mem_cons, not_or, List.cons_append]
        constructor
        · rintro ⟨a', b', he, ⟨rfl, rfl⟩, rfl⟩
          exact ⟨⟨Ne.symm h, (ih.1 he).1⟩, rfl, (ih.1 he).2⟩
        · rintro ⟨⟨_, ha⟩, rfl, hc⟩
          exact ⟨a, b, ih.2 ⟨ha, hc⟩, ⟨rfl, rfl⟩, rfl⟩

/-- The parts between separators; a text without one is its only part. -/
def splitAll (sep : Char) : List Char → List (List Char)
  | [] => [[]]
  | c :: cs =>
    if c = sep then [] :: splitAll sep cs
    else
      match splitAll sep cs with
      | [] => [[c]]
      | p :: ps => (c :: p) :: ps

/-- The text without a leading and a trailing run of one character. -/
def stripChar (x : Char) (cs : List Char) : List Char :=
  ((cs.dropWhile (· == x)).reverse.dropWhile (· == x)).reverse

/-- A line, held last character first, without the carriage return that stands
before its line feed. -/
def dropReturn : List Char → List Char
  | '\r' :: line => line
  | line => line

/-- The lines of a text, the current one held last character first. -/
def linesFrom (line : List Char) : List Char → List (List Char)
  | [] => if line.isEmpty then [] else [line.reverse]
  | c :: cs =>
    if c = '\n' then (dropReturn line).reverse :: linesFrom [] cs else linesFrom (c :: line) cs

/-- The lines of a text.  A line ends at a line feed, which may have a carriage
return before it; what follows the last line feed is a line if it is not empty. -/
def lines (cs : List Char) : List (List Char) := linesFrom [] cs

end Text
end Runbook
