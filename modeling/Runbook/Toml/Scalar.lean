/-
# Configuration documents: values without quotes

Booleans, numbers, dates and times.  No setting takes a floating-point number, a
date or a time, so of these only the text is kept (`Toml.other`); it matters that
they are well formed where a value is passed over.  Underscores stand between
digits.  Whether the rest of such an integer is made of digits only matters to
those who want the number.
-/

import Runbook.Toml.Basic
import Runbook.Toml.Strings

namespace Runbook
namespace Toml

/-! ## Dates and times -/

/-- A number of exactly so many digits. -/
def fixedNumber? (width : Nat) (cs : List Char) : Option (Nat × List Char) :=
  let digits := cs.takeWhile Char.isDigit
  if digits.length = width then some (Text.valueIn 10 digits, cs.dropWhile Char.isDigit) else none

/-- The number of days in a month of a year. -/
def daysIn (year month : Nat) : Nat :=
  if month = 2 then
    if year % 4 = 0 ∧ (year % 100 ≠ 0 ∨ year % 400 = 0) then 29 else 28
  else if month ∈ [4, 6, 9, 11] then 30
  else 31

/-- What follows a date: year, month and day with dashes between them. -/
def dropDate? (cs : List Char) : Option (List Char) :=
  match fixedNumber? 4 cs with
  | some (year, '-' :: cs) =>
    match fixedNumber? 2 cs with
    | some (month, '-' :: cs) =>
      match fixedNumber? 2 cs with
      | some (day, rest) =>
        if 1 ≤ month ∧ month ≤ 12 ∧ 1 ≤ day ∧ day ≤ daysIn year month then some rest else none
      | none => none
    | _ => none
  | _ => none

/-- What follows hours and minutes with a colon between them. -/
def dropMinutes? (cs : List Char) : Option (List Char) :=
  match fixedNumber? 2 cs with
  | some (hour, ':' :: cs) =>
    match fixedNumber? 2 cs with
    | some (minute, rest) => if hour ≤ 23 ∧ minute ≤ 59 then some rest else none
    | none => none
  | _ => none

/-- What follows a fraction of a second, if there is one. -/
def dropFraction? : List Char → Option (List Char)
  | '.' :: cs =>
    if (cs.takeWhile Char.isDigit).isEmpty then none else some (cs.dropWhile Char.isDigit)
  | cs => some cs

/-- What follows a time: hours, minutes, and perhaps seconds with a fraction. -/
def dropTime? (cs : List Char) : Option (List Char) :=
  match dropMinutes? cs with
  | some (':' :: cs) =>
    match fixedNumber? 2 cs with
    | some (second, rest) => if second ≤ 60 then dropFraction? rest else none
    | none => none
  | rest => rest

/-- Whether a text is the distance from universal time, or empty. -/
def isOffset : List Char → Bool
  | [] | ['Z'] | ['z'] => true
  | '+' :: cs | '-' :: cs => dropMinutes? cs = some []
  | _ => false

/-- Whether a text is a date, a time, or both with a `T` or a space between them. -/
def isMoment (cs : List Char) : Bool :=
  match dropDate? cs with
  | some [] => true
  | some (c :: rest) => c ∈ ['T', 't', ' '] && (dropTime? rest).any isOffset
  | none => dropTime? cs = some []

/-! ## Numbers -/

/-- Whether the underscores of a number, of which there need be none, stand
between digits. -/
def spaced (isDigit : Char → Bool) (cs : List Char) : Bool :=
  let runs := Text.splitAll '_' cs
  (runs.drop 1).all (fun run => run.head?.any isDigit)
    && runs.dropLast.all fun run => run.getLast?.any isDigit

/-- Whether digits with underscores among them make a run: there is one, and no
zero in front of others, unless that does not matter. -/
def isRun (zeros : Bool) (cs : List Char) : Bool :=
  let count := (cs.filter Char.isDigit).length
  0 < count && (zeros || count = 1 || cs.head? ≠ some '0')

/-- Whether a character is a decimal digit or an underscore. -/
def isRunChar (c : Char) : Bool := c.isDigit || c = '_'

/-- Whether a text is an exponent with its mark and perhaps a sign, or empty. -/
def isExponent : List Char → Bool
  | [] => true
  | c :: '+' :: cs | c :: '-' :: cs => c ∈ ['e', 'E'] && cs.all isRunChar && isRun true cs
  | c :: cs => c ∈ ['e', 'E'] && cs.all isRunChar && isRun true cs

/-- Whether a text without a sign is a floating-point number. -/
def isFloat (cs : List Char) : Bool :=
  isRun false (cs.takeWhile isRunChar)
    && match cs.dropWhile isRunChar with
      | '.' :: rest =>
        isRun true (rest.takeWhile isRunChar) && isExponent (rest.dropWhile isRunChar)
      | rest => isExponent rest

/-- The value of a text that stands where an integer does. -/
def integerOf (base : Nat) (negative : Bool) (cs : List Char) : Toml :=
  let digits := cs.filter (· ≠ '_')
  if !digits.isEmpty && digits.all (Text.isDigitOf base) then
    .integer (if negative then -(Text.valueIn base digits : Int) else Text.valueIn base digits)
  else .other (String.ofList cs)

/-- A number in a base other than ten, after the mark of the base. -/
def radixed? (base : Nat) (cs : List Char) : Option Toml :=
  if cs.all (fun c => c = '_' || Text.isDigitOf base c) && spaced (Text.isDigitOf 16) cs then
    some (integerOf base false cs)
  else none

/-- The value of a word with a sign, if it has one, and without it. -/
def number? (word cs : List Char) : Option Toml :=
  let rest := cs.dropWhile Char.isDigit
  if rest.head? = some '-' || rest.head? = some ':' then
    if isMoment word then some (.other (String.ofList word)) else none
  else if rest.contains ' ' then none
  else if rest.any (· ∈ ['.', 'e', 'E']) then
    if isFloat cs && spaced Char.isDigit cs then some (.other (String.ofList word)) else none
  else if (rest.isEmpty && cs = ['0'])
      || ((rest.isEmpty || rest.head? = some '_') && !cs.isEmpty && cs.head? ≠ some '0'
        && spaced (Text.isDigitOf 16) cs) then
    some (integerOf 10 (word.head? = some '-') cs)
  else none

/-- The value of a word. -/
def scalar : (word : List Char) → Option Toml
  | ['t', 'r', 'u', 'e'] => some (.boolean true)
  | ['f', 'a', 'l', 's', 'e'] => some (.boolean false)
  | '0' :: 'x' :: cs => radixed? 16 cs
  | '0' :: 'o' :: cs => radixed? 8 cs
  | '0' :: 'b' :: cs => radixed? 2 cs
  | word =>
    let cs := if word.head? = some '+' || word.head? = some '-' then word.drop 1 else word
    if cs = ['i', 'n', 'f'] || cs = ['n', 'a', 'n'] then some (.other (String.ofList word))
    else number? word cs

/-- Whether a character ends a word. -/
def endsWord (c : Char) : Bool :=
  c ∈ ['=', ',', '[', ']', '{', '}', '#', ' ', '\t', '\r', '\n', '\'', '"']

/-- The word at the start of a text and what follows it.  A space does not end a
date that a time follows. -/
def word (cs : List Char) : List Char × List Char :=
  let first := cs.takeWhile fun c => !endsWord c
  match cs.dropWhile fun c => !endsWord c with
  | ' ' :: c :: rest =>
    if c.isDigit && (dropDate? first).any List.isEmpty then
      let second := (c :: rest).takeWhile fun c => !endsWord c
      (first ++ ' ' :: second, (c :: rest).dropWhile fun c => !endsWord c)
    else (first, ' ' :: c :: rest)
  | rest => (first, rest)

end Toml
end Runbook
