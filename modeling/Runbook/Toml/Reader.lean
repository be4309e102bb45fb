/-
# Configuration documents: the reader

Reads values, arrays and tables.  Headers of arrays of tables are refused: no
setting takes one.  Values nest at most `depthLimit` deep, and keys have at most
as many parts.  Fuel bounds the number of steps; the length of the text is always
enough, as each step takes a character.
-/

import Runbook.Toml.Scalar

namespace Runbook
namespace Toml

/-- Whether a character stands in a key without quotes. -/
def isBare (c : Char) : Bool := c.isAlphanum || c = '_' || c = '-'

/-- The text after spaces and tabs. -/
def skipSpaces (cs : List Char) : List Char := cs.dropWhile isSpace

/-- The text after a comment, which ends in front of the line end. -/
def skipComment : List Char → Option (List Char)
  | '#' :: cs =>
    let rest := cs.dropWhile fun c => !isControl c
    if rest.isEmpty || startsNewline rest then some rest else none
  | cs => some cs

/-- The text after spaces, comments and line ends. -/
def skipBlank : (fuel : Nat) → List Char → Option (List Char)
  | 0, cs => some cs
  | fuel + 1, cs => do
    let cs ← skipComment (skipSpaces cs)
    if startsNewline cs then skipBlank fuel (dropNewline cs) else some cs

/-- A key without dots. -/
def simpleKey (cs : List Char) : Option (String × List Char) :=
  match cs with
  | '"' :: cs => (basicString cs).map fun (k, rest) => (String.ofList k, rest)
  | '\'' :: cs => (literalString cs).map fun (k, rest) => (String.ofList k, rest)
  | cs =>
    let key := cs.takeWhile isBare
    if key.isEmpty then none else some (String.ofList key, cs.dropWhile isBare)

/-- How deep values nest and how many parts a key has at most. -/
def depthLimit : Nat := 80

/-- A key of at most `parts` parts with dots between them, and the spaces after it. -/
def keyPath : (parts : Nat) → List Char → Option (List String × List Char)
  | 0, _ => none
  | parts + 1, cs => do
    let (key, rest) ← simpleKey cs
    match skipSpaces rest with
    | '.' :: rest => do
      let (path, rest) ← keyPath parts (skipSpaces rest)
      some (key :: path, rest)
    | rest => some ([key], rest)

mutual

/-- A value that nests at most `depth` deep. -/
def value (depth : Nat) : (fuel : Nat) → List Char → Option (Toml × List Char)
  | 0, _ => none
  | fuel + 1, cs =>
    match depth, cs with
    | 0, '[' :: _ | 0, '{' :: _ => none
    | depth + 1, '[' :: cs => (items depth fuel cs).map fun (vs, rest) => (.array vs, rest)
    | depth + 1, '{' :: cs => do
      let (es, rest) ← inlineItems depth fuel cs
      some (.table (← inlineEntries [] es), rest)
    | _, '"' :: _ | _, '\'' :: _ =>
      (anyString cs).map fun (s, rest) => (.string (String.ofList s), rest)
    | _, cs =>
      let (text, rest) := word cs
      (scalar text).map (·, rest)

/-- The items of an array, after its bracket or a comma. -/
def items (depth : Nat) : (fuel : Nat) → List Char → Option (List Toml × List Char)
  | 0, _ => none
  | fuel + 1, cs => do
    match ← skipBlank fuel cs with
    | ']' :: rest => some ([], rest)
    | cs =>
      let (v, rest) ← value depth fuel cs
      match ← skipBlank fuel rest with
      | ']' :: rest => some ([v], rest)
      | ',' :: rest =>
        let (vs, rest) ← items depth fuel rest
        some (v :: vs, rest)
      | _ => none

/-- The entries of an inline table, after its brace or a comma. -/
def inlineItems (depth : Nat) :
    (fuel : Nat) → List Char → Option (List (List String × Toml) × List Char)
  | 0, _ => none
  | fuel + 1, cs => do
    match ← skipBlank fuel cs with
    | '}' :: rest => some ([], rest)
    | cs =>
      let (path, rest) ← keyPath depthLimit cs
      match ← skipBlank fuel rest with
      | '=' :: rest =>
        let (v, rest) ← value depth fuel (← skipBlank fuel rest)
        match ← skipBlank fuel rest with
        | '}' :: rest => some ([(path, v)], rest)
        | ',' :: rest =>
          let (es, rest) ← inlineItems depth fuel rest
          some ((path, v) :: es, rest)
        | _ => none
      | _ => none

end

/-- The rest of a line after a statement: nothing but a comment. -/
def lineEnd (cs : List Char) : Option (List Char) := do
  let rest ← skipComment (skipSpaces cs)
  if rest.isEmpty || startsNewline rest then some rest else none

/-- One statement, without the rest of its line. -/
def statement (fuel : Nat) : List Char → Option (Statement × List Char)
  | '[' :: cs => do
    match ← keyPath depthLimit (skipSpaces cs) with
    | (path, ']' :: rest) => some (.header path, rest)
    | _ => none
  | cs => do
    match ← keyPath depthLimit cs with
    | (path, '=' :: rest) =>
      let (v, rest) ← value depthLimit fuel (skipSpaces rest)
      some (.assign path v, rest)
    | _ => none

/-- The statements of a document. -/
def statements : (fuel : Nat) → List Char → Option (List Statement)
  | 0, _ => none
  | fuel + 1, cs => do
    match ← skipBlank fuel cs with
    | [] => some []
    | cs =>
      let (s, rest) ← statement fuel cs
      let rest ← lineEnd rest
      (statements fuel rest).map (s :: ·)

/-- The text without a byte order mark. -/
def dropMark : List Char → List Char
  | '\uFEFF' :: cs => cs
  | cs => cs

/-- The entries of a document, if it is one. -/
def read? (text : List Char) : Option (List (String × Toml)) :=
  (statements (text.length + 2) (dropMark text)).bind (build [] [])

end Toml
end Runbook
