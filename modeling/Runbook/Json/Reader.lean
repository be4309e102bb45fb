/-
# Reading JSON

A text is cut into tokens one character at a time (`lexStep`), and the tokens
are put together one at a time with the open arrays and objects on a stack
(`buildStep`), so both passes are folds.  A text that is not one JSON value with
blanks around it, or that nests deeper than allowed, is refused.  Of two fields
with one name the later wins.
-/

import Runbook.Json.Number
import Runbook.Text.Digits
import Runbook.Text.Utf8

namespace Runbook
namespace Json

/-- The pieces of a JSON text. -/
inductive Token where
  | openArray
  | closeArray
  | openObject
  | closeObject
  | comma
  | colon
  | scalar (v : Json)
deriving Inhabited

/-- Half of a character beyond U+FFFF, or a whole character, as a string's text
has them. -/
inductive Piece where
  | char (c : Char)
  | half (n : Nat)

/-- Where the reader of tokens stands; texts are held last piece first. -/
inductive LexState where
  | between
  | word (text : List Char)
  | text (pieces : List Piece)
  | escape (pieces : List Piece)
  | code (pieces : List Piece) (digits : List Nat)

/-- The characters of a string's pieces, given in order; two halves make one
character, a half alone makes none. -/
def joinPieces : List Piece → Option (List Char)
  | [] => some []
  | .char c :: ps => (joinPieces ps).map (c :: ·)
  | .half hi :: .half lo :: ps =>
    if hi < 0xDC00 ∧ 0xDC00 ≤ lo then
      (joinPieces ps).map (Char.ofNat (0x10000 + (hi - 0xD800) * 0x400 + (lo - 0xDC00)) :: ·)
    else none
  | .half _ :: _ => none

/-- The piece with a UTF-16 code. -/
def Piece.ofCode (n : Nat) : Piece :=
  if 0xD800 ≤ n ∧ n < 0xE000 then .half n else .char (Char.ofNat n)

/-- The character that a backslash and one letter stand for. -/
def escaped? : Char → Option Char
  | '"' => some '"'
  | '\\' => some '\\'
  | '/' => some '/'
  | 'b' => some (Char.ofNat 8)
  | 'f' => some (Char.ofNat 12)
  | 'n' => some '\n'
  | 'r' => some '\r'
  | 't' => some '\t'
  | _ => none

/-- The value that a word stands for. -/
def wordValue? (text : List Char) : Option Json :=
  if text = "true".toList then some (.bool true)
  else if text = "false".toList then some (.bool false)
  else if text = "null".toList then some .null
  else (readNumber? text).map .number

/-- The token of a punctuation mark. -/
def mark? : Char → Option Token
  | '[' => some .openArray
  | ']' => some .closeArray
  | '\x7b' => some .openObject
  | '\x7d' => some .closeObject
  | ',' => some .comma
  | ':' => some .colon
  | _ => none

/-- Whether blanks of this kind may stand between tokens. -/
def isSpace (c : Char) : Bool := c = ' ' || c = '\t' || c = '\n' || c = '\r'

/-- One character outside strings and words; tokens are held last first. -/
def lexBetween (tokens : List Token) (c : Char) : LexState × List Token :=
  if isSpace c then (.between, tokens)
  else if c = '"' then (.text [], tokens)
  else
    match mark? c with
    | some t => (.between, t :: tokens)
    | none => (.word [c], tokens)

/-- One character of the text. -/
def lexStep : LexState × List Token → Char → Option (LexState × List Token)
  | (.between, tokens), c => some (lexBetween tokens c)
  | (.word text, tokens), c =>
    if isSpace c || c = '"' || (mark? c).isSome then
      (wordValue? text.reverse).map fun v => lexBetween (.scalar v :: tokens) c
    else some (.word (c :: text), tokens)
  | (.text pieces, tokens), c =>
    if c = '"' then
      (joinPieces pieces.reverse).map fun cs =>
        (.between, .scalar (.string (String.ofList cs)) :: tokens)
    else if c = '\\' then some (.escape pieces, tokens)
    else if c.toNat < 0x20 then none
    else some (.text (.char c :: pieces), tokens)
  | (.escape pieces, tokens), c =>
    if c = 'u' then some (.code pieces [], tokens)
    else (escaped? c).map fun c => (.text (.char c :: pieces), tokens)
  | (.code pieces digits, tokens), c =>
    (Text.hexDigit? c).map fun d =>
      match digits with
      | [z, y, x] => (.text (.ofCode (((x * 16 + y) * 16 + z) * 16 + d) :: pieces), tokens)
      | _ => (.code pieces (d :: digits), tokens)

/-- The tokens of a text, in order. -/
def tokens? (cs : List Char) : Option (List Token) := do
  match ← cs.foldlM lexStep (.between, []) with
  | (.between, tokens) => some tokens.reverse
  | (.word text, tokens) => do
    let v ← wordValue? text.reverse
    some (.scalar v :: tokens).reverse
  | _ => none

/-- An array or object under way; items are held last first. -/
inductive Frame where
  | items (done : List Json)
  | fields (done : List (String × Json)) (name : String)

/-- What may come next. -/
inductive Expected where
  | value
  | firstItem
  | firstField (done : List (String × Json))
  | field (done : List (String × Json))
  | colon (done : List (String × Json)) (name : String)
  | afterItem (done : List Json)
  | afterField (done : List (String × Json))
  | nothing (v : Json)

/-- Gives a finished value to what is under way. -/
def give (v : Json) : List Frame → Expected × List Frame
  | [] => (.nothing v, [])
  | .items done :: stack => (.afterItem (v :: done), stack)
  | .fields done name :: stack => (.afterField (insertEntry name v done), stack)

/-- A token where a value may begin. -/
def buildValue (depth : Nat) (stack : List Frame) : Token → Option (Expected × List Frame)
  | .scalar v => some (give v stack)
  | .openArray => if stack.length < depth then some (.firstItem, stack) else none
  | .openObject => if stack.length < depth then some (.firstField [], stack) else none
  | _ => none

/-- One token; at most `depth` arrays and objects may be open at once. -/
def buildStep (depth : Nat) : Expected × List Frame → Token → Option (Expected × List Frame)
  | (.value, stack), t => buildValue depth stack t
  | (.firstItem, stack), .closeArray => some (give (.array []) stack)
  | (.firstItem, stack), t => buildValue depth (.items [] :: stack) t
  | (.firstField done, stack), .closeObject => some (give (.object done) stack)
  | (.firstField done, stack), .scalar (.string name) => some (.colon done name, stack)
  | (.field done, stack), .scalar (.string name) => some (.colon done name, stack)
  | (.colon done name, stack), .colon => some (.value, .fields done name :: stack)
  | (.afterItem done, stack), .comma => some (.value, .items done :: stack)
  | (.afterItem done, stack), .closeArray => some (give (.array done.reverse) stack)
  | (.afterField done, stack), .comma => some (.field done, stack)
  | (.afterField done, stack), .closeObject => some (give (.object done) stack)
  | _, _ => none

/-- The value that tokens write. -/
def build? (depth : Nat) (tokens : List Token) : Option Json := do
  match ← tokens.foldlM (buildStep depth) (.value, []) with
  | (.nothing v, _) => some v
  | _ => none

/-- The most arrays and objects that may be open at once in a text from outside. -/
def maxDepth : Nat := 127

/-- Reads a text with at most `depth` arrays and objects open at once. -/
def readWithin? (depth : Nat) (cs : List Char) : Option Json := tokens? cs >>= build? depth

/-- Reads a text. -/
def read? (cs : List Char) : Option Json := readWithin? maxDepth cs

/-- Reads octets, which have to be well-formed UTF-8. -/
def readBytes? (bytes : ByteArray) : Option Json := Text.decode? bytes >>= read?

/-- What is said of a text that is not JSON. -/
def unreadable : String := "not a JSON value"

end Json
end Runbook
