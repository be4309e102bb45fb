/-
# Web messages on the wire

A request as the octets that are sent, and a reply as read from the octets that
come back until the other side has said all.  Octets are held as the characters
of the same number.  Replies that announce another one are passed over; a body
comes in chunks, has a stated length, or goes on to the end.
-/

import Runbook.Text.Digits
import Runbook.Web.Message

namespace Runbook

/-- The octets of a request.  The connection is not kept. -/
def WebRequest.octets (r : WebRequest) : ByteArray :=
  let body := r.body.toUTF8
  let fields :=
    ("host", r.address.host ++ ":" ++ toString r.address.port) :: r.headers
      ++ (if r.method = .get then [] else [("content-length", toString body.size)])
      ++ [("connection", "close")]
  let head := r.startLine :: fields.map fun (name, value) => name ++ ": " ++ value
  (String.join (head.map (· ++ "\r\n")) ++ "\r\n").toUTF8 ++ body

namespace WebReply

/-- A line without the carriage return at its end, which a strict reader wants to
see there. -/
def withoutReturn? (strict : Bool) (line : List Char) : Option (List Char) :=
  match Text.dropEnd? ['\r'] line with
  | some line => some line
  | none => if strict then none else some line

/-- The first line, which ends at a line feed, and what follows it. -/
def splitLine (strict : Bool) (cs : List Char) : Option (List Char × List Char) :=
  (Text.splitFirst '\n' cs).bind fun (line, rest) => (withoutReturn? strict line).map (·, rest)

/-- A line takes up characters. -/
theorem length_lt_of_splitLine {strict : Bool} {cs line rest : List Char}
    (h : splitLine strict cs = some (line, rest)) : rest.length < cs.length := by
  obtain ⟨⟨raw, rest'⟩, hs, hl⟩ := Option.bind_eq_some_iff.1 h
  obtain ⟨_, _, he⟩ := Option.map_eq_some_iff.1 hl
  obtain rfl : rest' = rest := congrArg Prod.snd he
  have hc := congrArg List.length (Text.splitFirst_eq_some_iff.1 hs).2
  simp only [List.length_append, List.length_cons] at hc
  omega

/-- Whether a character may stand in the name of a header field. -/
def isTokenChar (c : Char) : Bool := c.isAlphanum || c ∈ "!#$%&'*+-.^_\x60|~".toList

/-- Whether a character only sets parts of a line apart. -/
def isGap (c : Char) : Bool := c = ' ' || c = '\t'

/-- The text without gaps at its ends. -/
def withoutGaps (cs : List Char) : List Char :=
  ((cs.dropWhile isGap).reverse.dropWhile isGap).reverse

/-- The name of a header field, in small letters, and its value. -/
def field? (line : List Char) : Option (List Char × List Char) := do
  let (name, value) ← Text.splitFirst ':' line
  if !name.isEmpty && name.all isTokenChar && value.all isFieldChar then
    some (name.map Char.toLower, withoutGaps value)
  else none

/-- The header fields up to the first empty line, and what follows that.  There
may be no more of them than `limit`. -/
def fields? (strict : Bool) : (limit : Nat) → List Char →
    Option (List (List Char × List Char) × List Char)
  | limit, cs => do
    let (line, rest) ← splitLine strict cs
    match line, limit with
    | [], _ => some ([], rest)
    | _, 0 => none
    | line, limit + 1 =>
      let field ← field? line
      let (fields, rest) ← fields? strict limit rest
      some (field :: fields, rest)

/-- The most header fields that a reply can have. -/
def fieldLimit : Nat := 100

/-- What a reply says before its body. -/
structure Head where
  status : Nat
  isLatest : Bool
  fields : List (List Char × List Char)

/-- The status in the first line of a reply, and whether the reply has the later
one of the two versions. -/
def status? (line : List Char) : Option (Nat × Bool) := do
  let (version, rest) ← Text.splitFirst ' ' line
  let code := rest.takeWhile (· ≠ ' ')
  let reason := rest.dropWhile (· ≠ ' ')
  if code.length = 3 ∧ code.all Char.isDigit ∧ code.head? ≠ some '0' ∧ reason.all isFieldChar then
    match String.ofList version with
    | "HTTP/1.0" => some (Text.digitsValue code, false)
    | "HTTP/1.1" => some (Text.digitsValue code, true)
    | _ => none
  else none

/-- The text without the empty lines in front. -/
def dropEmptyLines : List Char → List Char
  | '\n' :: cs | '\r' :: '\n' :: cs => dropEmptyLines cs
  | cs => cs

/-- The head of a reply, and what follows it. -/
def head? (cs : List Char) : Option (Head × List Char) := do
  let (line, rest) ← splitLine false (dropEmptyLines cs)
  let (status, isLatest) ← status? line
  let (fields, rest) ← fields? false fieldLimit rest
  some ({ status, isLatest, fields }, rest)

/-- The values of the header fields of one name. -/
def Head.values (h : Head) (name : String) : List (List Char) :=
  (h.fields.filter fun f => f.1 = name.toList).map (·.2)

/-- The number in front of a chunk, which notes may follow. -/
def chunkSize? (line : List Char) : Option Nat :=
  let digits := line.takeWhile (Text.isDigitOf 16)
  let notes := (line.dropWhile (Text.isDigitOf 16)).dropWhile isGap
  if !digits.isEmpty && (notes.isEmpty || notes.head? = some ';') && !notes.contains '\r' then
    some (Text.valueIn 16 digits)
  else none

/-- A chunk takes up characters. -/
theorem length_lt_of_chunk {cs line rest after : List Char} {size : Nat}
    (h : splitLine true cs = some (line, rest))
    (h' : Text.dropStart? ['\r', '\n'] (rest.drop size) = some after) :
    after.length < cs.length := by
  have h₁ := length_lt_of_splitLine h
  have h₂ := congrArg List.length (Text.dropStart?_eq_some_iff.1 h')
  simp only [List.length_drop, List.length_append, List.length_cons, List.length_nil] at h₂
  omega

/-- The body that comes in chunks.  The last chunk is empty, and header fields
may follow it. -/
def chunks? (cs : List Char) : Option (List Char) :=
  match h : splitLine true cs with
  | none => none
  | some (line, rest) =>
    match chunkSize? line with
    | none => none
    | some 0 => (fields? true fieldLimit rest).map fun _ => []
    | some size =>
      match h' : Text.dropStart? ['\r', '\n'] (rest.drop size) with
      | none => none
      | some after =>
        have : after.length < cs.length := length_lt_of_chunk h h'
        (chunks? after).map (rest.take size ++ ·)
termination_by cs.length

/-- Whether the last of the codings that a header field lists is that in chunks. -/
def isChunked (value : List Char) : Bool :=
  value.all (·.toNat < 0x80) &&
    ((Text.splitAll ',' value).getLast?.any fun coding =>
      (withoutGaps coding).map Char.toLower = "chunked".toList)

/-- The length that header fields state, all of them the same. -/
def length? (values : List (List Char)) : Option Nat := do
  let lengths ← (values.flatMap (Text.splitAll ',')).mapM fun v =>
    let digits := withoutGaps v
    if digits.isEmpty || !digits.all Char.isDigit then none else some (Text.digitsValue digits)
  let first ← lengths.head?
  if lengths.all (· = first) then some first else none

/-- The body that follows a head. -/
def body? (head : Head) (rest : List Char) : Option (List Char) :=
  match head.values "transfer-encoding", head.values "content-length" with
  | [], [] => some rest
  | [], lengths => do
    let n ← length? lengths
    if rest.length < n then none else some (rest.take n)
  | codings, _ =>
    if !head.isLatest then none
    else if isChunked (codings.getLastD []) then chunks? rest
    else some rest

/-- Reads a reply.  Where the body does not matter it may be cut short. -/
def read : (fuel : Nat) → List Char → Option WebReply
  | 0, _ => none
  | fuel + 1, cs => do
    let (head, rest) ← head? cs
    let reply : WebReply :=
      { status := head.status, body := .empty
        location := (head.values "location").head?.map String.ofList }
    if reply.isInterim then read fuel rest
    else
      match body? head rest with
      | some body => some { reply with body := ⟨(body.map fun c => c.toNat.toUInt8).toArray⟩ }
      | none => if reply.hasContent && !reply.isRedirect then none else some reply

/-- Reads a reply; each one that is passed over takes up octets. -/
def read? (bytes : ByteArray) : Option WebReply :=
  read (bytes.size + 1) (bytes.toList.map fun b => Char.ofNat b.toNat)

/-- The reply that arrives when one is sent.  A reply that announces another one
has that one behind it, where its body would be. -/
def arriving? (r : WebReply) : Option WebReply :=
  if r.status < 100 ∨ 999 < r.status then none
  else if r.isInterim then read? r.body
  else some r

end WebReply
end Runbook
