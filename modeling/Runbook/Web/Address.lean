/-
# Web addresses

The address of a service says whether the connection is secured, which host and
port to connect to, and which target to ask for.  Reading is lenient in the way
of browsers: control characters and spaces around the address do not count,
slashes may lean either way, dot segments are resolved, and characters that may
not stand in a target are escaped by their octets.  A fragment is left out.  The
user and the password in front of the host are no part of where a request goes,
but go with it (`login?`).
-/

import Runbook.Web.HostName

namespace Runbook

/-- Where a request goes. -/
structure WebAddress where
  secure : Bool
  host : String
  port : Nat
  target : String
deriving DecidableEq

namespace WebAddress

/-- Whether a character is a control character of ASCII or a space. -/
def isFiller (c : Char) : Bool := c.toNat ≤ 0x20

/-- The text without filler at its ends, and without tabs and line breaks. -/
def cleaned (cs : List Char) : List Char :=
  ((cs.dropWhile isFiller).reverse.dropWhile isFiller).reverse.filter fun c =>
    c ∉ ['\t', '\n', '\r']

/-- Whether the scheme in front of a text is the secured one, and what follows it. -/
def scheme? (cs : List Char) : Option (Bool × List Char) :=
  match Text.splitFirst ':' cs with
  | none => none
  | some (name, rest) =>
    match String.ofList (name.map Char.toLower) with
    | "http" => some (false, rest)
    | "https" => some (true, rest)
    | _ => none

/-- Whether a character is a slash of either kind. -/
def isSlash (c : Char) : Bool := c = '/' || c = '\\'

/-- Whether a character ends the part of an address that names the host. -/
def endsAuthority (c : Char) : Bool := isSlash c || c = '?' || c = '#'

/-- Whether a character may stand in a numeric host between brackets. -/
def isNumericHostChar (c : Char) : Bool :=
  c.isDigit || c ∈ "abcdefABCDEF:.".toList

/-- The host at the start of a text and what follows it. -/
def host? : List Char → Option (List Char × List Char)
  | '[' :: cs =>
    match Text.splitFirst ']' cs with
    | some (c :: host, rest) =>
      if (c :: host).all isNumericHostChar then some ('[' :: c :: host ++ [']'], rest) else none
    | _ => none
  | cs => (HostName.parse? (cs.takeWhile (· ≠ ':'))).map (·, cs.dropWhile (· ≠ ':'))

/-- The port that follows the host; without one it is that of the scheme. -/
def port? (secure : Bool) : List Char → Option Nat
  | [] | [':'] => some (if secure then 443 else 80)
  | ':' :: digits =>
    if digits.all Char.isDigit && Text.digitsValue digits ≤ 0xFFFF then
      some (Text.digitsValue digits)
    else none
  | _ => none

/-- A digit of base sixteen. -/
def hexDigit (n : Nat) : Char := (Nat.digitChar n).toUpper

/-- A character by its octets. -/
def escaped (c : Char) : List Char :=
  (String.singleton c).toUTF8.toList.flatMap fun b =>
    ['%', hexDigit (b.toNat / 16), hexDigit (b.toNat % 16)]

/-- The text with all but graphic ASCII characters escaped, and the given ones. -/
def escape (reserved : List Char) (cs : List Char) : List Char :=
  cs.flatMap fun c => if isFiller c || 0x7F ≤ c.toNat || c ∈ reserved then escaped c else [c]

/-- The characters that are escaped in a path. -/
def pathReserved : List Char := "\"#<>?\x60\x7b\x7d".toList

/-- The characters that are escaped in a query. -/
def queryReserved : List Char := "\"#<>'".toList

/-- The characters that are escaped in a fragment. -/
def fragmentReserved : List Char := "\"<>\x60".toList

/-- A segment with its escaped dots as dots, for comparison only. -/
def plainDots : List Char → List Char
  | '%' :: '2' :: 'e' :: cs | '%' :: '2' :: 'E' :: cs => '.' :: plainDots cs
  | c :: cs => c :: plainDots cs
  | [] => []

/-- Whether a segment names a drive: a letter with a colon or a bar. -/
def isDrive (s : List Char) : Bool :=
  match s with
  | [letter, mark] => letter.isAlpha && mark ∈ [':', '|']
  | _ => false

/-- The segments that lead to the parent, last segment first.  A drive has none. -/
def parent (done : List (List Char)) : List (List Char) :=
  if done.head?.any isDrive then done else done.tail

/-- A segment as it is written in a target. -/
def segment (s : List Char) : List Char :=
  if plainDots s ∈ [['.'], ['.', '.']] then plainDots s else escape pathReserved s

/-- Resolves the dot segments of a path, given what leads to the parent; `done`
holds what precedes, last segment first. -/
def resolveDots (parent : List (List Char) → List (List Char)) :
    (done segments : List (List Char)) → List (List Char)
  | done, [] => done.reverse
  | done, s :: rest =>
    let slash : List (List Char) := if rest.isEmpty then [[]] else []
    if s = ['.', '.'] then resolveDots parent (slash ++ parent done) rest
    else if s = ['.'] then resolveDots parent (slash ++ done) rest
    else resolveDots parent (s :: done) rest

/-- The target of a path, which starts with a slash or is empty. -/
def pathTarget (path : List Char) : List Char :=
  let segments := Text.splitAll '/' ((path.drop 1).map fun c => if isSlash c then '/' else c)
  (resolveDots parent [] (segments.map segment)).flatMap ('/' :: ·)

/-- The target of what follows the host: a path and perhaps a query. -/
def targetOf (cs : List Char) : List Char :=
  let cs := cs.takeWhile (· ≠ '#')
  match Text.splitFirst '?' cs with
  | none => pathTarget cs
  | some (path, query) => pathTarget path ++ '?' :: escape queryReserved query

/-- The number of characters of an address that is written out, with the fragment
that follows the target. -/
def writtenLength (a : WebAddress) (fragment : List Char) : Nat :=
  let scheme := if a.secure then 8 else 7
  let port := if a.port = (if a.secure then 443 else 80) then 0 else a.port.repr.length + 1
  scheme + a.host.length + port + a.target.length + (escape fragmentReserved fragment).length

/-- The most characters that an address can have. -/
def lengthLimit : Nat := 65534

/-- Reads an address. -/
def parse? (text : String) : Option WebAddress := do
  let (secure, rest) ← scheme? (cleaned text.toList)
  let rest := rest.dropWhile isSlash
  let authority := rest.takeWhile fun c => !endsAuthority c
  let (host, rest') ← host? (authority.reverse.takeWhile (· ≠ '@')).reverse
  let port ← port? secure rest'
  let rest := rest.dropWhile fun c => !endsAuthority c
  let a : WebAddress :=
    { secure, host := String.ofList host, port, target := String.ofList (targetOf rest) }
  if a.writtenLength (rest.dropWhile (· ≠ '#')) ≤ lengthLimit then some a else none

/-- The user and the password in front of the host, if either is given. -/
def login? (text : String) : Option (String × String) := do
  let (_, rest) ← scheme? (cleaned text.toList)
  let authority := (rest.dropWhile isSlash).takeWhile fun c => !endsAuthority c
  let written := ((authority.reverse.dropWhile (· ≠ '@')).drop 1).reverse
  let plain? (cs : List Char) : Option String :=
    (Text.decode? ⟨(HostName.unescape (String.ofList cs).toUTF8.toList).toArray⟩).map String.ofList
  let user ← plain? (written.takeWhile (· ≠ ':'))
  let password := (plain? ((written.dropWhile (· ≠ ':')).drop 1)).getD ""
  if user.isEmpty && password.isEmpty then none else some (user, password)

end WebAddress
end Runbook
