/-
# Redirects

A reply may name a location, by a reference that is read from the address that
was asked: it leaves out what is the same there.  The client then asks at that
location.  A reply to the effect that the matter is done, or that it is found
elsewhere, turns the request into one that only asks to be told.
-/

import Runbook.Text.Digits
import Runbook.Web.Message

namespace Runbook

/-- A reference to an address.  The query comes with its mark. -/
structure WebReference where
  scheme : Option (List Char)
  authority : Option (List Char)
  path : List Char
  query : List Char
deriving DecidableEq

namespace WebReference

/-- Whether a character may stand in the path of a reference. -/
def isPathChar (c : Char) : Bool := c.isAlphanum || c ∈ "-._~!$&'()*+,;=:@/".toList

/-- Whether a character may stand in the authority of a reference. -/
def isAuthorityChar (c : Char) : Bool := isPathChar c || c = '[' || c = ']'

/-- Whether a character may stand in the query of a reference. -/
def isQueryChar (c : Char) : Bool := isPathChar c || c = '?'

/-- Whether a text is written with the given characters and escaped octets. -/
def isWritten (allowed : Char → Bool) : List Char → Bool
  | [] => true
  | '%' :: a :: b :: cs =>
    Text.isDigitOf 16 a && Text.isDigitOf 16 b && isWritten allowed cs
  | c :: cs => allowed c && isWritten allowed cs

/-- Whether a text can be the name of a scheme. -/
def isScheme (cs : List Char) : Bool :=
  cs.head?.any Char.isAlpha && cs.all fun c => c.isAlphanum || c ∈ ['+', '-', '.']

/-- The scheme that a text starts with, and what follows it.  A colon in the
first segment ends a scheme. -/
def splitScheme? (cs : List Char) : Option (Option (List Char) × List Char) :=
  match Text.splitFirst ':' (cs.takeWhile (· ≠ '/')) with
  | none => some (none, cs)
  | some (name, _) => if isScheme name then some (some name, cs.drop (name.length + 1)) else none

/-- The authority that a text starts with, and what follows it. -/
def splitAuthority (cs : List Char) : Option (List Char) × List Char :=
  match Text.dropStart? ['/', '/'] cs with
  | none => (none, cs)
  | some cs => (some (cs.takeWhile (· ≠ '/')), cs.dropWhile (· ≠ '/'))

/-- The parts of a text before and from the first occurrence of a mark. -/
def splitFrom (mark : Char) (cs : List Char) : List Char × List Char :=
  (cs.takeWhile (· ≠ mark), cs.dropWhile (· ≠ mark))

/-- Reads a reference. -/
def parse? (cs : List Char) : Option WebReference := do
  let (cs, fragment) := splitFrom '#' cs
  let (cs, query) := splitFrom '?' cs
  let (scheme, cs) ← splitScheme? cs
  let (authority, path) := splitAuthority cs
  if isWritten isAuthorityChar (authority.getD []) && isWritten isPathChar path &&
      isWritten isQueryChar query && isWritten isQueryChar (fragment.drop 1) then
    some { scheme, authority, path, query }
  else none

/-- The path without dot segments. -/
def withoutDots (path : List Char) : List Char :=
  (WebAddress.resolveDots List.tail [] (Text.splitAll '/' (path.drop 1))).flatMap ('/' :: ·)

/-- What is said of a location that is not one of the web. -/
def astray : String := "redirect leads nowhere"

/-- The address that a reference leads to from another address.  Nothing comes of
some references that are no addresses at all. -/
def locate? (base : WebAddress) (r : WebReference) : Option (Except String WebAddress) := do
  let (basePath, baseQuery) := splitFrom '?' base.target.toList
  let target (path query : List Char) : String := String.ofList (path ++ query)
  match r.scheme, r.authority with
  | some _, none =>
    if (r.path ++ r.query).any (· ∈ ['/', '?', '%']) then none else some (.error astray)
  | scheme, some authority =>
    let scheme := scheme.getD (if base.secure then "https" else "http").toList
    if authority.isEmpty then none
    else
      match WebAddress.parse? (String.ofList (scheme ++ "://".toList ++ authority)) with
      | none => some (.error astray)
      | some a => some (.ok { a with target := target (withoutDots r.path) r.query })
  | none, none =>
    if r.path.isEmpty then
      let query := if r.query.isEmpty then baseQuery else r.query
      some (.ok { base with target := target basePath query })
    else
      let above := (basePath.reverse.dropWhile (· ≠ '/')).reverse
      let path := if r.path.head? = some '/' then r.path else above ++ r.path
      some (.ok { base with target := target (withoutDots path) r.query })

end WebReference

namespace WebRequest

/-- The request at another address.  What entitles the client to be answered is
kept from other hosts. -/
def movedTo (r : WebRequest) (a : WebAddress) : WebRequest :=
  if (a.host, a.port) = (r.address.host, r.address.port) then { r with address := a }
  else { r with address := a, headers := r.headers.filter (·.1 ≠ "authorization") }

/-- The request that only asks to be told. -/
def asking (r : WebRequest) : WebRequest :=
  { r with method := .get, headers := r.headers.filter (·.1 ≠ "content-type"), body := "" }

/-- What a reply makes of its request, if it sends the client on. -/
def redirected? (r : WebRequest) (reply : WebReply) : Option (Except String WebRequest) := do
  let location ← if reply.isRedirect then reply.location else none
  guard (WebReference.isWritten WebReference.isQueryChar r.address.target.toList)
  let reference ← WebReference.parse? location.toList
  let place ← reference.locate? r.address
  let r := if reply.status ∈ [307, 308] then r else r.asking
  return place.map r.movedTo

/-- Sends a request, and on to where the replies say, at most so many times. -/
def follow {m : Type → Type} [Monad m] (send : WebRequest → m (Except String WebReply)) :
    (limit : Nat) → WebRequest → m (Except String WebReply)
  | limit, r => do
    match ← send r with
    | .error e => return .error e
    | .ok reply =>
      match r.redirected? reply with
      | none => return .ok reply
      | some (.error e) => return .error e
      | some (.ok next) =>
        match limit with
        | 0 => return .error "too many redirects"
        | limit + 1 => follow send limit next

end WebRequest
end Runbook
