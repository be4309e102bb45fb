/-
# A web library

Requests are put together as messages, sent, and sent on to where the replies say.
-/

import Runbook.Json.Reader
import Runbook.Web.Library
import Runbook.Web.Redirect

namespace Runbook

/-- A digit of base sixty-four. -/
def base64Digit (n : Nat) : Char :=
  "ABCDEFGHIJKLMNOPQRSTUVWXYZabcdefghijklmnopqrstuvwxyz0123456789+/".toList.getD n '='

/-- Octets in base sixty-four: four digits for three octets, and the last ones
filled up. -/
def base64 : List UInt8 → List Char
  | a :: b :: c :: rest =>
    let n := (a.toNat * 0x100 + b.toNat) * 0x100 + c.toNat
    base64Digit (n / 0x40000) :: base64Digit (n / 0x1000 % 0x40) ::
      base64Digit (n / 0x40 % 0x40) :: base64Digit (n % 0x40) :: base64 rest
  | [a, b] =>
    let n := (a.toNat * 0x100 + b.toNat) * 4
    [base64Digit (n / 0x1000), base64Digit (n / 0x40 % 0x40), base64Digit (n % 0x40), '=']
  | [a] =>
    let n := a.toNat * 0x10
    [base64Digit (n / 0x40), base64Digit (n % 0x40), '=', '=']
  | [] => []

namespace WebPost

/-- The header field of the user that the endpoint names. -/
def login (p : WebPost) : List (String × String) :=
  (WebAddress.login? p.endpoint).toList.map fun (user, password) =>
    ("authorization",
      "Basic " ++ String.ofList (base64 (user ++ ":" ++ password).toUTF8.toList))

/-- What is said of a message that cannot be put together. -/
def unbuilt : String := "builder error"

/-- The message of a request, if it can be put together. -/
def message? (p : WebPost) : Option WebRequest := do
  let address ← WebAddress.parse? p.endpoint
  let headers := p.login ++ ("authorization", "Bearer " ++ p.bearer) :: p.headers
  if headers.all fun h => WebRequest.isFieldText h.2 then
    some { address, headers, body := p.body }
  else none

/-- The most redirects that are followed. -/
def redirectLimit : Nat := 10

/-- Carries a request out by means of `send`, which gives the reply to a message, or
else says why there is none. -/
def carryOut {m : Type → Type} [Monad m] (p : WebPost)
    (send : WebRequest → m (Except String WebReply)) : m (Except String WebAnswer) :=
  match p.message? with
  | none => pure (.error unbuilt)
  | some message => do
    let reply ← message.follow send redirectLimit
    return reply.map fun reply => ⟨reply.status, reply.content⟩

end WebPost

/-- The library that sends messages one by one, by means of a way to send each within
so many seconds. -/
def WebLibrary.sending {m : Type → Type} [Monad m]
    (send : (timeoutSecs : Nat) → WebRequest → m (Except String WebReply)) : WebLibrary m :=
  { post := fun p => p.carryOut (send p.timeoutSecs)
    readJson := fun bytes =>
      match Json.readBytes? bytes with
      | some v => .ok v
      | none => .error Json.unreadable
    wording? := reasonPhrase? }

end Runbook
