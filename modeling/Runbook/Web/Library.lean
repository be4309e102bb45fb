/-
# What a client needs of a web library

A request is handed to a library, which carries it out by its own rules: how an
address is written, what a header field may hold, where a reply leads.  The client
learns what it was answered.  It leaves to the library, too, how JSON is read
and how a status is worded.
-/

import Runbook.Json.Basic

namespace Runbook

/-- A request to be posted: where to, the token that entitles the client, further
header fields, the body, and how long it may take. -/
structure WebPost where
  endpoint : String
  bearer : String
  headers : List (String × String)
  body : String
  timeoutSecs : Nat

/-- What a request was answered. -/
structure WebAnswer where
  status : Nat
  body : ByteArray

/-- Whether the answer grants the request. -/
def WebAnswer.isSuccess (a : WebAnswer) : Bool := 200 ≤ a.status && a.status < 300

/-- A library: it posts requests, or says why there is no answer; it reads JSON, or
says why there is none; it words the statuses that it knows. -/
structure WebLibrary (m : Type → Type) where
  post : WebPost → m (Except String WebAnswer)
  readJson : ByteArray → Except String Json
  wording? : (status : Nat) → Option String

end Runbook
