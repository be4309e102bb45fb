/-
# Clients of the inference service

A client posts a request to its endpoint and reads the answer.  It asks only with
a token; whatever it asks and however the answer looks, what comes of it is a JSON
value or one of the causes of failure (`interpret`).
-/

import Runbook.Inference.Basic
import Runbook.Json.Printer
import Runbook.Settings.Basic
import Runbook.Text.Utf8
import Runbook.Web.Library

namespace Runbook

/-- How the service is asked.  The endpoint is kept as it is given; whether it is
an address shows when it is used. -/
structure InferenceClient where
  endpoint : String
  token : Option String := none
  appId : Option String := none
  timeoutSecs : Nat := 120

namespace InferenceClient

/-- The client that the settings ask for. -/
def ofSettings (s : InferenceSettings) : InferenceClient :=
  { endpoint := s.endpoint, token := s.token, appId := s.appId, timeoutSecs := s.timeoutSecs }

/-- The header fields of a request besides its token. -/
def headers (c : InferenceClient) : List (String × String) :=
  [("accept", "application/json"), ("content-type", "application/json")]
    ++ (c.appId.map fun id => ("x-app-id", id)).toList

/-- What is posted to ask the service, if there is a token. -/
def post (c : InferenceClient) (r : InferenceRequest) : Except InferenceError WebPost :=
  match c.token with
  | none => .error .missingToken
  | some token =>
    .ok
      { endpoint := c.endpoint, bearer := token, headers := c.headers, body := r.toJson.compact,
        timeoutSecs := c.timeoutSecs }

variable {m : Type → Type} (web : WebLibrary m)

/-- The error of a status that does not grant the request.  The service may word
it; otherwise the status does. -/
def refusal (answer : WebAnswer) : InferenceError :=
  if answer.status = 429 then .rateLimited
  else
    let worded : Option String := do
      let v ← (web.readJson answer.body).toOption
      (← v.field? "message").string?
    .service answer.status (worded.getD ((web.wording? answer.status).getD "Unknown"))

/-- What an answer says. -/
def interpret (answer : WebAnswer) : Except InferenceError Json :=
  if !answer.isSuccess then .error (refusal web answer)
  else
    match web.readJson answer.body with
    | .ok v => .ok v
    | .error detail =>
      .error (.notJson detail (String.ofList (Text.decodeLossy answer.body)))

/-- Asks the service by means of a web library. -/
def invoke [Monad m] (c : InferenceClient) (r : InferenceRequest) :
    m (Except InferenceError Json) :=
  match c.post r with
  | .error e => pure (.error e)
  | .ok p => do
    match ← web.post p with
    | .error detail => return .error (.transport detail)
    | .ok answer => return interpret web answer

end InferenceClient
end Runbook
