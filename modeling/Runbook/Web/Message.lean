/-
# Web messages

A request has a method, an address, header fields and a body; a reply has a
status, which some statuses make the whole of it, a body of octets and perhaps
the location that it speaks of.
-/

import Runbook.Web.Address

namespace Runbook

/-- What a request asks for: to be told something, or to take a text. -/
inductive WebMethod where
  | get
  | post
deriving DecidableEq

/-- The name of a method. -/
def WebMethod.name : WebMethod → String
  | .get => "GET"
  | .post => "POST"

/-- A request. -/
structure WebRequest where
  method : WebMethod := .post
  address : WebAddress
  headers : List (String × String)
  body : String

/-- A reply. -/
structure WebReply where
  status : Nat
  body : ByteArray
  location : Option String := none

/-- Whether a character may stand in the value of a header field: it is a tab or
no control character. -/
def isFieldChar (c : Char) : Bool := c = '\t' || (0x20 ≤ c.toNat && c.toNat ≠ 0x7F)

namespace WebRequest

/-- Whether a text may be the value of a header field. -/
def isFieldText (s : String) : Bool := s.toList.all isFieldChar

/-- The line that opens the request. -/
def startLine (r : WebRequest) : String :=
  r.method.name ++ " " ++ r.address.target ++ " HTTP/1.1"

end WebRequest

namespace WebReply

/-- Whether another reply is still to follow. -/
def isInterim (r : WebReply) : Bool := r.status < 200 && r.status ≠ 101

/-- Whether the reply sends the client on to another location. -/
def isRedirect (r : WebReply) : Bool :=
  r.status ∈ [301, 302, 303, 307, 308] && r.location.isSome

/-- Whether the reply brings anything; some statuses never do. -/
def hasContent (r : WebReply) : Bool := r.status ∉ [101, 204, 304]

/-- What the reply brings. -/
def content (r : WebReply) : ByteArray := if r.hasContent then r.body else .empty

end WebReply

/-- The reason phrases of the registered statuses. -/
def reasonPhrases : List (Nat × String) :=
  [(100, "Continue"), (101, "Switching Protocols"), (102, "Processing"), (103, "Early Hints"),
   (200, "OK"), (201, "Created"), (202, "Accepted"), (203, "Non Authoritative Information"),
   (204, "No Content"), (205, "Reset Content"), (206, "Partial Content"), (207, "Multi-Status"),
   (208, "Already Reported"), (226, "IM Used"),
   (300, "Multiple Choices"), (301, "Moved Permanently"), (302, "Found"), (303, "See Other"),
   (304, "Not Modified"), (305, "Use Proxy"), (307, "Temporary Redirect"),
   (308, "Permanent Redirect"),
   (400, "Bad Request"), (401, "Unauthorized"), (402, "Payment Required"), (403, "Forbidden"),
   (404, "Not Found"), (405, "Method Not Allowed"), (406, "Not Acceptable"),
   (407, "Proxy Authentication Required"), (408, "Request Timeout"), (409, "Conflict"),
   (410, "Gone"), (411, "Length Required"), (412, "Precondition Failed"),
   (413, "Payload Too Large"), (414, "URI Too Long"), (415, "Unsupported Media Type"),
   (416, "Range Not Satisfiable"), (417, "Expectation Failed"), (418, "I'm a teapot"),
   (421, "Misdirected Request"), (422, "Unprocessable Entity"), (423, "Locked"),
   (424, "Failed Dependency"), (425, "Too Early"), (426, "Upgrade Required"),
   (428, "Precondition Required"), (429, "Too Many Requests"),
   (431, "Request Header Fields Too Large"), (451, "Unavailable For Legal Reasons"),
   (500, "Internal Server Error"), (501, "Not Implemented"), (502, "Bad Gateway"),
   (503, "Service Unavailable"), (504, "Gateway Timeout"), (505, "HTTP Version Not Supported"),
   (506, "Variant Also Negotiates"), (507, "Insufficient Storage"), (508, "Loop Detected"),
   (510, "Not Extended"), (511, "Network Authentication Required")]

/-- The reason phrase of a status. -/
def reasonPhrase? (status : Nat) : Option String :=
  (reasonPhrases.find? fun r => r.1 == status).map (·.2)

end Runbook
