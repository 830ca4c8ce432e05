import Catalogue.Url.Parser

namespace Catalogue.Http

def reasons : List (Nat × String) := [
  (100, "Continue"), (101, "Switching Protocols"), (102, "Processing"), (103, "Early Hints"),
  (200, "OK"), (201, "Created"), (202, "Accepted"), (203, "Non Authoritative Information"),
  (204, "No Content"), (205, "Reset Content"), (206, "Partial Content"), (207, "Multi-Status"),
  (208, "Already Reported"), (226, "IM Used"), (300, "Multiple Choices"),
  (301, "Moved Permanently"), (302, "Found"), (303, "See Other"), (304, "Not Modified"),
  (305, "Use Proxy"), (307, "Temporary Redirect"), (308, "Permanent Redirect"),
  (400, "Bad Request"), (401, "Unauthorized"), (402, "Payment Required"), (403, "Forbidden"),
  (404, "Not Found"), (405, "Method Not Allowed"), (406, "Not Acceptable"),
  (407, "Proxy Authentication Required"), (408, "Request Timeout"), (409, "Conflict"),
  (410, "Gone"), (411, "Length Required"), (412, "Precondition Failed"),
  (413, "Payload Too Large"), (414, "URI Too Long"), (415, "Unsupported Media Type"),
  (416, "Range Not Satisfiable"), (417, "Expectation Failed"), (418, "I'm a teapot"),
  (421, "Misdirected Request"), (422, "Unprocessable Entity"), (423, "Locked"),
  (424, "Failed Dependency"), (425, "Too Early"), (426, "Upgrade Required"),
  (428, "Precondition Required"), (429, "Too Many Requests"),
  (431, "Request Header Fields Too Large"), (451, "Unavailable For Legal Reasons"),
  (500, "Internal Server Error"), (501, "Not Implemented"), (502, "Bad Gateway"),
  (503, "Service Unavailable"), (504, "Gateway Timeout"), (505, "HTTP Version Not Supported"),
  (506, "Variant Also Negotiates"), (507, "Insufficient Storage"), (508, "Loop Detected"),
  (510, "Not Extended"), (511, "Network Authentication Required")]

structure Status where
  code : Nat
  deriving Repr, DecidableEq

def Status.isSuccess (s : Status) : Bool := 200 ≤ s.code && s.code < 300

def Status.text (s : Status) : String :=
  toString s.code ++ " " ++ (reasons.lookup s.code).getD "<unknown status code>"

def isHeaderValue (text : String) : Bool :=
  text.toList.all fun c => c == '\t' || !Url.isControl c

structure Request where
  url : Url
  deriving Repr, DecidableEq

def decoded? (part : String) : Option (List Char) := Text.Utf8.decode? (Text.Percent.decode part.toList)

def hasCredentials (u : Url) : Bool :=
  match decoded? u.username with
  | some name => !name.isEmpty || (u.password.bind decoded?).isSome
  | none => false

/-- Credentials travel in a header, so they do not belong to the URL of a request. -/
def withoutCredentials (u : Url) : Url :=
  if hasCredentials u then { u with username := "", password := none } else u

/-- Characters that a parsed host may have but a request may not. -/
def isUnsendable (c : Char) : Bool := c == '"' || c == '`' || c == '\x7b' || c == '\x7d'

def greatestSize : Nat := 65534

def isSendable (u : Url) : Bool :=
  (u.scheme == "http" || u.scheme == "https") && u.text.utf8ByteSize ≤ greatestSize &&
    u.host.any fun host => !host.text.toList.any isUnsendable

def unsendableText (u : Url) : String := "builder error for url (" ++ u.text ++ ")"

def Request.ofText (text : String) : Except String Request :=
  match Url.parse text with
  | .error _ => .error "builder error"
  | .ok u =>
    let u := withoutCredentials u
    if isSendable u then .ok ⟨u⟩ else .error (unsendableText u)

def Request.unansweredText (r : Request) : String :=
  "error sending request for url (" ++ r.url.text ++ ")"

inductive Body
  | whole (bytes : List UInt8)
  /-- The connection ended before the body did. -/
  | broken
  deriving Repr, DecidableEq

def brokenBodyText : String := "error decoding response body"

inductive Outcome
  /-- There is no response in the end: the connection failed, or a redirect could not be followed. -/
  | unanswered
  | response (status : Status) (body : Body)
  deriving Repr, DecidableEq

def Body.shown : Body → String
  | whole bytes => String.ofList (Text.Utf8.decodeLossy bytes)
  | broken => "<body unavailable: " ++ brokenBodyText ++ ">"

end Catalogue.Http
