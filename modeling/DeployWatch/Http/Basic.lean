import DeployWatch.Number.Digits
import DeployWatch.Text.Utf8
import DeployWatch.Url.Basic

/-!
# Requests over HTTP

* `HttpRequest`, `HttpRequest.fault?`: a request, and why it cannot be sent;
* `HttpAnswer`: what came of a request;
* `statusText`: a status code with its usual phrase.
-/

namespace DeployWatch

structure HttpRequest where
  method : String
  url : Url
  headers : List (String × String) := []
  body : String := ""
  deriving DecidableEq, Repr, Inhabited

/-- What came of a request. -/
inductive HttpAnswer where
  /-- No connection. -/
  | unconnected
  /-- The connection ended before an answer. -/
  | cutShort
  | answered (status : Nat) (body : List UInt8)
  deriving DecidableEq, Repr, Inhabited

/-- Characters of tokens, such as the names of headers and methods. -/
def isTokenChar (c : Char) : Bool := c.isAlphanum || "!#$%&'*+-.^_\x60|~".toList.contains c

/-- Whether a character can stand in the value of a header. -/
def isHeaderValueChar (c : Char) : Bool := c == '\t' || (0x20 ≤ c.toNat && c.toNat ≠ 0x7F)

/-- Whether a header can be sent. -/
def isHeader (h : String × String) : Bool :=
  !h.1.isEmpty && h.1.toList.all isTokenChar && h.2.toList.all isHeaderValueChar

/-- Why a request cannot be sent: a header that is none, or a scheme other than those of HTTP. -/
def HttpRequest.fault? (r : HttpRequest) : Option String :=
  if !r.headers.all isHeader then some "builder error"
  else if !(["http", "https"].contains r.url.scheme) then
    some ("builder error for url (" ++ r.url.render ++ ")")
  else none

/-- The text of a request without an answer. -/
def HttpRequest.unsent (r : HttpRequest) : String :=
  "error sending request for url (" ++ r.url.render ++ ")"

/-- The usual phrases of status codes. -/
def statusPhrases : List (Nat × String) :=
  [(100, "Continue"), (101, "Switching Protocols"), (102, "Processing"), (103, "Early Hints"),
    (200, "OK"), (201, "Created"), (202, "Accepted"), (203, "Non Authoritative Information"),
    (204, "No Content"), (205, "Reset Content"), (206, "Partial Content"), (207, "Multi-Status"),
    (208, "Already Reported"), (226, "IM Used"), (300, "Multiple Choices"), (301, "Moved Permanently"),
    (302, "Found"), (303, "See Other"), (304, "Not Modified"), (305, "Use Proxy"),
    (307, "Temporary Redirect"), (308, "Permanent Redirect"), (400, "Bad Request"),
    (401, "Unauthorized"), (402, "Payment Required"), (403, "Forbidden"), (404, "Not Found"),
    (405, "Method Not Allowed"), (406, "Not Acceptable"), (407, "Proxy Authentication Required"),
    (408, "Request Timeout"), (409, "Conflict"), (410, "Gone"), (411, "Length Required"),
    (412, "Precondition Failed"), (413, "Payload Too Large"), (414, "URI Too Long"),
    (415, "Unsupported Media Type"), (416, "Range Not Satisfiable"), (417, "Expectation Failed"),
    (418, "I'm a teapot"), (421, "Misdirected Request"), (422, "Unprocessable Entity"),
    (423, "Locked"), (424, "Failed Dependency"), (425, "Too Early"), (426, "Upgrade Required"),
    (428, "Precondition Required"), (429, "Too Many Requests"),
    (431, "Request Header Fields Too Large"), (451, "Unavailable For Legal Reasons"),
    (500, "Internal Server Error"), (501, "Not Implemented"), (502, "Bad Gateway"),
    (503, "Service Unavailable"), (504, "Gateway Timeout"), (505, "HTTP Version Not Supported"),
    (506, "Variant Also Negotiates"), (507, "Insufficient Storage"), (508, "Loop Detected"),
    (510, "Not Extended"), (511, "Network Authentication Required")]

/-- A status code with its usual phrase. -/
def statusText (code : Nat) : String :=
  String.ofList (Number.decimal code) ++ " " ++
    (statusPhrases.lookup code).getD "<unknown status code>"

/-- A body as text; ill-formed stretches read as U+FFFD. -/
def bodyText (body : List UInt8) : String := Text.decodeUtf8Lossy body

end DeployWatch
