import DeployWatch.Url.Percent

/-!
# Addresses

* `Url`, `Url.render`: an address and its text;
* `Url.withTrailingSlash`: a base under which segments are added;
* `Url.extend`: the address with segments added to its path.
-/

namespace DeployWatch

/-- What stands between authority and query: segments, or a text that has none. -/
inductive UrlPath where
  | segments (parts : List String)
  | plain (text : String)
  deriving DecidableEq, Repr, Inhabited

/-- An address; all its parts are escaped. -/
structure Url where
  scheme : String
  authority : Option String
  path : UrlPath
  query : Option String := none
  fragment : Option String := none
  deriving DecidableEq, Repr, Inhabited

def UrlPath.render : UrlPath → String
  | segments parts => String.join (parts.map ("/" ++ ·))
  | plain text => text

namespace Url

/-- The schemes whose addresses name a host. -/
def hostSchemes : List String := ["http", "https", "ws", "wss", "ftp", "file"]

/-- Whether an address names a host by its scheme. -/
def namesHost (u : Url) : Bool := hostSchemes.contains u.scheme

/-- A text after its mark, if there is one. -/
def marked (mark : String) : Option String → String
  | none => ""
  | some s => mark ++ s

def render (u : Url) : String :=
  u.scheme ++ ":" ++ marked "//" u.authority ++ u.path.render ++ marked "?" u.query ++
    marked "#" u.fragment

/-- The address with a slash at the end of its path. -/
def withTrailingSlash (u : Url) : Url :=
  match u.path with
  | .segments parts => if parts.getLast? = some "" then u else { u with path := .segments (parts ++ [""]) }
  | .plain text =>
    if text.toList.getLast? = some '/' then u else { u with path := .plain (text ++ "/") }

/-- The segments without the empty one behind the last slash. -/
def withoutLastEmpty (parts : List String) : List String :=
  if 2 ≤ parts.length ∧ parts.getLast? = some "" then parts.dropLast else parts

/-- The characters of a segment that count: tabs and line breaks do not. -/
def counted (cs : List Char) : List Char := cs.filter fun c => c ≠ '\t' ∧ c ≠ '\n' ∧ c ≠ '\r'

/-- The escaped text of a segment. -/
def segmentText (hosted : Bool) (name : String) : String :=
  String.ofList (escape (fun c => inSegment c || (hosted && c == '\\')) (counted name.toList))

/-- Adds a segment. One or two dots add nothing; what comes down to one dot adds an empty segment, and
what comes down to two takes the last one away before. -/
def addSegment (hosted : Bool) (parts : List String) (name : String) : List String :=
  if name = "." ∨ name = ".." then parts
  else
    let parts := if parts = [""] then [] else parts
    let text := segmentText hosted name
    if text = "." then parts ++ [""]
    else if text = ".." then parts.dropLast ++ [""]
    else parts ++ [text]

/-- The address with segments added to its path, if it has segments. -/
def extend (u : Url) (names : List String) : Option Url :=
  match u.path with
  | .segments parts =>
    some { u with path := .segments (names.foldl (addSegment u.namesHost) (withoutLastEmpty parts)) }
  | .plain _ => none

end Url

end DeployWatch
