import DeployWatch.Server.Address
import DeployWatch.Text.Split
import DeployWatch.Url.Basic

/-!
# Reading addresses

Blank ends, tabs and line breaks do not count, credentials are left out, and the dots in a path are
resolved. Host names are of ASCII.

* `Url.parse?`.
-/

namespace DeployWatch.Url

open Number (isDigit natOfDigits decimal)

/-- Removes controls and spaces at both ends. -/
def trimControls (cs : List Char) : List Char :=
  let isEnd := fun c : Char => decide (c.toNat ≤ 0x20)
  ((cs.dropWhile isEnd).reverse.dropWhile isEnd).reverse

/-- Splits at the first character of a kind, which goes with the second part. -/
def cutBefore (p : Char → Bool) (cs : List Char) : List Char × List Char :=
  (cs.takeWhile fun c => !p c, cs.dropWhile fun c => !p c)

/-- Reads the scheme and drops the colon. -/
def schemeOf (cs : List Char) : Option (String × List Char) :=
  let isSchemeChar := fun c : Char => c.isAlphanum || c == '+' || c == '-' || c == '.'
  let name := cs.takeWhile isSchemeChar
  match name, cs.drop name.length with
  | c :: _, ':' :: rest =>
    if c.isAlpha then some (String.ofList (name.map Char.toLower), rest) else none
  | _, _ => none

/-- The socket number of a scheme whose address names none. -/
def usualSocket (scheme : String) : Option Nat :=
  [("http", 80), ("ws", 80), ("https", 443), ("wss", 443), ("ftp", 21)].lookup scheme

/-- Reads a socket number, which is left out if it is the usual one. -/
def socketText (scheme : String) : List Char → Option (List Char)
  | [] => some []
  | ':' :: ds =>
    if ds.isEmpty then some []
    else if ds.all isDigit then
      match natOfDigits 10 ds with
      | some n =>
        if 65536 ≤ n then none
        else if usualSocket scheme = some n then some []
        else some (':' :: decimal n)
      | none => none
    else none
  | _ => none

/-- Whether a character cannot stand in a host name. -/
def outsideHost (c : Char) : Bool :=
  !isPlain c || [' ', '#', '/', ':', '<', '>', '?', '@', '[', '\\', ']', '^', '|', '%'].contains c

/-- Reads a host name; one whose last part is a number has to be four octets. -/
def hostName (cs : List Char) : Option (List Char) :=
  let last := (Text.splitAt '.' cs).getLast?.getD []
  if cs.isEmpty || cs.any outsideHost then none
  else if !last.isEmpty && last.all isDigit then
    match SocketAddress.octets cs with
    | some (_, []) => some cs
    | _ => none
  else some (cs.map Char.toLower)

/-- Reads a host in brackets or a host name, and what follows it. -/
def hostOf (cs : List Char) : Option (List Char × List Char) :=
  match cs with
  | '[' :: rest =>
    let (inside, after) := cutBefore (· == ']') rest
    match SocketAddress.allGroups inside, after with
    | some (_, []), _ :: after => some ('[' :: inside.map Char.toLower ++ [']'], after)
    | _, _ => none
  | cs =>
    let (name, after) := cutBefore (· == ':') cs
    (hostName name).map fun host => (host, after)

/-- Reads the authority of a scheme that names hosts, without its credentials. -/
def authorityOf (scheme : String) (cs : List Char) : Option String :=
  let cs := ((Text.splitAt '@' cs).getLast?).getD []
  if scheme = "file" ∧ cs.isEmpty then some ""
  else do
    let (host, after) ← hostOf cs
    let socket ← socketText scheme after
    return String.ofList (host ++ socket)

/-- What a segment stands for in a path. -/
inductive Dots where
  | here
  | up
  | name
  deriving DecidableEq, Repr, Inhabited

/-- Tells dots, which may be escaped, from names. -/
def dotsOf (text : List Char) : Dots :=
  let rec count : List Char → Option Nat
    | [] => some 0
    | '.' :: rest => (count rest).map (· + 1)
    | '%' :: '2' :: e :: rest => if e = 'e' ∨ e = 'E' then (count rest).map (· + 1) else none
    | _ => none
  match count text with
  | some 1 => .here
  | some 2 => .up
  | _ => .name

/-- Resolves the dots among the segments of a path. -/
def resolve : List String → List (List Char) → List String
  | parts, [] => parts
  | parts, [text] =>
    match dotsOf text with
    | .here => parts ++ [""]
    | .up => parts.dropLast ++ [""]
    | .name => parts ++ [String.ofList text]
  | parts, text :: rest =>
    match dotsOf text with
    | .here => resolve parts rest
    | .up => resolve parts.dropLast rest
    | .name => resolve (parts ++ [String.ofList text]) rest

/-- The segments of a path that starts with a slash. -/
def segmentsOf (hosted : Bool) (cs : List Char) : List String :=
  let slashes := cs.map fun c => if hosted ∧ c = '\\' then '/' else c
  resolve [] ((Text.splitAt '/' (slashes.drop 1)).map (escape inPath))

/-- Reads what follows the path. -/
def afterPath (hosted : Bool) (cs : List Char) : Option String × Option String :=
  let (query, fragment) := cutBefore (· == '#') cs
  (match query with
    | '?' :: q => some (String.ofList (escape (fun c => inQuery c || (hosted && c == '\x27')) q))
    | _ => none,
   match fragment with
    | '#' :: f => some (String.ofList (escape inFragment f))
    | _ => none)

def hosted (scheme : String) (cs : List Char) : Option Url :=
  let isSlash := fun c : Char => c == '/' || c == '\\'
  let (authority, rest) := cutBefore (fun c => isSlash c || c == '?' || c == '#') (cs.dropWhile isSlash)
  let (path, rest) := cutBefore (fun c => c == '?' || c == '#') rest
  let (query, fragment) := afterPath true rest
  (authorityOf scheme authority).map fun a => ⟨scheme, some a, .segments (segmentsOf true path), query, fragment⟩

/-- Reads an address of another scheme. -/
def unhosted (scheme : String) (cs : List Char) : Url :=
  let (before, rest) := cutBefore (fun c => c == '?' || c == '#') cs
  let (query, fragment) := afterPath false rest
  match before with
  | '/' :: '/' :: more =>
    let (authority, path) := cutBefore (· == '/') more
    let parts := if path.isEmpty then [] else segmentsOf false path
    ⟨scheme, some (String.ofList (escape (fun _ => false) authority)), .segments parts, query, fragment⟩
  | '/' :: _ => ⟨scheme, none, .segments (segmentsOf false before), query, fragment⟩
  | _ => ⟨scheme, none, .plain (String.ofList (escape (fun _ => false) before)), query, fragment⟩

def parse? (s : String) : Option Url :=
  match schemeOf (counted (trimControls s.toList)) with
  | none => none
  | some (scheme, rest) =>
    if hostSchemes.contains scheme then hosted scheme rest else some (unhosted scheme rest)

end DeployWatch.Url
