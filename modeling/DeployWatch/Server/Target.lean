import DeployWatch.Http.Basic

/-!
# Requests to the server

The target of a request is a path with a query, an address with a scheme, an authority alone, or an
asterisk. Routes are chosen by its path, which is not unescaped.

* `Authority.isWellFormed`: user, host and socket number as far as targets are checked;
* `targetPath?`: the path of a target;
* `ServerRequest`, `ServerRequest.ofTexts?`: a request with its method.
-/

namespace DeployWatch

/-! ## Authorities -/

namespace Authority

/-- What is known of an authority up to a place. -/
structure Scan where
  /-- The colons since the last at sign or closing bracket. -/
  colons : Nat := 0
  /-- Whether a percent sign stands after the last at sign or closing bracket. -/
  escaped : Bool := false
  opened : Bool := false
  closed : Bool := false

/-- Characters without a meaning of their own in an authority. -/
def isPlainChar (c : Char) : Bool := c.isAlphanum || "!$&'()*+,-.;=_~".toList.contains c

/-- Goes on by one character: brackets come once, at most eight colons stand together, and a host with
an opening bracket has no escapes before it. -/
def Scan.next (s : Scan) (c : Char) : Option Scan :=
  match c with
  | ':' => if 8 ≤ s.colons then none else some { s with colons := s.colons + 1 }
  | '[' => if s.escaped || s.opened then none else some { s with opened := true }
  | ']' =>
    if !s.opened || s.closed then none else some { s with closed := true, colons := 0, escaped := false }
  | '@' => some { s with colons := 0, escaped := false }
  | '%' => some { s with escaped := true }
  | c => if isPlainChar c then some s else none

/-- Whether a text can be an authority: after the user and the brackets there is at most one colon and no
escape, and something follows the last at sign. -/
def isWellFormed (cs : List Char) : Bool :=
  match cs.foldlM Scan.next {} with
  | some s => s.opened == s.closed && s.colons ≤ 1 && !s.escaped && cs.getLast? != some '@'
  | none => false

end Authority

/-! ## Targets -/

def isPathChar (c : Char) : Bool := 0x21 ≤ c.toNat && !"#<>?\x60".toList.contains c

def isQueryChar (c : Char) : Bool := 0x21 ≤ c.toNat && !"\"#<>".toList.contains c

/-- The path at the start of a text, before a query and a fragment; an empty one is a slash. -/
def leadingPath? (cs : List Char) : Option String :=
  let path := cs.takeWhile fun c => c != '?' && c != '#'
  let query := match cs.drop path.length with
    | '?' :: rest => rest.takeWhile (· != '#')
    | _ => []
  if path.all isPathChar && query.all isQueryChar then
    some (if path.isEmpty then "/" else String.ofList path)
  else none

/-- Splits a scheme off, without the colon and the two slashes after it. -/
def splitScheme? (cs : List Char) : Option (List Char × List Char) :=
  let scheme := cs.takeWhile fun c => c.isAlphanum || "+-.~".toList.contains c
  match cs.drop scheme.length with
  | ':' :: '/' :: '/' :: rest => some (scheme, rest)
  | _ => none

/-- The greatest number of bytes of a target. -/
def maxTargetBytes : Nat := 65534

/-- The greatest number of characters of a scheme. -/
def maxSchemeLength : Nat := 64

/-- The path of a target: the asterisk stands for itself, and an authority alone has none. -/
def targetPath? (target : String) : Option String :=
  let cs := target.toList
  if cs.isEmpty || maxTargetBytes < target.utf8ByteSize then none
  else if cs.head? = some '/' then leadingPath? cs
  else if cs = ['*'] then some "*"
  else match splitScheme? cs with
    | none => if Authority.isWellFormed cs then some "" else none
    | some (scheme, rest) =>
      let authority := rest.takeWhile fun c => c != '/' && c != '?' && c != '#'
      if maxSchemeLength < scheme.length || authority.isEmpty || !Authority.isWellFormed authority then none
      else leadingPath? (rest.drop authority.length)

/-! ## Requests -/

structure ServerRequest where
  method : String
  path : String
  deriving DecidableEq, Repr, Inhabited

/-- The request of a method, which is a token, for a target. -/
def ServerRequest.ofTexts? (method target : String) : Option ServerRequest :=
  if method.isEmpty || !method.toList.all isTokenChar then none
  else (targetPath? target).map fun p => ⟨method, p⟩

end DeployWatch
