import DeployWatch.Text.Search

/-!
# Errors of the control plane

* `ControlPlaneError`, `ControlPlaneError.message`;
* `ControlPlaneError.classify`: the kind of an error that is known by its text only.
-/

namespace DeployWatch

open Text (anySuffix dropFold matchesFold containsFold containsPhrase isBlank)

/-- Why the control plane gave no answer; each kind carries the text it came with. -/
inductive ControlPlaneError where
  | notFound (text : String)
  | connectionRefused (text : String)
  | unauthorized (text : String)
  | api (text : String)
  deriving DecidableEq, Repr, Inhabited

namespace ControlPlaneError

def message : ControlPlaneError → String
  | notFound t => "resource not found: " ++ t
  | connectionRefused t => "connection refused: " ++ t
  | unauthorized t => "unauthorized: " ++ t
  | api t => "api error: " ++ t

def isUnreachable : ControlPlaneError → Bool
  | connectionRefused _ => true
  | _ => false

/-- Whether a text starts with the status code of a missing object: `code`, an equals sign with
blanks around it, and `NotFound`. -/
def startsWithMissingCode (cs : List Char) : Bool :=
  match dropFold "code".toList cs with
  | none => false
  | some rest =>
    match rest.dropWhile isBlank with
    | '=' :: rest => matchesFold "notfound".toList (rest.dropWhile isBlank)
    | _ => false

/-- Whether a text says that something was not found. -/
def saysNotFound (cs : List Char) : Bool :=
  anySuffix startsWithMissingCode cs || containsPhrase "not found".toList none cs

def saysRefused (cs : List Char) : Bool := containsFold "connection refused".toList cs

/-- The error of a text. -/
def classify (text : String) : ControlPlaneError :=
  if saysNotFound text.toList then notFound text
  else if saysRefused text.toList then connectionRefused text
  else api text

end ControlPlaneError

end DeployWatch
