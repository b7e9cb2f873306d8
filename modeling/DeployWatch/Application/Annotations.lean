import DeployWatch.Application.Basic
import DeployWatch.Text.Blank
import DeployWatch.Text.Split

/-!
# Annotations that steer the program

* `Annotations`: what an application's annotations ask for;
* `parseManagedImages`: the list of managed images, written `alias=repository` with commas between;
* `Annotations.aliasFor?`: the alias of an image repository.
-/

namespace DeployWatch

open Text (trimChars trim splitAt)

/-- Where to write overrides instead of the application's own source. -/
structure WriteBack where
  repoUrl : Option String := none
  branch : Option String := none
  path : Option String := none
  deriving DecidableEq, Repr, Inhabited

/-- What the annotations of an application ask for. -/
structure Annotations where
  /-- Whether overrides may be written for it. -/
  managed : Bool := false
  /-- Whether a rollout counts as deployed without being watched. -/
  fireAndForget : Bool := false
  /-- Image repositories by alias. -/
  managedImages : SortedMap String := .empty
  writeBack : WriteBack := {}
  deriving DecidableEq, Inhabited

namespace Annotations

/-- Reads one entry: an alias, an equals sign and a repository, none of them blank. -/
def parseEntry (entry : List Char) : Option (String × String) :=
  match entry.dropWhile (· != '=') with
  | _ :: repository =>
    let name := trimChars (entry.takeWhile (· != '='))
    let repository := trimChars repository
    if name.isEmpty || repository.isEmpty then none
    else some (String.ofList name, String.ofList repository)
  | [] => none

/-- Reads a list of managed images; entries without both parts are passed over, and of two entries
with one alias the later wins. -/
def parseManagedImages (text : String) : SortedMap String :=
  .ofList ((splitAt ',' text.toList).filterMap parseEntry)

/-- Whether an annotation says true, in any case. -/
def isTrue (text : String) : Bool :=
  (trimChars text.toList).map Char.toLower = ['t', 'r', 'u', 'e']

/-- A nonblank annotation without its blank ends. -/
def nonBlank (m : SortedMap String) (key : String) : Option String :=
  ((m.find? key).map trim).filter (!·.isEmpty)

def parse (m : SortedMap String) : Annotations where
  managed := (m.find? "argo-watcher/managed").any isTrue
  fireAndForget := (m.find? "argo-watcher/fire-and-forget").any isTrue
  managedImages := ((m.find? "argo-watcher/managed-images").map parseManagedImages).getD .empty
  writeBack :=
    { repoUrl := nonBlank m "argo-watcher/write-back-repo"
      branch := nonBlank m "argo-watcher/write-back-branch"
      path := nonBlank m "argo-watcher/write-back-path" }

/-- The first alias, in the order of aliases, of an image repository. -/
def aliasFor? (a : Annotations) (repository : String) : Option String :=
  (a.managedImages.entries.find? fun e => e.2 = repository).map (·.1)

end Annotations

def Application.watch (a : Application) : Annotations :=
  (a.metadata.annotations.map Annotations.parse).getD {}

end DeployWatch
