import DeployWatch.Application.Annotations
import DeployWatch.GitOps.Path
import DeployWatch.Text.Quoted

/-!
# Repository locations

* `Repository`: where overrides are written;
* `Repository.check`: the rules for its three parts and the first one broken;
* `Repository.resolve`: the location for an application.
-/

namespace DeployWatch

open Text (trim quoted)

/-- The location of a GitOps repository: its address, a branch and a directory. -/
structure Repository where
  url : String
  branch : String
  path : String
  deriving DecidableEq, Repr, Inhabited

/-- The text `url@branch:path`. -/
def Repository.display (r : Repository) : String := r.url ++ "@" ++ r.branch ++ ":" ++ r.path

/-- The rule that a location breaks. -/
inductive RepositoryFault where
  | emptyUrl
  | emptyBranch
  | emptyPath
  | dashedUrl (url : String)
  | dashedBranch (branch : String)
  | escapingPath (path : String)
  deriving DecidableEq, Repr, Inhabited

def RepositoryFault.message : RepositoryFault → String
  | emptyUrl => "repository URL is empty"
  | emptyBranch => "branch is empty"
  | emptyPath => "path is empty"
  | dashedUrl u => "repository URL " ++ quoted u ++ " starts with '-'"
  | dashedBranch b => "branch " ++ quoted b ++ " starts with '-'"
  | escapingPath p => "path " ++ quoted p ++ " leaves the repository root"

/-- Whether a text could be taken for an option of a command. -/
def startsWithDash (s : String) : Bool := s.toList.head? == some '-'

/-- The first rule that a location breaks. -/
def Repository.check (r : Repository) : Except RepositoryFault Unit :=
  if r.url.isEmpty then .error .emptyUrl
  else if r.branch.isEmpty then .error .emptyBranch
  else if r.path.isEmpty then .error .emptyPath
  else if startsWithDash r.url then .error (.dashedUrl r.url)
  else if startsWithDash r.branch then .error (.dashedBranch r.branch)
  else if !staysInside r.path then .error (.escapingPath r.path)
  else .ok ()

/-- A location from three texts without their blank ends. -/
def Repository.make (url branch path : String) : Except RepositoryFault Repository :=
  let r : Repository := ⟨trim url, trim branch, trim path⟩
  match r.check with
  | .ok () => .ok r
  | .error f => .error f

/-- The location for an application: each part from the annotations, else from its single source. -/
def Repository.resolve (a : Application) (notes : Annotations) : Except RepositoryFault Repository :=
  let source := a.singleSource
  let pick := fun (explicit : Option String) (part : Source → String) =>
    explicit.getD ((source.map part).getD "")
  make (pick notes.writeBack.repoUrl (·.repoUrl)) (pick notes.writeBack.branch (·.targetRevision))
    (pick notes.writeBack.path (·.path))

end DeployWatch
