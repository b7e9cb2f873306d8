import DeployWatch.SortedMap

/-!
# Application snapshots

What the control plane reports about an application, as far as this program looks at it. Every part
may be missing from a report and then has its default.

* `Application`, with `Application.images`, `Application.syncStatus`, `Application.healthStatus`,
  `Application.singleSource`;
* `Session`: who is logged in.
-/

namespace DeployWatch

/-- Where an application's manifests come from. -/
structure Source where
  repoUrl : String := ""
  targetRevision : String := ""
  path : String := ""
  deriving DecidableEq, Inhabited

structure Metadata where
  name : String := ""
  annotations : Option (SortedMap String) := none
  deriving DecidableEq, Inhabited

/-- The sources: one, or a list of them. -/
structure Spec where
  source : Option Source := none
  sources : List Source := []
  deriving DecidableEq, Inhabited

structure Health where
  status : String := ""
  message : Option String := none
  deriving DecidableEq, Inhabited

/-- What an operation did to one resource. -/
structure ResourceResult where
  kind : String := ""
  name : String := ""
  space : String := ""
  status : String := ""
  message : String := ""
  hookPhase : Option String := none
  deriving DecidableEq, Inhabited

/-- An operation on the application, with its results per resource if there are any. -/
structure Operation where
  phase : String := ""
  message : String := ""
  results : Option (List ResourceResult) := none
  deriving DecidableEq, Inhabited

/-- The state of one resource. -/
structure Resource where
  kind : String := ""
  name : String := ""
  space : String := ""
  status : String := ""
  health : Option Health := none
  deriving DecidableEq, Inhabited

structure ApplicationState where
  sync : String := ""
  health : Health := {}
  images : List String := []
  operation : Option Operation := none
  resources : List Resource := []
  deriving DecidableEq, Inhabited

/-- A snapshot of an application. -/
structure Application where
  metadata : Metadata := {}
  spec : Spec := {}
  state : ApplicationState := {}
  deriving DecidableEq, Inhabited

namespace Application

/-- The deployed images as `repository:tag`. -/
def images (a : Application) : List String := a.state.images

def syncStatus (a : Application) : String := a.state.sync

def healthStatus (a : Application) : String := a.state.health.status

/-- The source of an application without a list of sources. -/
def singleSource (a : Application) : Option Source :=
  if a.spec.sources.isEmpty then a.spec.source else none

end Application

/-- The session of this program on the control plane. -/
structure Session where
  loggedIn : Bool := false
  username : String := ""
  deriving DecidableEq, Repr, Inhabited

end DeployWatch
