import DeployWatch.Application.Basic
import DeployWatch.ControlPlane.Error
import DeployWatch.Task.Basic

/-!
# Outcomes and their reasons

* `SyncReport`, `HealthReport`: what a snapshot says about sync and health;
* `Outcome`, `Failure`: how a rollout ends;
* `Failure.status`, `Failure.reason`: what is stored of a failure.
-/

namespace DeployWatch

/-- A text unless it is missing or empty. -/
def nonEmpty (s : Option String) : Option String := s.filter (!·.isEmpty)

/-- What a snapshot says about the last sync. -/
structure SyncReport where
  sync : String := ""
  phase : String := ""
  message : String := ""
  resources : List String := []
  deriving DecidableEq, Repr, Inhabited

/-- One line about what a sync did to a resource. -/
def ResourceResult.line (r : ResourceResult) : String :=
  r.kind ++ "(" ++ r.name ++ ") " ++ r.status ++
    (match nonEmpty r.hookPhase with
      | some h => " " ++ h
      | none => "") ++
    (if r.message.isEmpty then "" else " with message " ++ r.message)

def SyncReport.ofApplication (a : Application) : SyncReport where
  sync := a.syncStatus
  phase := (a.state.operation.map (·.phase)).getD ""
  message := (a.state.operation.map (·.message)).getD ""
  resources := ((a.state.operation.bind (·.results)).getD []).map ResourceResult.line

/-- What a snapshot says about health. -/
structure HealthReport where
  sync : String := ""
  health : String := ""
  message : Option String := none
  resources : List String := []
  deriving DecidableEq, Repr, Inhabited

/-- One line about a resource that is not healthy. -/
def Resource.line (r : Resource) : Option String :=
  match r.health with
  | none => none
  | some h =>
    if h.status = "Healthy" then none
    else some (r.kind ++ "(" ++ r.name ++ ") " ++ h.status ++
      (match nonEmpty h.message with
        | some m => " with message " ++ m
        | none => ""))

def HealthReport.ofApplication (a : Application) : HealthReport where
  sync := a.syncStatus
  health := a.healthStatus
  message := a.state.health.message
  resources := a.state.resources.filterMap Resource.line

/-- Why a rollout failed. -/
inductive Failure where
  | controlPlane (e : ControlPlaneError)
  | gitOps (message : String)
  | notAvailable (current expected : List String)
  | notSynced (report : SyncReport)
  | notHealthy (report : HealthReport)
  | degraded (report : HealthReport)
  deriving DecidableEq, Repr, Inhabited

/-- How a rollout ends. -/
inductive Outcome where
  | deployed
  | failed (why : Failure)
  deriving DecidableEq, Repr, Inhabited

/-! ## Texts -/

/-- A list of items, one a line, with a word for none. -/
def itemLines (items : List String) : String :=
  (if items.isEmpty then "\t(none)\n" else "") ++ String.join (items.map fun i => "\t" ++ i ++ "\n")

/-- The first lines of a failed rollout's reason. -/
def failedHeader (status : String) : String :=
  "Application deployment failed. Rollout status \"" ++ status ++ "\"\n\n"

def SyncReport.lines (r : SyncReport) : String :=
  "App sync status \"" ++ r.sync ++ "\"\nApp operation phase \"" ++ r.phase ++
    "\"\nApp operation message \"" ++ r.message ++ "\"\nResources:\n" ++ itemLines r.resources

def HealthReport.lines (r : HealthReport) : String :=
  "App sync status \"" ++ r.sync ++ "\"\nApp health status \"" ++ r.health ++ "\"\n" ++
    (match nonEmpty r.message with
      | some m => "App health message \"" ++ m ++ "\"\n"
      | none => "") ++
    "Resources:\n" ++ itemLines r.resources

namespace Failure

/-- The status stored for a failure. -/
def status : Failure → Status
  | controlPlane (.notFound _) => .appNotFound
  | controlPlane (.connectionRefused _) => .unavailable
  | _ => .failed

/-- The reason stored for a failure. -/
def reason : Failure → String
  | controlPlane (.connectionRefused t) => "ArgoCD is unavailable: " ++ t
  | controlPlane e => "ArgoCD API Error: " ++ e.message
  | gitOps m => "failed to update GitOps repository: " ++ m
  | notAvailable current expected =>
    failedHeader "not available" ++ "List of current images (last app check):\n" ++ itemLines current ++
      "\nList of expected images:\n" ++ itemLines expected
  | notSynced r => failedHeader "not synced" ++ r.lines
  | notHealthy r => failedHeader "not healthy" ++ r.lines
  | degraded r =>
    failedHeader "degraded" ++ "Deployed images changed since the rollout started.\n" ++ r.lines

end Failure

/-- Status and reason stored for an outcome. -/
def Outcome.stored : Outcome → Status × String
  | deployed => (.deployed, "")
  | failed f => (f.status, f.reason)

end DeployWatch
