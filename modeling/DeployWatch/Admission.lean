import DeployWatch.Program

/-!
# Admitting tasks

* `Health.check`: whether store and control plane can be used;
* `admitTask`: takes a submission into the store;
* `listTasks`: a listing together with the state of health.
-/

namespace DeployWatch

/-- Why the system cannot take tasks. -/
inductive HealthError where
  | storeUnavailable
  | unreachable (text : String)
  | unauthenticated
  deriving DecidableEq, Repr, Inhabited

def HealthError.message : HealthError → String
  | storeUnavailable => "task store is unavailable"
  | unreachable t => "ArgoCD is unavailable: " ++ t
  | unauthenticated => "ArgoCD session is not authenticated"

/-- Why a task was not admitted. -/
inductive AdmissionError where
  | unhealthy (e : HealthError)
  | invalid (e : TaskError)
  | store (e : StoreError)
  deriving DecidableEq, Repr, Inhabited

def AdmissionError.message : AdmissionError → String
  | unhealthy e => e.message
  | invalid e => e.message
  | store e => e.message

/-- What the answer to a question for the session says about health. -/
def sessionHealth : Except ControlPlaneError Session → Except HealthError Unit
  | .ok s => if s.loggedIn then .ok () else .error .unauthenticated
  | .error (.unauthorized _) => .error .unauthenticated
  | .error e => .error (.unreachable e.message)

/-- Whether an error means that the control plane is out of reach. -/
def HealthError.isUnreachable : HealthError → Bool
  | unreachable _ => true
  | _ => false

/-- Whether a state of health means that the control plane is out of reach. -/
def isUnreachable : Except HealthError Unit → Bool
  | .error e => e.isUnreachable
  | .ok () => false

/-- Checks control plane and store; a store that does not answer outweighs the control plane. -/
def checkHealth : Program (Except HealthError Unit) := do
  let health := sessionHealth (← Program.request .session)
  Program.record (.unavailable (isUnreachable health))
  let ready : Bool ← Program.request .storeReady
  return if ready then health else .error .storeUnavailable

/-- Admits a submission: a healthy system stores a valid one as a task in progress. -/
def admitTask (s : Submission) : Program (Except AdmissionError Task) := do
  match ← checkHealth with
  | .error e => return .error (.unhealthy e)
  | .ok () =>
    match s.check with
    | .error e =>
      Program.audit (.rejected s.app s.author e.message)
      return .error (.invalid e)
    | .ok () =>
      match ← Program.request (.addTask s) with
      | .error e => return .error (.store e)
      | .ok t =>
        Program.record (.processed t.app)
        return .ok t

/-- A listing of tasks with what is wrong, if anything. -/
structure Listing where
  tasks : List Task := []
  total : Nat := 0
  error : Option String := none
  deriving DecidableEq, Repr, Inhabited

/-- Lists tasks; the health error is part of the listing. -/
def listTasks (q : TaskQuery) : Program Listing := do
  let health ← checkHealth
  match ← Program.request (.listTasks q) with
  | .ok page =>
    let error := match health with
      | .ok () => none
      | .error e => some e.message
    return ⟨page.tasks, page.total, error⟩
  | .error e => return { error := some e.message }

end DeployWatch
