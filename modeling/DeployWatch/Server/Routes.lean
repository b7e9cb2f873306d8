import DeployWatch.Admission
import DeployWatch.Server.Target

/-!
# The health server

* `Route`: liveness, readiness and metrics;
* `respond`: the answer to a request.
-/

namespace DeployWatch

/-- What the server shows. -/
inductive Route where
  | live
  | ready
  | metrics
  deriving DecidableEq, Repr, Inhabited

/-- An answer: a status code and a text. -/
structure Response where
  code : Nat
  body : String
  deriving DecidableEq, Repr, Inhabited

namespace Route

def path : Route → String
  | live => "/health/live"
  | ready => "/health/ready"
  | metrics => "/metrics"

/-- The route of a path, which is compared as it stands. -/
def ofPath? (p : String) : Option Route := [live, ready, metrics].find? fun r => r.path = p

/-- The answer of a route, given the exposition text of the metrics. -/
def answer (exposition : String) : Route → Program Response
  | live => return ⟨200, "OK"⟩
  | ready => do
    match ← checkHealth with
    | .ok () => return ⟨200, "up"⟩
    | .error e => return ⟨503, e.message⟩
  | metrics => return ⟨200, exposition⟩

end Route

/-- The answer to a request. A route answers to `GET`, and to `HEAD` with an empty body. -/
def respond (exposition : String) (r : ServerRequest) : Program Response :=
  match Route.ofPath? r.path with
  | none => return ⟨404, ""⟩
  | some route =>
    if r.method = "GET" then route.answer exposition
    else if r.method = "HEAD" then do
      let a ← route.answer exposition
      return { a with body := "" }
    else return ⟨405, ""⟩

end DeployWatch
