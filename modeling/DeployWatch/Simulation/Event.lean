import DeployWatch.Audit
import DeployWatch.GitOps.Repository
import DeployWatch.Metrics
import DeployWatch.Task.Basic

/-!
# Events of a simulation

* `Event`: what programs did to their surroundings;
* `Event.text`, `logLine`: its line in a log.
-/

namespace DeployWatch.Simulation

open Number (decimal)

/-- Something that a program did. -/
inductive Event where
  | askedApplication (name : String)
  | askedSession
  | askedStore
  | added (id : Uuid)
  | wrote (id : Uuid) (status : Status)
  | swept
  | measured (m : Metric)
  | notified (channel : String) (status : Status) (reason : String)
  | checkedOut (r : Repository)
  | pushed (file message text : String)
  deriving DecidableEq, Repr, Inhabited

def metricText : Metric → String
  | .processed app => "processed " ++ app
  | .failed app => "failed " ++ app
  | .reset app => "reset " ++ app
  | .unavailable b => "argo_unavailable " ++ (if b then "true" else "false")
  | .entered => "in_progress +1"
  | .left => "in_progress -1"

def Event.text : Event → String
  | askedApplication name => "argo.get " ++ name
  | askedSession => "argo.userinfo"
  | askedStore => "store.check"
  | added id => "store.add " ++ id.render
  | wrote id status => "store.set " ++ id.render ++ " " ++ status.text
  | swept => "store.sweep"
  | measured m => "metric " ++ metricText m
  | notified channel status reason =>
    "notify " ++ channel ++ " " ++ status.text ++ " " ++ Text.quoted reason
  | checkedOut r => "git.checkout " ++ r.display
  | pushed file message text =>
    "git.push " ++ (Json.array [.string file, .string message, .string text]).render

/-- The line of an event that happened so many milliseconds after the start. -/
def logLine (e : Nat × Event) : String := String.ofList (decimal e.1) ++ " " ++ e.2.text

/-- The line of an audit event. -/
def auditLine (e : AuditEvent) : String := "audit " ++ e.line

end DeployWatch.Simulation
