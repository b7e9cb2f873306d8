import DeployWatch.Http.Basic
import DeployWatch.Notification.Fanout
import DeployWatch.Task.Wire

/-!
# Notifications to a webhook

* `Webhook`, `Webhook.request`: a receiver and the request that hands it a task;
* `Webhook.interpret`: what came of the request as a result.
-/

namespace DeployWatch

/-- A receiver of tasks. -/
structure Webhook where
  url : Url
  /-- The name of a header and its value. -/
  authorization : Option (String × String) := none
  /-- The status codes of a successful delivery. -/
  allowed : List Nat := [200]
  deriving DecidableEq, Repr, Inhabited

namespace Webhook

def channelName : String := "webhook"

/-- The request that hands over a task. -/
def request (w : Webhook) (t : Task) : HttpRequest where
  method := "POST"
  url := w.url
  headers := w.authorization.toList
  body := t.toJson.render

/-- What came of a request as a result. -/
def interpret (w : Webhook) (r : HttpRequest) (a : HttpAnswer) : Except NotifyError Unit :=
  match r.fault? with
  | some text => .error (.request text)
  | none =>
    match a with
    | .answered status _ => if w.allowed.contains status then .ok () else .error (.unexpectedStatus status)
    | _ => .error (.request r.unsent)

def deliver (w : Webhook) (send : HttpRequest → HttpAnswer) (t : Task) : Except NotifyError Unit :=
  w.interpret (w.request t) (send (w.request t))

end Webhook

end DeployWatch
