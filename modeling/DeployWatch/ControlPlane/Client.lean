import DeployWatch.Application.Wire
import DeployWatch.ControlPlane.Error
import DeployWatch.Http.Basic
import DeployWatch.Text.Quoted

/-!
# The client of the control plane

* `ControlPlaneClient`, `ControlPlaneClient.endpoint?`: addresses below the base;
* `ControlPlaneClient.applicationRequest`, `ControlPlaneClient.sessionRequest`: the requests;
* `interpret`: what came of a request as a result.
-/

namespace DeployWatch

open Json (Decoder)

/-- Where the control plane is, and the token for it. -/
structure ControlPlaneClient where
  base : Url
  token : String
  deriving DecidableEq, Repr, Inhabited

namespace ControlPlaneClient

/-- The base as used: with a slash at the end. -/
def root (c : ControlPlaneClient) : Url := c.base.withTrailingSlash

/-- The address of segments below the base. -/
def endpoint? (c : ControlPlaneClient) (names : List String) : Except ControlPlaneError Url :=
  match c.root.extend names with
  | some u => .ok u
  | none => .error (.api ("base URL " ++ c.root.render ++ " cannot hold a path"))

/-- A request for an address. -/
def get (c : ControlPlaneClient) (u : Url) : HttpRequest :=
  { method := "GET", url := u, headers := [("authorization", "Bearer " ++ c.token)] }

/-- Whether a name can be asked for. -/
def isAskable (name : String) : Bool := !(["", ".", ".."].contains name)

/-- The request for an application; names that cannot be a segment are not asked for. -/
def applicationRequest (c : ControlPlaneClient) (name : String) : Except ControlPlaneError HttpRequest :=
  if isAskable name then (c.endpoint? ["api", "v1", "applications", name]).map c.get
  else .error (.notFound ("invalid application name " ++ Text.quoted name))

def sessionRequest (c : ControlPlaneClient) : Except ControlPlaneError HttpRequest :=
  (c.endpoint? ["api", "v1", "session", "userinfo"]).map c.get

end ControlPlaneClient

/-- The error of an answer other than success: some status codes tell it, others leave it to the
text. -/
def answerError (status : Nat) (text : String) : ControlPlaneError :=
  if status = 404 then .notFound text
  else if status = 401 ∨ status = 403 then .unauthorized text
  else .classify ("HTTP " ++ statusText status ++ ": " ++ text)

/-- What came of a request as a result. -/
def interpret {α : Type} (decode : Decoder α) (r : HttpRequest) (a : HttpAnswer) :
    Except ControlPlaneError α :=
  match r.fault? with
  | some text => .error (.classify text)
  | none =>
    match a with
    | .unconnected => .error (.connectionRefused r.unsent)
    | .cutShort => .error (.classify r.unsent)
    | .answered status body =>
      if status = 200 then
        match (Text.decodeUtf8 body).map (Json.decodeText decode) with
        | some (.ok a) => .ok a
        | _ => .error (.api "invalid response body: error decoding response body")
      else .error (answerError status (bodyText body))

/-- Sends a request that could be made. -/
def fetch {α : Type} (decode : Decoder α) (send : HttpRequest → HttpAnswer)
    (r : Except ControlPlaneError HttpRequest) : Except ControlPlaneError α :=
  match r with
  | .error e => .error e
  | .ok r => interpret decode r (send r)

end DeployWatch
