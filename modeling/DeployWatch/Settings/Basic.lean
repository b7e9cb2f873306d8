import DeployWatch.GitOps.Command
import DeployWatch.Rollout.Schedule
import DeployWatch.Rollout.Verdict
import DeployWatch.Settings.Environment

/-!
# Settings

* `Settings` and its sections, with their defaults;
* `Settings.read`: the settings that a set of environment variables stands for.
-/

namespace DeployWatch

open Number (Binary64)
open Settings (Value)

inductive Storage where
  | memory
  | postgres
  deriving DecidableEq, Repr, Inhabited

def Storage.text : Storage → String
  | memory => "memory"
  | postgres => "postgres"

structure TelemetrySettings where
  serviceName : String
  level : String
  json : Bool
  endpoint : Option String
  samplingRatio : Binary64
  deriving DecidableEq, Repr, Inhabited

structure DatabaseSettings where
  url : Option String := none
  maxConnections : Nat := 10
  deriving DecidableEq, Repr, Inhabited

/-- Access to the control plane. -/
structure ControlPlaneSettings where
  url : String
  token : String
  /-- Seconds until a request is given up. -/
  timeout : Nat
  deriving DecidableEq, Repr, Inhabited

/-- Watching of rollouts. -/
structure RolloutSettings where
  attempts : Nat := 15
  /-- Seconds between polls. -/
  delay : Nat := 15
  options : CheckOptions := {}
  deriving DecidableEq, Repr, Inhabited

/-- Sweeps of the store, in seconds. -/
structure SweepSettings where
  interval : Nat := 3600
  staleness : Nat := 3600
  deriving DecidableEq, Repr, Inhabited

/-- Updates of GitOps repositories. -/
structure GitSettings where
  enabled : Bool := false
  config : GitConfig := {}
  commitPrefix : String := "argo-watcher"
  backoff : Backoff := {}
  deriving DecidableEq, Repr, Inhabited

/-- Notifications to a webhook. -/
structure WebhookSettings where
  url : Option String := none
  header : String := "Authorization"
  token : Option String := none
  /-- The status codes of a successful delivery. -/
  allowed : List Nat := [200]
  deriving DecidableEq, Repr, Inhabited

structure Settings where
  host : String
  socket : Nat
  telemetry : TelemetrySettings
  storage : Storage
  database : DatabaseSettings
  controlPlane : ControlPlaneSettings
  rollout : RolloutSettings
  sweep : SweepSettings
  git : GitSettings
  webhook : WebhookSettings
  deriving DecidableEq, Repr, Inhabited

namespace Settings

/-- A table of values. -/
abbrev Table := List (String × Value)

/-- A member that must be there. -/
def required {α : Type} (t : Table) (name : String) (read : Value → Option α) : Option α :=
  (t.lookup name).bind read

/-- A member, or a default if it is not there. -/
def orElse {α : Type} (t : Table) (name : String) (read : Value → Option α) (default : α) : Option α :=
  match t.lookup name with
  | none => some default
  | some v => read v

/-- Reads a value that may be absent. -/
def optional {α : Type} (read : Value → Option α) : Value → Option (Option α)
  | .absent => some none
  | v => (read v).map some

/-- The fields of a section, which is a table, or a list of at least `least` items that stand for the
fields in order. Further items do not count. -/
def fieldsOf (names : List String) (least : Nat) : Value → Option Table
  | .table ms => some ms
  | .list items => if items.length < least then none else some (names.zip items)
  | _ => none

/-- Numbers of 16, 32 and 64 bits. -/
def natural16 : Value → Option Nat := Value.natural? 65536

/-- A number of 32 bits. -/
def natural32 : Value → Option Nat := Value.natural? 4294967296

/-- A number of 64 bits. -/
def natural64 : Value → Option Nat := Value.natural? 18446744073709551616

/-- The storage of a name, which may also be the only member of a table. -/
def readStorage (v : Value) : Option Storage :=
  let name := match v with
    | .text s => some s
    | .table [(s, _)] => some s
    | _ => none
  name.bind fun s => [Storage.memory, .postgres].find? fun k => k.text = s

/-- Reads the section on the server: host and socket number. -/
def readServer (v : Value) : Option (String × Nat) := do
  let t ← fieldsOf ["host", "port"] 0 v
  let host ← required t "host" Value.text?
  let socket ← required t "port" natural16
  return (host, socket)

/-- Reads the section on logging and tracing; a list has to reach as far as the endpoint. -/
def readTelemetry (v : Value) : Option TelemetrySettings := do
  let t ← fieldsOf ["service_name", "level", "json", "otlp_endpoint", "sampling_ratio"] 4 v
  let serviceName ← required t "service_name" Value.text?
  let level ← orElse t "level" Value.text? "info"
  let json ← orElse t "json" Value.flag? true
  let endpoint ← orElse t "otlp_endpoint" (optional Value.text?) none
  let samplingRatio ← orElse t "sampling_ratio" Value.number? (.ofInt 1)
  return { serviceName, level, json, endpoint, samplingRatio }

def readDatabase (v : Value) : Option DatabaseSettings := do
  let t ← fieldsOf ["url", "max_connections"] 1 v
  let url ← orElse t "url" (optional Value.text?) none
  let maxConnections ← orElse t "max_connections" natural32 10
  return { url, maxConnections }

def readControlPlane (v : Value) : Option ControlPlaneSettings := do
  let t ← fieldsOf ["url", "token", "timeout_secs"] 0 v
  let url ← required t "url" Value.text?
  let token ← required t "token" Value.text?
  let timeout ← orElse t "timeout_secs" natural64 60
  return { url, token, timeout }

/-- Reads the section on watching; an empty registry is none. -/
def readRollout (v : Value) : Option RolloutSettings := do
  let t ← fieldsOf ["retry_delay_secs", "default_attempts", "registry_proxy", "accept_suspended"] 0 v
  let delay ← orElse t "retry_delay_secs" natural64 15
  let attempts ← orElse t "default_attempts" natural32 15
  let registryProxy ← orElse t "registry_proxy" (optional Value.text?) none
  let acceptSuspended ← orElse t "accept_suspended" Value.flag? false
  return { attempts, delay, options := ⟨registryProxy.filter (!·.isEmpty), acceptSuspended⟩ }

/-- Minutes in seconds, of 64 bits at most. -/
def minutes (n : Nat) : Nat := min (n * 60) Value.maxNatural

def readSweep (v : Value) : Option SweepSettings := do
  let t ← fieldsOf ["interval_minutes", "staleness_minutes"] 0 v
  let interval ← orElse t "interval_minutes" natural64 60
  let staleness ← orElse t "staleness_minutes" natural64 60
  return { interval := minutes interval, staleness := minutes staleness }

def readGit (v : Value) : Option GitSettings := do
  let t ← fieldsOf ["enabled", "ssh_key_path", "author_name", "author_email", "commit_prefix",
    "backoff_attempts", "backoff_base_delay_ms"] 0 v
  let enabled ← orElse t "enabled" Value.flag? false
  let sshKeyPath ← orElse t "ssh_key_path" (optional Value.text?) none
  let authorName ← orElse t "author_name" Value.text? "argo-watcher"
  let authorEmail ← orElse t "author_email" Value.text? "argo-watcher@localhost"
  let commitPrefix ← orElse t "commit_prefix" Value.text? "argo-watcher"
  let attempts ← orElse t "backoff_attempts" natural32 3
  let baseDelay ← orElse t "backoff_base_delay_ms" natural64 1000
  return { enabled, config := { sshKeyPath, authorName, authorEmail }, commitPrefix,
           backoff := ⟨.ofNat attempts, .ofNat baseDelay⟩ }

def readWebhook (v : Value) : Option WebhookSettings := do
  let t ← fieldsOf ["url", "auth_header", "token", "allowed_codes"] 0 v
  let url ← orElse t "url" (optional Value.text?) none
  let header ← orElse t "auth_header" Value.text? "Authorization"
  let token ← orElse t "token" (optional Value.text?) none
  let allowed ← orElse t "allowed_codes" (Value.naturals? 65536) [200]
  return { url, header, token, allowed }

/-- The values that are there without any variable. -/
def defaults : Value :=
  .table [("server", .table [("host", .text "0.0.0.0"), ("port", .whole 8080)]),
    ("telemetry", .table [("service_name", .text "rollout-watcher"),
      ("sampling_ratio", .number (.ofInt 1))])]

/-- Reads all settings from a tree. -/
def ofTree (tree : Value) : Option Settings := do
  let t := tree.members
  let (host, socket) ← required t "server" readServer
  let telemetry ← required t "telemetry" readTelemetry
  let storage ← orElse t "storage" readStorage .memory
  let database ← orElse t "database" readDatabase {}
  let controlPlane ← required t "argo" readControlPlane
  let rollout ← orElse t "rollout" readRollout {}
  let sweep ← orElse t "sweep" readSweep {}
  let git ← orElse t "git" readGit {}
  let webhook ← orElse t "webhook" readWebhook {}
  return { host, socket, telemetry, storage, database, controlPlane, rollout, sweep, git, webhook }

/-- The settings that environment variables stand for, if they stand for any. -/
def read (environment : List (String × String)) : Option Settings :=
  ofTree (ofEnvironment defaults environment)

end Settings

end DeployWatch
