import DeployWatch.Json.Basic

/-!
# Audit events

* `AuditEvent`: what is recorded for later inspection;
* `AuditEvent.line`: its JSON line.
-/

namespace DeployWatch

/-- An event of the audit log. -/
inductive AuditEvent where
  | startup (component : String)
  | shutdown (reason : String)
  | rejected (app author reason : String)
  | committed (app taskId repository : String) (parameters : List String)
  deriving DecidableEq, Repr, Inhabited

namespace AuditEvent

/-- The JSON form of an event, its kind first. -/
def toJson : AuditEvent → Json
  | startup c => .object [("event_type", .string "system_startup"), ("component", .string c)]
  | shutdown r => .object [("event_type", .string "system_shutdown"), ("reason", .string r)]
  | rejected app author reason =>
    .object [("event_type", .string "task_rejected"), ("app", .string app), ("author", .string author),
      ("reason", .string reason)]
  | committed app taskId repository parameters =>
    .object [("event_type", .string "git_ops_committed"), ("app", .string app),
      ("task_id", .string taskId), ("repository", .string repository),
      ("parameters", .array (parameters.map .string))]

def line (e : AuditEvent) : String := e.toJson.render

end AuditEvent

end DeployWatch
