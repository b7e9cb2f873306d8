import DeployWatch.Number.Digits
import DeployWatch.SortedMap

/-!
# Metrics

* `Metric`, `Metrics.record`: what is counted;
* `Metrics.lines`: the exposition text, line by line.
-/

namespace DeployWatch

open Number (decimal decimalInt)

/-- One measurement. -/
inductive Metric where
  /-- A task of the application was admitted. -/
  | processed (app : String)
  /-- A rollout of the application failed. -/
  | failed (app : String)
  /-- A rollout of the application succeeded. -/
  | reset (app : String)
  /-- The control plane was asked for and could not be reached, or could. -/
  | unavailable (value : Bool)
  /-- A rollout began to be watched. -/
  | entered
  /-- A rollout is no longer watched. -/
  | left
  deriving DecidableEq, Repr, Inhabited

/-- The state of all metrics; gauges that were never touched have no value. -/
structure Metrics where
  processed : SortedMap Nat := .empty
  failed : SortedMap Nat := .empty
  unavailable : Option Bool := none
  inProgress : Option Int := none
  deriving DecidableEq, Inhabited

namespace Metrics

def record (m : Metrics) : Metric → Metrics
  | .processed app => { m with processed := m.processed.insert app ((m.processed.find? app).getD 0 + 1) }
  | .failed app => { m with failed := m.failed.insert app ((m.failed.find? app).getD 0 + 1) }
  | .reset app => { m with failed := m.failed.insert app 0 }
  | .unavailable value => { m with unavailable := some value }
  | .entered => { m with inProgress := some (m.inProgress.getD 0 + 1) }
  | .left => { m with inProgress := some (m.inProgress.getD 0 - 1) }

/-! ## Exposition -/

/-- Escapes a label's text. A backslash is held back until it is known what it escapes: before a quote it
is dropped for the quote's own, and everywhere else it is doubled, behind the line breaks after it. -/
def escapeLabel : Bool → List Char → List Char
  | held, [] => if held then ['\\', '\\'] else []
  | held, c :: rest =>
    if c = '\n' then '\\' :: 'n' :: escapeLabel held rest
    else if c = '"' then '\\' :: '"' :: escapeLabel false rest
    else if c = '\\' then
      (if held then '\\' :: '\\' :: escapeLabel false rest else escapeLabel true rest)
    else if held then '\\' :: '\\' :: c :: escapeLabel false rest
    else c :: escapeLabel false rest

/-- The lines of one metric: what it means, its kind and its samples. -/
def group (name help kind : String) (samples : List String) : List String :=
  if samples.isEmpty then []
  else ("# HELP " ++ name ++ " " ++ help) :: ("# TYPE " ++ name ++ " " ++ kind) :: samples

/-- The samples of a metric by application. -/
def byApp (name : String) (values : SortedMap Nat) : List String :=
  values.entries.map fun (app, n) =>
    name ++ "\x7bapp=\"" ++ String.ofList (escapeLabel false app.toList) ++ "\"\x7d " ++
      String.ofList (decimal n)

/-- The exposition text, line by line; metrics without values are left out. -/
def lines (m : Metrics) : List String :=
  let processed := "watcher_processed_deployments"
  let failed := "watcher_failed_deployment"
  let unavailable := "watcher_argocd_unavailable"
  let inProgress := "watcher_in_progress_tasks"
  group processed "Deployments admitted for observation" "counter" (byApp processed m.processed) ++
  group failed "Failed deployments since the last success" "gauge" (byApp failed m.failed) ++
  group unavailable "Whether Argo CD is unreachable" "gauge"
    (m.unavailable.toList.map fun b => unavailable ++ (if b then " 1" else " 0")) ++
  group inProgress "Rollouts currently being observed" "gauge"
    (m.inProgress.toList.map fun n => inProgress ++ " " ++ String.ofList (decimalInt n))

end Metrics

end DeployWatch
