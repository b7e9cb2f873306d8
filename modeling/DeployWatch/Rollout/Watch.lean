import DeployWatch.Application.Annotations
import DeployWatch.GitOps.Update
import DeployWatch.Rollout.Outcome
import DeployWatch.Rollout.Schedule
import DeployWatch.Rollout.Verdict

/-!
# Watching a rollout

* `Watcher`: the settings;
* `Watcher.pollAll`: looks at the application until the rollout has converged, has gone wrong, or the polls
  are used up;
* `Watcher.observe`: takes the baseline, updates overrides, and polls;
* `Watcher.watch`: observes one task, stores its outcome and announces start and end.
-/

namespace DeployWatch

/-- Settings of a watch. -/
structure Watcher where
  poll : PollPolicy := {}
  options : CheckOptions := {}
  /-- Updates of override files, if they are enabled. -/
  updater : Option Updater := none

/-- The failure of a rollout whose last observation was still pending. -/
def exhausted (why : Pending) (a : Application) (t : Task) : Failure :=
  match why with
  | .notAvailable => .notAvailable a.images t.expected
  | .notSynced => .notSynced (.ofApplication a)
  | .degradedUnchanged => .notHealthy (.ofApplication a)
  | .notHealthy => .notHealthy (.ofApplication a)

namespace Watcher

/-- What one snapshot says about a rollout: its outcome, or why to go on. -/
def assess (w : Watcher) (t : Task) (baseline : String) (a : Application) : Outcome ⊕ Pending :=
  if a.watch.fireAndForget then .inl .deployed
  else match judge w.options t.images baseline a.observation with
    | .deployed => .inl .deployed
    | .regressed => .inl (.failed (.degraded (.ofApplication a)))
    | .pending why => .inr why

/-- Looks at the application once; a pending rollout goes on with `pending`. -/
def look (w : Watcher) (t : Task) (baseline : String) (pending : Pending → Application → Program Outcome) :
    Program Outcome := do
  match ← Program.request (.application t.app) with
  | .error e => return .failed (.controlPlane e)
  | .ok a =>
    match w.assess t baseline a with
    | .inl outcome => return outcome
    | .inr why => pending why a

/-- Looks at the application and, while the rollout is pending, waits and looks again, `left` times at
most. -/
def pollTimes (w : Watcher) (t : Task) (baseline : String) : Nat → Program Outcome
  | 0 => w.look t baseline fun why a => return .failed (exhausted why a t)
  | left + 1 => w.look t baseline fun _ _ => do
    Program.sleep w.poll.delay
    w.pollTimes t baseline left

/-- Polls as often as the task's timeout asks for. -/
def pollAll (w : Watcher) (t : Task) (baseline : String) : Program Outcome :=
  w.pollTimes t baseline ((w.poll.forTimeout t.timeout).count - 1)

/-- Updates overrides if that is enabled. -/
def updateOverrides (w : Watcher) (a : Application) (t : Task) : Program (Except GitOpsError Unit) :=
  match w.updater with
  | none => return .ok ()
  | some u => u.update a t

/-- Observes the rollout of a task to its end. -/
def observe (w : Watcher) (t : Task) : Program Outcome := do
  match ← Program.request (.application t.app) with
  | .error e => return .failed (.controlPlane e)
  | .ok a =>
    match ← w.updateOverrides a t with
    | .error e => return .failed (.gitOps e.message)
    | .ok () => w.pollAll t (fingerprint a.images)

def outcomeMetric (app : String) : Outcome → Metric
  | .deployed => .reset app
  | .failed _ => .failed app

/-- Watches one task: announces it, observes its rollout, stores the outcome and announces that. -/
def watch (w : Watcher) (t : Task) : Program Unit := do
  Program.record .entered
  let _ ← Program.request (.announce t)
  let outcome ← w.observe t
  Program.record (outcomeMetric t.app outcome)
  let (status, reason) := outcome.stored
  let _ ← Program.request (.setStatus t.id status reason)
  let _ ← Program.request (.announce { t with status := status, reason := reason })
  Program.record .left

end Watcher

end DeployWatch
