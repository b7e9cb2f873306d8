import DeployWatch.Admission
import DeployWatch.Rollout.Watch

/-!
# The service

* `Watcher.submit`: admits a submission and watches its rollout to the end;
* `SweepSchedule`, `sweepTimes`: sweeps the store again and again.
-/

namespace DeployWatch

/-- Admits a submission; an admitted task is then watched. -/
def Watcher.submit (w : Watcher) (s : Submission) : Program (Except AdmissionError Task) := do
  match ← admitTask s with
  | .error e => return .error e
  | .ok t =>
    w.watch t
    return .ok t

/-- When to sweep. -/
structure SweepSchedule where
  /-- Milliseconds between sweeps. -/
  interval : Nat := 3600000
  /-- The age in nanoseconds from which a task is stale. -/
  staleness : Nat := 3600000000000
  deriving DecidableEq, Repr, Inhabited

/-- Sweeps at once and then after each interval, which is a millisecond at least; a sweep that fails does
not end the series. -/
def sweepTimes (s : SweepSchedule) : Nat → Program Unit
  | 0 => return ()
  | 1 => do let _ ← Program.request (.sweep s.staleness)
  | left + 2 => do
    let _ ← Program.request (.sweep s.staleness)
    Program.sleep (max s.interval 1)
    sweepTimes s (left + 1)

end DeployWatch
