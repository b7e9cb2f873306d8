import DeployWatch.Store.Query

/-!
# The task store

Tasks are kept in the order of their admission. Every write of a status moves the time of the last
update forward, also when the clock does not.

* `TaskStore.add`, `TaskStore.setStatus`, `TaskStore.get`;
* `TaskStore.sweep`: removes and aborts tasks that were created too long ago.
-/

namespace DeployWatch

open Time (Instant)

/-- The stored tasks, first admitted first. -/
structure TaskStore where
  tasks : List Task := []
  deriving DecidableEq, Repr, Inhabited

/-- How many tasks a sweep removed and aborted. -/
structure SweepReport where
  removed : Nat
  aborted : Nat
  deriving DecidableEq, Repr, Inhabited

/-- The reason of an aborted task. -/
def abortedReason : String :=
  "task was aborted: no status update was received before the staleness threshold"

/-- The time of an update at `now` after an update at `previous`: `now` if it is later, else a
microsecond after the previous one. -/
def nextUpdate (previous now : Instant) : Instant :=
  if previous < now then now else previous.add 1000

/-- A task with a new status. -/
def Task.withStatus (t : Task) (status : Status) (reason : String) (now : Instant) : Task :=
  { t with status := status, reason := reason, updated := nextUpdate t.updated now }

/-- The instant before which tasks are stale, given the staleness in nanoseconds. -/
def staleCutoff (now : Instant) (staleness : Nat) : Instant := now.before staleness

namespace TaskStore

def size (s : TaskStore) : Nat := s.tasks.length

/-- Stores a submission as a task in progress. -/
def add (s : TaskStore) (submission : Submission) (id : Uuid) (now : Instant) : TaskStore × Task :=
  let t := submission.toTask id now
  (⟨s.tasks.filter (fun u => u.id ≠ id) ++ [t]⟩, t)

def get (s : TaskStore) (id : Uuid) : Except StoreError Task :=
  match s.tasks.find? fun t => t.id = id with
  | some t => .ok t
  | none => .error (.notFound id)

/-- Writes status and reason of a task. -/
def setStatus (s : TaskStore) (id : Uuid) (status : Status) (reason : String) (now : Instant) :
    Except StoreError TaskStore :=
  if s.tasks.any fun t => t.id = id then
    .ok ⟨s.tasks.map fun t => if t.id = id then t.withStatus status reason now else t⟩
  else .error (.notFound id)

/-- Whether a sweep removes a task: its application was not found and it is stale. -/
def isRemovable (cutoff : Instant) (t : Task) : Bool := t.status == .appNotFound && decide (t.created < cutoff)

/-- Whether a sweep aborts a task: it is in progress and stale. -/
def isAbortable (cutoff : Instant) (t : Task) : Bool := t.status == .inProgress && decide (t.created < cutoff)

/-- Removes stale tasks without an application and aborts stale tasks in progress. The clock is read at
the start, for the cutoff, and again for each task that is aborted. -/
def sweep (s : TaskStore) (staleness : Nat) (start : Instant) (readings : Uuid → Instant) :
    TaskStore × SweepReport :=
  let cutoff := staleCutoff start staleness
  let kept := s.tasks.filter fun t => !isRemovable cutoff t
  (⟨kept.map fun t =>
      if isAbortable cutoff t then t.withStatus .aborted abortedReason (readings t.id) else t⟩,
    ⟨s.tasks.countP (isRemovable cutoff), kept.countP (isAbortable cutoff)⟩)

end TaskStore

end DeployWatch
