/-!
# Errors of GitOps updates

* `GitOpsError`: why an update failed, and whether trying again may help;
* `LockError`: why a section under a lock failed;
* `GitOpsError.ofLock`: an update's own error comes back from under its lock as it was.
-/

namespace DeployWatch

/-- What is left of a lock's failure when no update's error is inside it. -/
inductive LockFault where
  /-- The lock itself failed. -/
  | backend (text : String)
  /-- The section failed for a reason of its own. -/
  | inside (text : String)
  deriving DecidableEq, Repr, Inhabited

def LockFault.message : LockFault → String
  | backend t => "lock backend error: " ++ t
  | inside t => t

/-- Why an update of a GitOps repository failed. -/
inductive GitOpsError where
  /-- No usable repository location. -/
  | unresolvable (text : String)
  | git (text : String)
  /-- The override file cannot be read or written. -/
  | overrides
  | io (text : String)
  | lock (fault : LockFault)
  deriving DecidableEq, Repr, Inhabited

namespace GitOpsError

def message : GitOpsError → String
  | unresolvable t => "cannot resolve GitOps repository: " ++ t
  | git t => "git command failed: " ++ t
  | overrides => "invalid override file: "
  | io t => "I/O error: " ++ t
  | lock f => "lock error: " ++ f.message

/-- Whether another attempt may succeed. -/
def isRetryable : GitOpsError → Bool
  | git _ => true
  | io _ => true
  | _ => false

end GitOpsError

/-- Why a section under a lock did not succeed. -/
inductive LockError where
  | backend (text : String)
  /-- An update's error, perhaps with a text put before it. -/
  | update (e : GitOpsError) (context : Option String)
  | inside (text : String)
  deriving DecidableEq, Repr, Inhabited

def LockError.message : LockError → String
  | backend t => (LockFault.backend t).message
  | update e context => context.getD e.message
  | inside t => t

/-- The update's error inside an error under a lock, or the lock's own. -/
def GitOpsError.ofLock : LockError → GitOpsError
  | .backend t => .lock (.backend t)
  | .update e _ => e
  | .inside t => .lock (.inside t)

end DeployWatch
