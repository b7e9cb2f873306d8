import DeployWatch.Application.Basic
import DeployWatch.Audit
import DeployWatch.ControlPlane.Error
import DeployWatch.GitOps.Command
import DeployWatch.GitOps.FileTree
import DeployWatch.GitOps.Repository
import DeployWatch.Metrics
import DeployWatch.Notification.Fanout
import DeployWatch.Store.Tasks

/-!
# Programs

What the daemon does is described as a tree: a program has ended with a result, or asks its surroundings
for something and goes on with the answer. Nothing is said here about who answers, and in which order
the requests of several programs are served.

* `Request`, `Request.Answer`: what can be asked for and the type of its answer;
* `Program`, a monad, with `Program.request`, which asks once;
* `Program.underLock`: runs a program while it holds a lock;
* `Program.Only`: a program all of whose requests satisfy a condition.
-/

namespace DeployWatch

/-- A copy of a repository in a directory. -/
structure WorkingCopy where
  directory : String
  files : FileTree
  deriving DecidableEq, Repr, Inhabited

/-- What a program can ask its surroundings for. -/
inductive Request where
  | application (name : String)
  | session
  /-- Whether the store answers. -/
  | storeReady
  | addTask (s : Submission)
  | listTasks (q : TaskQuery)
  | setStatus (id : Uuid) (status : Status) (reason : String)
  /-- Removal and abortion of tasks older than a number of nanoseconds. -/
  | sweep (staleness : Nat)
  /-- A fresh copy of a repository. -/
  | checkout (r : Repository)
  /-- A commit of one file of a copy, pushed to its repository. -/
  | push (copy : WorkingCopy) (r : Repository) (file message : String)
  | newDirectory
  /-- The files in a directory. -/
  | filesIn (directory : String)
  | run (c : Command)
  /-- The passing of a number of milliseconds. -/
  | sleep (duration : Nat)
  /-- The part of the clock's reading below one second, in nanoseconds. -/
  | clockNanos
  /-- The milliseconds that have passed. -/
  | elapsed
  /-- A notification to all channels. -/
  | announce (t : Task)
  | record (m : Metric)
  | audit (e : AuditEvent)
  /-- The lock of a key, once everyone who asked before has released it. -/
  | acquire (key : String)
  | release (key : String)

/-- The type of the answer to a request. -/
def Request.Answer : Request → Type
  | application _ => Except ControlPlaneError Application
  | session => Except ControlPlaneError Session
  | storeReady => Bool
  | addTask _ => Except StoreError Task
  | listTasks _ => Except StoreError TaskPage
  | setStatus .. => Except StoreError Unit
  | sweep _ => Except StoreError SweepReport
  | checkout _ => Except GitOpsError WorkingCopy
  | push .. => Except GitOpsError Unit
  | newDirectory => String
  | filesIn _ => FileTree
  | run _ => CommandResult
  | clockNanos => Nat
  | elapsed => Nat
  | announce _ => Except NotifyError Unit
  | _ => Unit

/-- A program with a result. -/
inductive Program (α : Type) where
  | done (result : α)
  | ask (r : Request) (next : r.Answer → Program α)

namespace Program

variable {α β : Type}

/-- Goes on with a second program after the first. -/
def bind : Program α → (α → Program β) → Program β
  | done a, f => f a
  | ask r next, f => ask r fun x => (next x).bind f

instance : Monad Program where
  pure := done
  bind := bind

/-- Asks once and ends with the answer. -/
def request (r : Request) : Program r.Answer := ask r done

def record (m : Metric) : Program Unit := request (.record m)

def audit (e : AuditEvent) : Program Unit := request (.audit e)

def sleep (duration : Nat) : Program Unit := request (.sleep duration)

/-- Runs a program while it holds the lock of a key. -/
def underLock (key : String) (p : Program α) : Program α := do
  let () ← request (.acquire key)
  let a ← p
  let () ← request (.release key)
  return a

/-- All requests satisfy a condition, whatever the answers. -/
def Only (P : Request → Prop) : Program α → Prop
  | done _ => True
  | ask r next => P r ∧ ∀ x, (next x).Only P

theorem Only.bind {P : Request → Prop} {p : Program α} {f : α → Program β} (hp : p.Only P)
    (hf : ∀ a, (f a).Only P) : (p.bind f).Only P := by
  induction p with
  | done a => exact hf a
  | ask r next ih => exact ⟨hp.1, fun x => ih x (hp.2 x)⟩

theorem Only.mono {P Q : Request → Prop} {p : Program α} (hp : p.Only P) (h : ∀ r, P r → Q r) :
    p.Only Q := by
  induction p with
  | done a => trivial
  | ask r next ih => exact ⟨h r hp.1, fun x => ih x (hp.2 x)⟩

end Program

end DeployWatch
