import DeployWatch.Program.Alone
import DeployWatch.Rollout.Schedule
import DeployWatch.Simulation.Event

/-!
# A simulated world

Surroundings in which every answer is a function of the state: a store that can be cut off, a control
plane and a remote repository that follow scripts, and a clock that stands still unless someone waits.

* `World` and its parts `StoreMode`, `Remote`, `Console`;
* `World.answer`, `World.surroundings`.
-/

namespace DeployWatch.Simulation

open Time (Instant)

/-- How much of the store can be used. -/
inductive StoreMode where
  | up
  | readOnly
  | down
  deriving DecidableEq, Repr, Inhabited

/-- The error of every call to a store that is cut off. -/
def closedPool : StoreError := .database "attempted to acquire a connection on a closed pool"

/-- The error of a write to a store that can only be read. -/
def poolTimeout : StoreError := .database "pool timed out while waiting for an open connection"

/-- Runs a call that reads the store. -/
def StoreMode.reading {α : Type} (m : StoreMode) (call : Except StoreError α) : Except StoreError α :=
  match m with
  | down => .error closedPool
  | _ => call

/-- Runs a call that writes to the store. -/
def StoreMode.writing {α : Type} (m : StoreMode) (call : Except StoreError α) : Except StoreError α :=
  match m with
  | up => call
  | readOnly => .error poolTimeout
  | down => .error closedPool

/-- A remote repository: its files by path, and the errors of the next checkouts and pushes. -/
structure Remote where
  files : SortedMap Item := .empty
  checkoutErrors : List (Option GitOpsError) := []
  pushErrors : List (Option GitOpsError) := []

/-- The result of the next call of a script of errors, which goes on with successes. -/
def nextResult (errors : List (Option GitOpsError)) : Except GitOpsError Unit :=
  match errors with
  | some e :: _ => .error e
  | _ => .ok ()

/-- A shell in which git is called: what came of the next calls, and the calls so far. -/
structure Console where
  results : List CommandResult := []
  /-- Whether there is no git at all. -/
  missing : Bool := false
  calls : List Command := []
  directories : Nat := 0

/-- The state of a simulated world. -/
structure World where
  /-- The clock's reading in nanoseconds since the epoch. -/
  now : Int
  /-- Milliseconds since the start. -/
  time : Nat := 0
  store : TaskStore := {}
  mode : StoreMode := .up
  /-- The number of tasks that were ever stored. -/
  stored : Nat := 0
  session : Except ControlPlaneError Session := .ok ⟨true, ""⟩
  /-- The next answers about applications; the last one is given again and again. -/
  script : List (Except ControlPlaneError Application) := []
  channels : List Channel := []
  remote : Remote := {}
  /-- Items that stand outside the working copies. -/
  outside : FileTree := {}
  console : Console := {}
  metrics : Metrics := {}
  /-- The keys of all locks that were ever asked for. -/
  keys : List String := []
  /-- The events with their times, the newest first. -/
  events : List (Nat × Event) := []
  /-- The audit events, the newest first. -/
  audits : List AuditEvent := []

/-- The identifier of the task that is stored after `n` others. -/
def taskId (n : Nat) : Uuid := ⟨BitVec.ofNat 128 (0x5ca1ab1e_7a5c_4000_8000_000000000000 + n)⟩

namespace World

def instant (w : World) : Instant := .ofNanos w.now

def log (w : World) (e : Event) : World := { w with events := (w.time, e) :: w.events }

/-- The next answer about an application. -/
def nextApplication (w : World) (name : String) : Except ControlPlaneError Application × World :=
  match w.script with
  | [] => (.error (.notFound name), w)
  | [a] => (a, w)
  | a :: rest => (a, { w with script := rest })

def addTask (w : World) (s : Submission) : Except StoreError Task × World :=
  match w.mode.writing (.ok ()) with
  | .error e => (.error e, w)
  | .ok () =>
    let id := taskId w.stored
    let (store, t) := w.store.add s id w.instant
    (.ok t, { w with store := store, stored := w.stored + 1 }.log (.added id))

/-- The task of an identifier. -/
def getTask (w : World) (id : Uuid) : Except StoreError Task := w.mode.reading (w.store.get id)

def setStatus (w : World) (id : Uuid) (status : Status) (reason : String) :
    Except StoreError Unit × World :=
  let w := w.log (.wrote id status)
  match w.mode.writing (w.store.setStatus id status reason w.instant) with
  | .error e => (.error e, w)
  | .ok store => (.ok (), { w with store := store })

/-- Sweeps the store; the clock stands still meanwhile. -/
def sweep (w : World) (staleness : Nat) : Except StoreError SweepReport × World :=
  let w := w.log .swept
  match w.mode.writing (.ok (w.store.sweep staleness w.instant fun _ => w.instant)) with
  | .error e => (.error e, w)
  | .ok (store, report) => (.ok report, { w with store := store })

/-- Copies the remote repository. -/
def checkout (w : World) (r : Repository) : Except GitOpsError WorkingCopy × World :=
  let w := w.log (.checkedOut r)
  let result := (nextResult w.remote.checkoutErrors).map fun () =>
    (⟨"", ⟨(FileTree.ofPaths w.remote.files.entries).items ++ w.outside.items⟩⟩ : WorkingCopy)
  (result, { w with remote := { w.remote with checkoutErrors := w.remote.checkoutErrors.tail } })

/-- Takes one file of a working copy into the remote repository. -/
def push (w : World) (copy : WorkingCopy) (file message : String) : Except GitOpsError Unit × World :=
  let text := (copy.files.readText file).toOption.getD ""
  let w := { w with outside := ⟨copy.files.items.filter fun e => 0 < e.1.above⟩ }
  let w := w.log (.pushed file message text)
  let result := nextResult w.remote.pushErrors
  let files := match result with
    | .ok () => w.remote.files.insert file (.file (Text.encodeUtf8 text))
    | .error _ => w.remote.files
  (result, { w with remote := { w.remote with files := files, pushErrors := w.remote.pushErrors.tail } })

/-- Makes a directory with a name of its own. -/
def newDirectory (w : World) : String × World :=
  let n := w.console.directories
  ("<checkout" ++ String.ofList (Number.decimal n) ++ ">",
    { w with console := { w.console with directories := n + 1 } })

/-- Calls git; calls beyond the script succeed. -/
def call (w : World) (c : Command) : CommandResult × World :=
  if w.console.missing then (.notStarted FileError.notFound.message, w)
  else
    let result := w.console.results.headD (.ended (.code 0) [] [])
    (result, { w with
      console := { w.console with results := w.console.results.tail, calls := w.console.calls ++ [c] } })

/-- Hands a task to all channels and waits for them. -/
def announce (w : World) (t : Task) : Except NotifyError Unit × World :=
  let sending := Notifier.send w.channels t
  let events := sending.deliveries.map fun d => (w.time + d.time, Event.notified d.channel t.status t.reason)
  (sending.result, { w with events := events.reverse ++ w.events, time := w.time + sending.duration })

/-- Notes that the lock of a key was asked for. -/
def noteKey (w : World) (key : String) : World :=
  if w.keys.contains key then w else { w with keys := w.keys ++ [key] }

def answer : (r : Request) → World → r.Answer × World
  | .application name, w => (w.log (.askedApplication name)).nextApplication name
  | .session, w => (w.session, w.log .askedSession)
  | .storeReady, w => (w.mode != .down, w.log .askedStore)
  | .addTask s, w => w.addTask s
  | .listTasks q, w => (w.mode.reading (.ok (q.page w.store.tasks)), w)
  | .setStatus id status reason, w => w.setStatus id status reason
  | .sweep staleness, w => w.sweep staleness
  | .checkout r, w => w.checkout r
  | .push copy _ file message, w => w.push copy file message
  | .newDirectory, w => w.newDirectory
  | .filesIn _, w => (w.outside, w)
  | .run c, w => w.call c
  | .sleep duration, w => ((), { w with time := w.time + duration })
  | .clockNanos, w => (Backoff.jitterSource w.now, w)
  | .elapsed, w => (w.time, w)
  | .announce t, w => w.announce t
  | .record m, w => ((), { w with metrics := w.metrics.record m }.log (.measured m))
  | .audit e, w => ((), { w with audits := e :: w.audits })
  | .acquire key, w => ((), w.noteKey key)
  | .release _, w => ((), w)

/-- The world as surroundings of programs. -/
def surroundings : Surroundings World where
  answer := answer
  time := World.time
  atTime t w := { w with time := t }

/-- The log, audit events last. -/
def logLines (w : World) : List String := w.events.reverse.map logLine ++ w.audits.reverse.map auditLine

/-- The same world with an empty log and the milliseconds counted from now. -/
def fresh (w : World) : World := { w with time := 0, events := [], audits := [] }

end World

end DeployWatch.Simulation
