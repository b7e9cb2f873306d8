import DeployWatch.Daemon
import DeployWatch.Program.Together
import DeployWatch.Server.Address
import DeployWatch.Server.Routes
import DeployWatch.Simulation.World

/-!
# Scenarios

A scenario plays steps one after the other in one world. Each step starts with an empty log and counts
milliseconds from its own start.

* `Act`, `Finding`: what a step does and what it finds;
* `play`, `playAll`.
-/

namespace DeployWatch.Simulation

/-- What a step does. -/
inductive Act where
  /-- Moves the clock by a number of nanoseconds. -/
  | advance (nanos : Int)
  | setSession (answer : Except ControlPlaneError Session)
  | setMode (mode : StoreMode)
  | setScript (answers : List (Except ControlPlaneError Application))
  | check
  | admitted (s : Submission)
  | store (s : Submission)
  | listTasks (q : TaskQuery)
  | page (q : TaskQuery)
  | get (id : Uuid)
  | set (id : Uuid) (status : Status) (reason : String)
  | sweep (staleness : Nat)
  | sweepTimes (schedule : SweepSchedule) (times : Nat)
  | submit (s : Submission)
  | submitAll (ss : List Submission)
  /-- Watches a task that is stored. -/
  | watchStored (id : Uuid)
  /-- Watches a task that is not stored. -/
  | watch (s : Submission)
  | observe (s : Submission)
  | request (r : ServerRequest)
  | serve (host : String) (socket : Nat)

/-- What a step finds. -/
inductive Finding where
  | nothing
  | health (r : Except HealthError Unit)
  | admission (r : Except AdmissionError Task)
  | task (r : Except StoreError Task)
  | listing (l : Listing)
  | page (r : Except StoreError TaskPage)
  | report (r : Except StoreError SweepReport)
  | elapsed (time : Nat)
  /-- An admitted task and the task stored in the end. -/
  | submission (r : Except AdmissionError (Task × Except StoreError Task))
  | submissions (rs : List (Except AdmissionError (Except StoreError Task)))
  | outcome (o : Outcome)
  | response (r : Response)
  | served (address : String) (r : Except ListenError Unit)

namespace World

/-- Runs a program in a world. -/
def run {α : Type} (w : World) (p : Program α) : α × World := p.run surroundings w

/-- A submission as a task that was never stored. -/
def unstored (w : World) (s : Submission) : Task := s.toTask .nil w.instant

/-- Watches a task and looks up what is stored then. -/
def watch (w : World) (watcher : Watcher) (t : Task) : Except StoreError Task × World :=
  let ((), w) := w.run (watcher.watch t)
  (w.getTask t.id, w)

/-- Submits and looks up what is stored in the end. -/
def submit (w : World) (watcher : Watcher) (s : Submission) :
    Except AdmissionError (Task × Except StoreError Task) × World :=
  let (r, w) := w.run (watcher.submit s)
  (r.map fun t => (t, w.getTask t.id), w)

def admitAll (w : World) : List Submission → List (Except AdmissionError Task) × World
  | [] => ([], w)
  | s :: rest =>
    let (r, w) := w.run (admitTask s)
    let (rs, w) := w.admitAll rest
    (r :: rs, w)

/-- Admits submissions one after the other and then watches all their rollouts together. -/
def submitAll (w : World) (watcher : Watcher) (ss : List Submission) :
    List (Except AdmissionError (Except StoreError Task)) × World :=
  let (rs, w) := w.admitAll ss
  let tasks := rs.filterMap Except.toOption
  let (_, w) := runTogether surroundings (tasks.map watcher.watch) w
  (rs.map fun r => r.map fun t => w.getTask t.id, w)

def exposition (w : World) : String := "\n".intercalate w.metrics.lines

end World

/-- Plays one act. -/
def play (watcher : Watcher) (w : World) : Act → Finding × World
  | .advance nanos => (.nothing, { w with now := w.now + nanos })
  | .setSession answer => (.nothing, { w with session := answer })
  | .setMode mode => (.nothing, { w with mode := mode })
  | .setScript answers => (.nothing, { w with script := answers })
  | .check => (w.run checkHealth).map .health id
  | .admitted s => (w.run (admitTask s)).map .admission id
  | .store s => (w.addTask s).map .task id
  | .listTasks q => (w.run (DeployWatch.listTasks q)).map .listing id
  | .page q => (w.run (Program.request (.listTasks q))).map .page id
  | .get id => (.task (w.getTask id), w)
  | .set id status reason =>
    match w.setStatus id status reason with
    | (.error e, w) => (.task (.error e), w)
    | (.ok (), w) => (.task (w.getTask id), w)
  | .sweep staleness => (w.sweep staleness).map .report id
  | .sweepTimes schedule times =>
    let ((), w) := w.run (DeployWatch.sweepTimes schedule times)
    (.elapsed w.time, w)
  | .submit s => (w.submit watcher s).map .submission id
  | .submitAll ss =>
    let (rs, w) := w.submitAll watcher ss
    (.submissions rs, w.fresh)
  | .watchStored id =>
    match w.store.get id with
    | .error e => (.task (.error e), w)
    | .ok t => (w.watch watcher t).map .task (fun w => w)
  | .watch s => (w.watch watcher (w.unstored s)).map .task id
  | .observe s => (w.run (watcher.observe (w.unstored s))).map .outcome id
  | .request r => (w.run (respond w.exposition r)).map .response id
  | .serve host socket => (.served (bindText host socket) (listen (bindText host socket)), w)

/-- What a step found and its log. -/
structure Played where
  finding : Finding
  log : List String

/-- Plays acts one after the other. -/
def playAll (watcher : Watcher) (w : World) : List Act → List Played × World
  | [] => ([], w)
  | a :: rest =>
    let (finding, w) := play watcher w.fresh a
    let (more, after) := playAll watcher w rest
    (⟨finding, w.logLines⟩ :: more, after)

/-- The identifiers of all tasks that were ever stored, the first one first. -/
def World.taskIds (w : World) : List Uuid := (List.range w.stored).map taskId

end DeployWatch.Simulation
