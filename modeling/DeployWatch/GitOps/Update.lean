import DeployWatch.GitOps.Override
import DeployWatch.Program
import DeployWatch.Rollout.Schedule

/-!
# Updating override files

* `GitClient`: how working copies are got and pushed, and nothing else, with `GitClient.commandLine`;
* `imageParameters`: the parameters that a task sets;
* `readOverrides`, `writeOverrides`, `editOverrides`: the override file of a working copy and its change;
* `Updater.update`: one update under the application's lock, tried again after failures that may pass.
-/

namespace DeployWatch

/-- The requests that access to repositories consists of. -/
def Request.isOfGit : Request → Bool
  | .checkout _ | .push .. | .newDirectory | .filesIn _ | .run _ => true
  | _ => false

/-- Access to repositories, which asks for nothing else. -/
structure GitClient where
  checkout : Repository → Program (Except GitOpsError WorkingCopy)
  push : WorkingCopy → Repository → String → String → Program (Except GitOpsError Unit)
  checkout_only (r : Repository) : (checkout r).Only (·.isOfGit)
  push_only (copy : WorkingCopy) (r : Repository) (file message : String) :
    (push copy r file message).Only (·.isOfGit)

namespace GitClient

/-- Access that the surroundings give. -/
def remote : GitClient where
  checkout r := Program.request (.checkout r)
  push copy r file message := Program.request (.push copy r file message)
  checkout_only _ := ⟨rfl, fun _ => trivial⟩
  push_only _ _ _ _ := ⟨rfl, fun _ => trivial⟩

/-- Runs commands up to the first that fails or cannot be started. -/
def runAll : List Command → Program (Except GitOpsError Unit)
  | [] => return .ok ()
  | c :: rest => do
    if !c.isStartable then return .error (.io nulInCommand)
    let result ← Program.request (.run c)
    match CommandResult.check c result with
    | .ok () => runAll rest
    | .error e => return .error e

theorem runAll_only (cs : List Command) : (runAll cs).Only (·.isOfGit) := by
  induction cs with
  | nil => trivial
  | cons c rest ih =>
    unfold runAll
    split
    · trivial
    · refine ⟨rfl, fun x => ?_⟩
      show Program.Only _ (match CommandResult.check c x with
        | .ok () => runAll rest
        | .error e => .done (.error e))
      split
      · exact ih
      · trivial

/-- Access through calls of git. -/
def commandLine (g : GitConfig) : GitClient where
  checkout r := do
    let directory ← Program.request .newDirectory
    match ← runAll [g.clone r.url r.branch directory] with
    | .ok () =>
      let files ← Program.request (.filesIn directory)
      return .ok ⟨directory, files⟩
    | .error e => return .error e
  push copy r file message := runAll (g.commit copy.directory r.branch file message)
  checkout_only _ := ⟨rfl, fun _ => (runAll_only _).bind fun
    | .ok () => ⟨rfl, fun _ => trivial⟩
    | .error _ => trivial⟩
  push_only _ _ _ _ := runAll_only _

end GitClient

/-! ## The change of a file -/

/-- The parameters that a task sets: the tag of each expected image that has an alias. -/
def imageParameters (t : Task) (notes : Annotations) : List Parameter :=
  t.images.filterMap fun i =>
    (notes.aliasFor? i.repository).map fun name => ⟨imageTagParameter name, i.tag, true⟩

def overridePath (r : Repository) (app : String) : String := joinPath r.path (overrideFileName app)

/-- An error of a file as an error of the update. -/
def fileResult {α : Type} : Except FileError α → Except GitOpsError α
  | .ok a => .ok a
  | .error e => .error (.io e.message)

/-- The text of a file, empty if there is none. -/
def textOrEmpty (t : FileTree) (file : String) : Except GitOpsError String :=
  match t.readText file with
  | .error .notFound => .ok ""
  | r => fileResult r

/-- The override file of a tree; without a file it is one without anything in it. -/
def readOverrides (l : TextLayer) (t : FileTree) (file : String) : Except GitOpsError OverrideFile := do
  match l.parse (← textOrEmpty t file) with
  | none => .error .overrides
  | some f => .ok f

/-- Writes an override file into a tree, with the directories above it. -/
def writeOverrides (l : TextLayer) (f : OverrideFile) (t : FileTree) (file : String) :
    Except GitOpsError FileTree := do
  let t ← fileResult (t.makeDirectories (FileTree.directorySteps file))
  match l.render f with
  | none => .error .overrides
  | some text => fileResult (t.writeText file text)

/-- Merges parameters into an override file; the result is none if that changes nothing. -/
def editOverrides (l : TextLayer) (parameters : List Parameter) (t : FileTree) (file : String) :
    Except GitOpsError (Option FileTree) := do
  let (f, changed) := (← readOverrides l t file).apply parameters
  if changed then return some (← writeOverrides l f t file)
  else return none

/-! ## Updates -/

/-- What updates need besides the application and the task. -/
structure Updater where
  client : GitClient := .remote
  backoff : Backoff := {}
  commitPrefix : String := "argo-watcher"
  layer : TextLayer := .block

namespace Updater

def commitMessage (u : Updater) (t : Task) : String :=
  u.commitPrefix ++ "(" ++ t.app ++ "): update " ++ ", ".intercalate t.expected ++ " by " ++
    (if t.author.isEmpty then "unknown" else t.author)

def committed (r : Repository) (t : Task) (parameters : List Parameter) : AuditEvent :=
  .committed t.app t.id.render r.display (parameters.map fun p => p.name ++ "=" ++ p.value)

/-- One attempt, on a copy of its own. -/
def attempt (u : Updater) (r : Repository) (t : Task) (parameters : List Parameter) :
    Program (Except GitOpsError Unit) := do
  match ← u.client.checkout r with
  | .error e => return .error e
  | .ok copy =>
    let file := overridePath r t.app
    match editOverrides u.layer parameters copy.files file with
    | .error e => return .error e
    | .ok none => return .ok ()
    | .ok (some files) =>
      match ← u.client.push { copy with files := files } r file (u.commitMessage t) with
      | .error e => return .error e
      | .ok () =>
        Program.audit (committed r t parameters)
        return .ok ()

/-- Runs `body` and, while it fails in a way that may pass, waits and runs it again, `left` times at
most; `number` counts the attempts made before. -/
def retrying (b : Backoff) (body : Program (Except GitOpsError Unit)) :
    Nat → Nat → Program (Except GitOpsError Unit)
  | 0, _ => body
  | left + 1, number => do
    match ← body with
    | .ok () => return .ok ()
    | .error e =>
      if e.isRetryable then
        let nanos ← Program.request .clockNanos
        Program.sleep (b.delay (UInt32.ofNat number) nanos)
        retrying b body left (number + 1)
      else return .error e

/-- All attempts of an update. -/
def commit (u : Updater) (r : Repository) (t : Task) (parameters : List Parameter) :
    Program (Except GitOpsError Unit) :=
  retrying u.backoff (u.attempt r t parameters) (u.backoff.count - 1) 0

/-- Writes the tags of a task's images into the override file of a managed application, if the task may
do so. -/
def update (u : Updater) (a : Application) (t : Task) : Program (Except GitOpsError Unit) := do
  let notes := a.watch
  if !notes.managed || !t.validated then return .ok ()
  match Repository.resolve a notes with
  | .error f => return .error (.unresolvable f.message)
  | .ok r =>
    let parameters := imageParameters t notes
    if parameters.isEmpty then return .ok ()
    match ← Program.underLock t.app (u.commit r t parameters) with
    | .ok () => return .ok ()
    | .error e => return .error (.ofLock (.update e none))

end Updater

end DeployWatch
