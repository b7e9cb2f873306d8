import DeployWatch.GitOps.Error
import DeployWatch.Number.Digits
import DeployWatch.Text.Blank
import DeployWatch.Text.Quoted
import DeployWatch.Text.Utf8

/-!
# Running git

* `Command`, `CommandResult`: a call of git and what came of it;
* `GitConfig`: who commits, and the key for remote access;
* `sshCommand`, `shellQuote`: the command for remote access as one line of shell text;
* `GitConfig.clone`, `GitConfig.commit`: the calls for a checkout and for a commit with its push.
-/

namespace DeployWatch

open Number (decimalInt decimal)

/-- A call of git. -/
structure Command where
  arguments : List String
  /-- The directory it runs in. -/
  directory : String
  /-- The command for remote access, if it is not the usual one. -/
  ssh : Option String
  deriving DecidableEq, Repr, Inhabited

/-- Whether a call can be started: neither its arguments nor its surroundings hold a NUL character, which
would end them. -/
def Command.isStartable (c : Command) : Bool :=
  !(c.arguments ++ c.ssh.toList).any fun s => s.toList.contains '\x00'

/-- The error of a call that cannot be started because of a NUL character. -/
def nulInCommand : String := "nul byte found in provided data"

inductive ExitStatus where
  | code (n : Int)
  | signal (n : Nat)
  deriving DecidableEq, Repr, Inhabited

/-- What came of a call: an error before it could start, or its end and its output. -/
inductive CommandResult where
  | notStarted (error : String)
  | ended (status : ExitStatus) (output errors : List UInt8)
  deriving DecidableEq, Repr, Inhabited

def signalNames : List String :=
  ["HUP", "INT", "QUIT", "ILL", "TRAP", "ABRT", "BUS", "FPE", "KILL", "USR1", "SEGV", "USR2", "PIPE",
    "ALRM", "TERM", "STKFLT", "CHLD", "CONT", "STOP", "TSTP", "TTIN", "TTOU", "URG", "XCPU", "XFSZ",
    "VTALRM", "PROF", "WINCH", "IO", "PWR", "SYS"]

/-- The text of an end. -/
def ExitStatus.text : ExitStatus → String
  | code n => "exit status: " ++ String.ofList (decimalInt n)
  | signal n =>
    "signal: " ++ String.ofList (decimal n) ++
      match (signalNames[n - 1]?).filter fun _ => 0 < n with
      | some name => " (SIG" ++ name ++ ")"
      | none => ""

/-- Output as text without its blank ends; ill-formed stretches read as U+FFFD. -/
def outputText (bytes : List UInt8) : String := Text.trim (Text.decodeUtf8Lossy bytes)

/-- The result of a call as success or the update's error. -/
def CommandResult.check (c : Command) : CommandResult → Except GitOpsError Unit
  | notStarted e => .error (.io e)
  | ended (.code 0) _ _ => .ok ()
  | ended status _ errors =>
    .error (.git (Text.quotedArguments c.arguments ++ " exited with " ++ status.text ++ ": " ++
      outputText errors))

/-- Who commits, and the key for remote access. -/
structure GitConfig where
  sshKeyPath : Option String := none
  authorName : String := "argo-watcher"
  authorEmail : String := "argo-watcher@localhost"
  deriving DecidableEq, Repr, Inhabited

/-- A text in single quotes for the shell; a single quote ends them, stands escaped, and starts them
anew. -/
def shellQuote (s : String) : String :=
  String.ofList ('\x27' ::
    s.toList.flatMap (fun c => if c = '\x27' then ['\x27', '\\', '\x27', '\x27'] else [c]) ++ ['\x27'])

/-- The command for remote access with a key. -/
def sshCommand (key : String) : String :=
  "ssh -i " ++ shellQuote key ++ " -o IdentitiesOnly=yes -o StrictHostKeyChecking=accept-new"

namespace GitConfig

/-- A call of git in a directory. -/
def command (g : GitConfig) (directory : String) (arguments : List String) : Command :=
  ⟨arguments, directory, g.sshKeyPath.map sshCommand⟩

/-- The call that clones one branch, without its history, into a directory. -/
def clone (g : GitConfig) (url branch directory : String) : Command :=
  g.command directory ["clone", "--depth", "1", "--branch", branch, "--", url, directory]

/-- The calls that commit a file and push the commit. -/
def commit (g : GitConfig) (directory branch file message : String) : List Command :=
  [g.command directory ["add", "--", file],
    g.command directory ["-c", "user.name=" ++ g.authorName, "-c", "user.email=" ++ g.authorEmail,
      "commit", "-m", message],
    g.command directory ["push", "origin", "HEAD:refs/heads/" ++ branch]]

end GitConfig

end DeployWatch
