import DeployWatch.Text.Blank
import DeployWatch.Time.Instant
import DeployWatch.Uuid

/-!
# Deployment tasks

A task asks to watch one application until the expected images run. A `Submission` is what a caller
hands in; a `Task` is the stored record with an identity and a status.

* `Status`, `Status.text`, `Status.ofText?`: the life of a task;
* `Submission.check`: the admission rules;
* `Submission.toTask`: the record of an admitted submission.
-/

namespace DeployWatch

open DeployWatch.Time (Instant)
open DeployWatch.Text (isBlankText)

/-- An image repository and a tag. -/
structure Image where
  repository : String
  tag : String
  deriving DecidableEq, Repr, Inhabited

/-- The reference `repository:tag`. -/
def Image.reference (i : Image) : String := i.repository ++ ":" ++ i.tag

/-- The status of a task. -/
inductive Status where
  | inProgress
  | deployed
  | failed
  | appNotFound
  | aborted
  | unavailable
  deriving DecidableEq, Repr, Inhabited

namespace Status

def text : Status → String
  | inProgress => "in progress"
  | deployed => "deployed"
  | failed => "failed"
  | appNotFound => "app not found"
  | aborted => "aborted"
  | unavailable => "ArgoCD is unavailable"

/-- The status of a stored text. -/
def ofText? (s : String) : Option Status :=
  [inProgress, deployed, failed, appNotFound, aborted, unavailable].find? fun st => st.text = s

/-- Whether no further change is expected. -/
def isTerminal (s : Status) : Bool := s != inProgress

end Status

/-- Why a task is refused. -/
inductive TaskError where
  | emptyApp
  | noImages
  | incompleteImage (image : Image)
  | unknownStatus (text : String)
  deriving DecidableEq, Repr, Inhabited

def TaskError.message : TaskError → String
  | emptyApp => "invalid task: app must not be empty"
  | noImages => "invalid task: images must contain at least one entry"
  | incompleteImage i => "invalid task: image reference '" ++ i.reference ++ "' is incomplete"
  | unknownStatus s => "unknown task status: " ++ s

/-- Reads a status or names the unknown text. -/
def Status.parse (s : String) : Except TaskError Status :=
  match ofText? s with
  | some st => .ok st
  | none => .error (.unknownStatus s)

/-- A task as handed in. -/
structure Submission where
  app : String := ""
  author : String := ""
  project : String := ""
  images : List Image := []
  /-- Time to watch in seconds; zero stands for the default number of polls. -/
  timeout : Int64 := 0
  /-- Whether the caller may have the GitOps repository changed. -/
  validated : Bool := false
  deriving DecidableEq, Repr, Inhabited

/-- Whether a part of an image is blank. -/
def Image.isIncomplete (i : Image) : Bool := isBlankText i.repository || isBlankText i.tag

/-- The first admission rule that a submission breaks: a blank application, no image, an image with a
blank part. -/
def Submission.check (s : Submission) : Except TaskError Unit :=
  if isBlankText s.app then .error .emptyApp
  else if s.images.isEmpty then .error .noImages
  else match s.images.find? Image.isIncomplete with
    | some i => .error (.incompleteImage i)
    | none => .ok ()

structure Task where
  id : Uuid
  created : Instant
  updated : Instant
  app : String
  author : String
  project : String
  images : List Image
  status : Status
  /-- The diagnosis of a failure; empty while in progress and after success. -/
  reason : String
  timeout : Int64
  validated : Bool
  deriving DecidableEq, Repr, Inhabited

/-- The record of a submission stored at an instant. -/
def Submission.toTask (s : Submission) (id : Uuid) (now : Instant) : Task where
  id := id
  created := now
  updated := now
  app := s.app
  author := s.author
  project := s.project
  images := s.images
  status := .inProgress
  reason := ""
  timeout := s.timeout
  validated := s.validated

def Task.expected (t : Task) : List String := t.images.map Image.reference

end DeployWatch
