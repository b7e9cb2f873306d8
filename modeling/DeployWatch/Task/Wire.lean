import DeployWatch.Json.Decode
import DeployWatch.Task.Basic
import DeployWatch.Time.Rfc3339

/-!
# Tasks as JSON

* `Submission.toJson`, `Submission.decode`: what callers hand in; everything but the application and
  the images may be left out;
* `Task.toJson`, `Task.decode`: the stored record; only timeout and authorisation may be left out.
-/

namespace DeployWatch

open Json (Decoder DecodeError Doc)
open Json.Record (field)
open DeployWatch.Time (Instant)

def Image.toJson (i : Image) : Json := .object [("image", .string i.repository), ("tag", .string i.tag)]

def Image.decode : Decoder Image :=
  Json.Record.read
    [field "image" true Json.Decode.string fun v i => { i with repository := v },
      field "tag" true Json.Decode.string fun v i => { i with tag := v }]
    ⟨"", ""⟩

def imagesJson (is : List Image) : Json := .array (is.map Image.toJson)

def Submission.toJson (s : Submission) : Json :=
  .object [("app", .string s.app), ("author", .string s.author), ("project", .string s.project),
    ("images", imagesJson s.images), ("timeout", .int s.timeout.toInt), ("validated", .bool s.validated)]

def Submission.decode : Decoder Submission :=
  Json.Record.read
    [field "app" true Json.Decode.string fun v s => { s with app := v },
      field "author" false Json.Decode.string fun v s => { s with author := v },
      field "project" false Json.Decode.string fun v s => { s with project := v },
      field "images" true (Json.Decode.list Image.decode) fun v s => { s with images := v },
      field "timeout" false Json.Decode.int64 fun v s => { s with timeout := v },
      field "validated" false Json.Decode.bool fun v s => { s with validated := v }]
    {}

def Task.toJson (t : Task) : Json :=
  .object [("id", .string t.id.render), ("created", .string t.created.render),
    ("updated", .string t.updated.render), ("app", .string t.app), ("author", .string t.author),
    ("project", .string t.project), ("images", imagesJson t.images), ("status", .string t.status.text),
    ("status_reason", .string t.reason), ("timeout", .int t.timeout.toInt), ("validated", .bool t.validated)]

/-- A value written as a text of its own grammar. -/
def decodeVia {α : Type} (parse : String → Option α) : Decoder α := fun d => do
  let s ← Json.Decode.string d
  match parse s with
  | some v => return v
  | none => .error .mistyped

/-- The record that decoding starts from. -/
def Task.blank : Task :=
  (({} : Submission).toTask Uuid.nil ⟨0, 0⟩)

def Task.decode : Decoder Task :=
  Json.Record.read
    [field "id" true (decodeVia Uuid.parse?) fun v t => { t with id := v },
      field "created" true (decodeVia Instant.parse?) fun v t => { t with created := v },
      field "updated" true (decodeVia Instant.parse?) fun v t => { t with updated := v },
      field "app" true Json.Decode.string fun v t => { t with app := v },
      field "author" true Json.Decode.string fun v t => { t with author := v },
      field "project" true Json.Decode.string fun v t => { t with project := v },
      field "images" true (Json.Decode.list Image.decode) fun v t => { t with images := v },
      field "status" true (Json.Decode.constant Status.ofText?) fun v t => { t with status := v },
      field "status_reason" true Json.Decode.string fun v t => { t with reason := v },
      field "timeout" false Json.Decode.int64 fun v t => { t with timeout := v },
      field "validated" false Json.Decode.bool fun v t => { t with validated := v }]
    Task.blank

/-- The text of a submission decoded. -/
def Submission.ofText (text : String) : Except DecodeError Submission := Json.decodeText decode text

/-- The text of a stored task decoded. -/
def Task.ofText (text : String) : Except DecodeError Task := Json.decodeText decode text

end DeployWatch
