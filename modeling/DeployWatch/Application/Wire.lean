import DeployWatch.Application.Basic
import DeployWatch.Json.Decode

/-!
# Application snapshots as JSON

Every member may be left out, and members with other names are passed over.

* `Application.toJson`, `Application.decode`;
* `Session.decode`.
-/

namespace DeployWatch

open Json (Decoder DecodeError)
open Json.Record (field)
open Json.Decode (string option list map)

def Source.toJson (s : Source) : Json :=
  .object [("repoURL", .string s.repoUrl), ("targetRevision", .string s.targetRevision),
    ("path", .string s.path)]

def Source.decode : Decoder Source :=
  Json.Record.read
    [field "repoURL" false string fun v s => { s with repoUrl := v },
      field "targetRevision" false string fun v s => { s with targetRevision := v },
      field "path" false string fun v s => { s with path := v }]
    {}

/-- The JSON form of a map of texts. -/
def textMapJson (m : SortedMap String) : Json := .object (m.entries.map fun e => (e.1, .string e.2))

def Metadata.toJson (m : Metadata) : Json :=
  .object [("name", .string m.name), ("annotations", .ofOption textMapJson m.annotations)]

def Metadata.decode : Decoder Metadata :=
  Json.Record.read
    [field "name" false string fun v m => { m with name := v },
      field "annotations" false (option (map string)) fun v m => { m with annotations := v }]
    {}

def Spec.toJson (s : Spec) : Json :=
  .object [("source", .ofOption Source.toJson s.source), ("sources", .array (s.sources.map Source.toJson))]

def Spec.decode : Decoder Spec :=
  Json.Record.read
    [field "source" false (option Source.decode) fun v s => { s with source := v },
      field "sources" false (list Source.decode) fun v s => { s with sources := v }]
    {}

def Health.toJson (h : Health) : Json :=
  .object [("status", .string h.status), ("message", .ofOption .string h.message)]

def Health.decode : Decoder Health :=
  Json.Record.read
    [field "status" false string fun v h => { h with status := v },
      field "message" false (option string) fun v h => { h with message := v }]
    {}

def ResourceResult.toJson (r : ResourceResult) : Json :=
  .object [("kind", .string r.kind), ("name", .string r.name), ("namespace", .string r.space),
    ("status", .string r.status), ("message", .string r.message),
    ("hookPhase", .ofOption .string r.hookPhase)]

def ResourceResult.decode : Decoder ResourceResult :=
  Json.Record.read
    [field "kind" false string fun v r => { r with kind := v },
      field "name" false string fun v r => { r with name := v },
      field "namespace" false string fun v r => { r with space := v },
      field "status" false string fun v r => { r with status := v },
      field "message" false string fun v r => { r with message := v },
      field "hookPhase" false (option string) fun v r => { r with hookPhase := v }]
    {}

/-- The JSON form of an object with a single member. -/
def singleJson (name : String) (v : Json) : Json := .object [(name, v)]

/-- Decodes an object of which one member counts. -/
def decodeSingle {α : Type} (name : String) (item : Decoder α) (start : α) : Decoder α :=
  Json.Record.read [field name false item fun v _ => v] start

def resultsJson (rs : List ResourceResult) : Json :=
  singleJson "resources" (.array (rs.map ResourceResult.toJson))

def decodeResults : Decoder (List ResourceResult) :=
  decodeSingle "resources" (list ResourceResult.decode) []

def Operation.toJson (o : Operation) : Json :=
  .object [("phase", .string o.phase), ("message", .string o.message),
    ("syncResult", .ofOption resultsJson o.results)]

def Operation.decode : Decoder Operation :=
  Json.Record.read
    [field "phase" false string fun v o => { o with phase := v },
      field "message" false string fun v o => { o with message := v },
      field "syncResult" false (option decodeResults) fun v o => { o with results := v }]
    {}

def Resource.toJson (r : Resource) : Json :=
  .object [("kind", .string r.kind), ("name", .string r.name), ("namespace", .string r.space),
    ("status", .string r.status), ("health", .ofOption Health.toJson r.health)]

def Resource.decode : Decoder Resource :=
  Json.Record.read
    [field "kind" false string fun v r => { r with kind := v },
      field "name" false string fun v r => { r with name := v },
      field "namespace" false string fun v r => { r with space := v },
      field "status" false string fun v r => { r with status := v },
      field "health" false (option Health.decode) fun v r => { r with health := v }]
    {}

def ApplicationState.toJson (s : ApplicationState) : Json :=
  .object [("sync", singleJson "status" (.string s.sync)), ("health", s.health.toJson),
    ("summary", singleJson "images" (.array (s.images.map .string))),
    ("operationState", .ofOption Operation.toJson s.operation),
    ("resources", .array (s.resources.map Resource.toJson))]

def ApplicationState.decode : Decoder ApplicationState :=
  Json.Record.read
    [field "sync" false (decodeSingle "status" string "") fun v s => { s with sync := v },
      field "health" false Health.decode fun v s => { s with health := v },
      field "summary" false (decodeSingle "images" (list string) []) fun v s => { s with images := v },
      field "operationState" false (option Operation.decode) fun v s => { s with operation := v },
      field "resources" false (list Resource.decode) fun v s => { s with resources := v }]
    {}

def Application.toJson (a : Application) : Json :=
  .object [("metadata", a.metadata.toJson), ("spec", a.spec.toJson), ("status", a.state.toJson)]

def Application.decode : Decoder Application :=
  Json.Record.read
    [field "metadata" false Metadata.decode fun v a => { a with metadata := v },
      field "spec" false Spec.decode fun v a => { a with spec := v },
      field "status" false ApplicationState.decode fun v a => { a with state := v }]
    {}

/-- The text of a snapshot decoded. -/
def Application.ofText (text : String) : Except DecodeError Application := Json.decodeText decode text

def Session.decode : Decoder Session :=
  Json.Record.read
    [field "loggedIn" false Json.Decode.bool fun v s => { s with loggedIn := v },
      field "username" false string fun v s => { s with username := v }]
    {}

/-- The text of a session decoded. -/
def Session.ofText (text : String) : Except DecodeError Session := Json.decodeText decode text

end DeployWatch
