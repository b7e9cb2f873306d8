import DeployWatch.Application.Wire
import DeployWatch.Proofs.Json.Format

/-!
# Snapshots read back

* `Application.outline`: the names that are known at every level of a snapshot;
* `Application.format`: the format of snapshots, made of those of its parts;
* `reads`, `blind`: a snapshot is read back, and further members make no difference to it;
* **`Application.snapshot_round_trip`**: the same of texts.
-/

namespace DeployWatch

open Json (Format Part Outline Reads Blind Adds Holds Doc)
open Json.Part (of)

/-! ## Formats of the parts -/

namespace Source

def format : Format Source :=
  .record [of "repoURL" (fun v s => { s with repoUrl := v }) repoUrl .text,
    of "targetRevision" (fun v s => { s with targetRevision := v }) targetRevision .text,
    of "path" (fun v s => { s with path := v }) path .text]
    {} (by decide) fun _ => rfl

end Source

namespace Metadata

def format : Format Metadata :=
  .record [of "name" (fun v m => { m with name := v }) name .text,
    of "annotations" (fun v m => { m with annotations := v }) annotations (.optional .textMap nofun)]
    {} (by decide) fun _ => rfl

end Metadata

namespace Spec

def format : Format Spec :=
  .record [of "source" (fun v s => { s with source := v }) source (.optional Source.format nofun),
    of "sources" (fun v s => { s with sources := v }) sources (.list Source.format)]
    {} (by decide) fun _ => rfl

end Spec

namespace Health

def format : Format Health :=
  .record [of "status" (fun v h => { h with status := v }) status .text,
    of "message" (fun v h => { h with message := v }) message (.optional .text nofun)]
    {} (by decide) fun _ => rfl

end Health

namespace ResourceResult

def format : Format ResourceResult :=
  .record [of "kind" (fun v r => { r with kind := v }) kind .text,
    of "name" (fun v r => { r with name := v }) name .text,
    of "namespace" (fun v r => { r with space := v }) space .text,
    of "status" (fun v r => { r with status := v }) status .text,
    of "message" (fun v r => { r with message := v }) message .text,
    of "hookPhase" (fun v r => { r with hookPhase := v }) hookPhase (.optional .text nofun)]
    {} (by decide) fun _ => rfl

end ResourceResult

namespace Operation

def format : Format Operation :=
  .record [of "phase" (fun v o => { o with phase := v }) phase .text,
    of "message" (fun v o => { o with message := v }) message .text,
    of "syncResult" (fun v o => { o with results := v }) results
      (.optional (.single "resources" (.list ResourceResult.format) []) nofun)]
    {} (by decide) fun _ => rfl

end Operation

namespace Resource

def format : Format Resource :=
  .record [of "kind" (fun v r => { r with kind := v }) kind .text,
    of "name" (fun v r => { r with name := v }) name .text,
    of "namespace" (fun v r => { r with space := v }) space .text,
    of "status" (fun v r => { r with status := v }) status .text,
    of "health" (fun v r => { r with health := v }) health (.optional Health.format nofun)]
    {} (by decide) fun _ => rfl

end Resource

namespace ApplicationState

def format : Format ApplicationState :=
  .record [of "sync" (fun v s => { s with sync := v }) sync (.single "status" .text ""),
    of "health" (fun v s => { s with health := v }) health Health.format,
    of "summary" (fun v s => { s with images := v }) images (.single "images" (.list .text) []),
    of "operationState" (fun v s => { s with operation := v }) operation
      (.optional Operation.format nofun),
    of "resources" (fun v s => { s with resources := v }) resources (.list Resource.format)]
    {} (by decide) fun _ => rfl

end ApplicationState

/-! ## Snapshots -/

namespace Application

def format : Format Application :=
  .record [of "metadata" (fun v a => { a with metadata := v }) metadata Metadata.format,
    of "spec" (fun v a => { a with spec := v }) spec Spec.format,
    of "status" (fun v a => { a with state := v }) state ApplicationState.format]
    {} (by decide) fun _ => rfl

theorem reads (a : Application) : Reads decode a.toJson a := format.reads a

/-- What is known at every level of a snapshot. The annotations are a map, in which every name counts. -/
def outline : Outline :=
  let source := .record [("repoURL", .value), ("targetRevision", .value), ("path", .value)]
  let health := .record [("status", .value), ("message", .value)]
  let result := .record [("kind", .value), ("name", .value), ("namespace", .value), ("status", .value),
    ("message", .value), ("hookPhase", .value)]
  let resource := .record [("kind", .value), ("name", .value), ("namespace", .value),
    ("status", .value), ("health", health)]
  .record [("metadata", .record [("name", .value), ("annotations", .value)]),
    ("spec", .record [("source", source), ("sources", .list source)]),
    ("status", .record [("sync", .record [("status", .value)]), ("health", health),
      ("summary", .record [("images", .list .value)]),
      ("operationState", .record [("phase", .value), ("message", .value),
        ("syncResult", .record [("resources", .list result)])]),
      ("resources", .list resource)])]

theorem blind : Blind decode outline := format.blind

/-- **The text of a snapshot loses nothing.** Whatever texts, maps and lists a snapshot holds, its text is
decoded to the same snapshot, and so a payload that was decoded, written and decoded again is as it was
decoded first. In an accepted payload any number of members may be added at any level under names that
are not known there: it is decoded to the same snapshot. -/
theorem snapshot_round_trip :
    (∀ a : Application, ofText a.toJson.render = .ok a) ∧
    (∀ text, (ofText text >>= fun a => ofText a.toJson.render) = ofText text) ∧
    ∀ text a, ofText text = .ok a → ∃ d, Holds text d ∧
      ∀ text' d', Relation.ReflTransGen (Adds outline) d d' → Holds text' d' → ofText text' = .ok a := by
  have hread : ∀ a : Application, ofText a.toJson.render = .ok a :=
    fun a => Json.decodeText_render a.reads
  refine ⟨hread, fun text => ?_, fun text a h => ?_⟩
  · simp only [hread]
    exact bind_pure _
  · obtain ⟨d, hd⟩ := Json.exists_holds h
    refine ⟨d, hd, fun text' d' hadds hd' => ?_⟩
    rw [← h]
    exact Json.decodeText_of_adds blind hd hd' hadds

/-! ## A payload with further members -/

/-- A payload in which the state is written as the array of its fields. -/
def rowPayload : String :=
  "\x7b\"metadata\":\x7b\"name\":\"demo\"\x7d,\"status\":[\x7b\"status\":\"Synced\"\x7d]\x7d"

def rowTree : Doc :=
  .object [(.ok "metadata", .object [(.ok "name", .string (.ok "demo"))] none),
    (.ok "status", .array [.object [(.ok "status", .string (.ok "Synced"))] none] none)] none

/-- The payload with a member in front, and with a half of a character in a member of the state. -/
def fullerPayload : String :=
  " \x7b\"kind\":[true,[]],\"metadata\":\x7b\"name\":\"demo\"\x7d," ++
    "\"status\":[\x7b\"status\":\"Synced\",\"revision\":\"\\ud800\"\x7d]\x7d "

def fullerTree : Doc :=
  .object [(.ok "kind", .array [.bool true, .array [] none] none),
    (.ok "metadata", .object [(.ok "name", .string (.ok "demo"))] none),
    (.ok "status", .array [.object [(.ok "status", .string (.ok "Synced")),
      (.ok "revision", .string (.error .malformed))] none] none)] none

theorem rowTree_adds : Relation.ReflTransGen (Adds outline) rowTree fullerTree := by
  -- The member of the state is added first: it stands in the first column of the array.
  have hstate : Adds outline rowTree _ :=
    .inMember [_] [] rfl (.inColumn [] [] rfl
      (.here [_] [] "revision" (.string (.error .malformed)) (by decide) rfl))
  have hfront : Adds outline _ fullerTree :=
    .here [] _ "kind" (.array [.bool true, .array [] none] none) (by decide) rfl
  exact (Relation.ReflTransGen.single hstate).tail hfront

theorem snapshot_round_trip_fuller : ∃ a d,
    ofText rowPayload = .ok a ∧ a.state.sync = "Synced" ∧ Holds rowPayload d ∧
    Relation.ReflTransGen (Adds outline) d fullerTree ∧ Holds fullerPayload fullerTree ∧
    ofText fullerPayload = .ok a ∧ ofText a.toJson.render = .ok a := by
  have hrow : Holds rowPayload rowTree := ⟨[], by cbv, by cbv⟩
  have hfuller : Holds fullerPayload fullerTree := ⟨[' '], by cbv, by cbv⟩
  have haccepted : ofText rowPayload = .ok { metadata := { name := "demo" }, state := { sync := "Synced" } } := by
    cbv
  obtain ⟨hread, -, hadded⟩ := snapshot_round_trip
  obtain ⟨d, hd, hsame⟩ := hadded _ _ haccepted
  cases hd.unique hrow
  exact ⟨_, rowTree, haccepted, rfl, hrow, rowTree_adds, hfuller, hsame _ _ rowTree_adds hfuller, hread _⟩

end Application

end DeployWatch
