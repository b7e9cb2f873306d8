import DeployWatch.Proofs.Json.Records
import DeployWatch.Proofs.Time.Rfc3339
import DeployWatch.Proofs.Uuid
import DeployWatch.Task.Wire

/-!
# Tasks read back

* `Image.reads`, `reads_images`: images are read back;
* `Submission.columns`, `Task.columns`: the members of submissions and of tasks;
* `Submission.withDefaults`, `Task.withDefaults`: what stands for members that are left out;
* `Submission.reads_without`, `Task.reads_without`: they are read back, also without the timeout and the
  authorisation;
* **`Task.wire_round_trip`**: the texts of tasks and of submissions lose nothing.
-/

namespace DeployWatch

open Json (Column Reads Decoder reads_string reads_bool reads_int64 reads_list)
open Json.Column (faithful_part)
open Json.Decode (string bool int64)
open DeployWatch.Time (Instant)

/-! ## Images -/

namespace Image

/-- The members of an image. -/
def columns : List (Column Image) :=
  [.part "image" true string (fun v i => { i with repository := v }) repository .string,
    .part "tag" true string (fun v i => { i with tag := v }) tag .string]

theorem reads (i : Image) : Reads decode i.toJson i := by
  have hfaithful : ∀ c ∈ columns, c.Faithful i := by
    simp only [columns, List.forall_mem_cons]
    exact ⟨faithful_part (reads_string _), faithful_part (reads_string _), nofun⟩
  exact Json.reads_object (by decide) (List.Sublist.refl columns) hfaithful (fun _ hc _ => hc) ⟨"", ""⟩

end Image

theorem reads_images (is : List Image) :
    Reads (Json.Decode.list Image.decode) (imagesJson is) is :=
  reads_list fun i _ => i.reads

/-! ## Texts of their own grammar -/

theorem reads_decodeVia {α : Type} {parse : String → Option α} {s : String} {a : α}
    (h : parse s = some a) : Reads (decodeVia parse) (.string s) a := by
  refine ⟨trivial, ?_⟩
  rw [decodeVia, (reads_string s).decoded]
  dsimp only [bind, Except.bind]
  rw [h]
  rfl

theorem Status.ofText_text (s : Status) : ofText? s.text = some s := by
  cases s <;> decide

/-! ## Submissions -/

namespace Submission

/-- The members of a submission. -/
def columns : List (Column Submission) :=
  [.part "app" true string (fun v s => { s with app := v }) app .string,
    .part "author" false string (fun v s => { s with author := v }) author .string,
    .part "project" false string (fun v s => { s with project := v }) project .string,
    .part "images" true (Json.Decode.list Image.decode) (fun v s => { s with images := v }) images
      imagesJson,
    .part "timeout" false int64 (fun v s => { s with timeout := v }) timeout fun n => .int n.toInt,
    .part "validated" false bool (fun v s => { s with validated := v }) validated .bool]

theorem faithful (s : Submission) : ∀ c ∈ columns, c.Faithful s := by
  simp only [columns, List.forall_mem_cons]
  exact ⟨faithful_part (reads_string _), faithful_part (reads_string _),
    faithful_part (reads_string _), faithful_part (reads_images _), faithful_part (reads_int64 _),
    faithful_part (reads_bool _), nofun⟩

/-- The submission with the defaults in place of what is left out. -/
def withDefaults (s : Submission) (omitted : List String) : Submission :=
  { s with
    timeout := if "timeout" ∈ omitted then 0 else s.timeout
    validated := if "validated" ∈ omitted then false else s.validated }

variable {omitted : List String}

/-- A submission is read back, with the defaults for what is left out. -/
theorem reads_without (s : Submission) (h : omitted ⊆ ["timeout", "validated"]) :
    Reads decode (s.toJson.without omitted) (s.withDefaults omitted) := by
  have hkept : ∀ name, name ∉ ["timeout", "validated"] → name ∉ omitted := fun _ hn hm => hn (h hm)
  have hresult : (columns.filter fun c => c.field.name ∉ omitted).foldl (fun r c => c.put s r) {} =
      s.withDefaults omitted := by
    by_cases ht : "timeout" ∈ omitted <;> by_cases hv : "validated" ∈ omitted <;>
      simp [columns, Column.part, Json.Record.field, hkept "app", hkept "author", hkept "project",
        hkept "images", ht, hv, withDefaults]
  exact hresult ▸ Json.reads_without (by decide) s.faithful (by decide) h {}

theorem reads (s : Submission) : Reads decode s.toJson s := by
  have h := s.reads_without (List.nil_subset _)
  simp only [Json.without_nil, withDefaults, List.not_mem_nil, if_false] at h
  exact h

end Submission

/-! ## Tasks -/

namespace Task

/-- The members of a stored task. -/
def columns : List (Column Task) :=
  [.part "id" true (decodeVia Uuid.parse?) (fun v t => { t with id := v }) id fun u => .string u.render,
    .part "created" true (decodeVia Instant.parse?) (fun v t => { t with created := v }) created
      fun i => .string i.render,
    .part "updated" true (decodeVia Instant.parse?) (fun v t => { t with updated := v }) updated
      fun i => .string i.render,
    .part "app" true string (fun v t => { t with app := v }) app .string,
    .part "author" true string (fun v t => { t with author := v }) author .string,
    .part "project" true string (fun v t => { t with project := v }) project .string,
    .part "images" true (Json.Decode.list Image.decode) (fun v t => { t with images := v }) images
      imagesJson,
    .part "status" true (Json.Decode.constant Status.ofText?) (fun v t => { t with status := v }) status
      fun st => .string st.text,
    .part "status_reason" true string (fun v t => { t with reason := v }) reason .string,
    .part "timeout" false int64 (fun v t => { t with timeout := v }) timeout fun n => .int n.toInt,
    .part "validated" false bool (fun v t => { t with validated := v }) validated .bool]

theorem faithful {t : Task} (hcreated : t.created.Civil) (hupdated : t.updated.Civil) :
    ∀ c ∈ columns, c.Faithful t := by
  simp only [columns, List.forall_mem_cons]
  exact ⟨faithful_part (reads_decodeVia (Uuid.parse_render _)),
    faithful_part (reads_decodeVia (Instant.parse_render hcreated)),
    faithful_part (reads_decodeVia (Instant.parse_render hupdated)),
    faithful_part (reads_string _), faithful_part (reads_string _), faithful_part (reads_string _),
    faithful_part (reads_images _), faithful_part (Json.reads_constant (Status.ofText_text _)),
    faithful_part (reads_string _), faithful_part (reads_int64 _), faithful_part (reads_bool _), nofun⟩

/-- The task with the defaults in place of what is left out. -/
def withDefaults (t : Task) (omitted : List String) : Task :=
  { t with
    timeout := if "timeout" ∈ omitted then 0 else t.timeout
    validated := if "validated" ∈ omitted then false else t.validated }

variable {omitted : List String}

/-- A task is read back, with the defaults for what is left out. -/
theorem reads_without {t : Task} (hcreated : t.created.Civil) (hupdated : t.updated.Civil)
    (h : omitted ⊆ ["timeout", "validated"]) :
    Reads decode (t.toJson.without omitted) (t.withDefaults omitted) := by
  have hkept : ∀ name, name ∉ ["timeout", "validated"] → name ∉ omitted := fun _ hn hm => hn (h hm)
  have hresult : (columns.filter fun c => c.field.name ∉ omitted).foldl (fun r c => c.put t r) blank =
      t.withDefaults omitted := by
    by_cases ht : "timeout" ∈ omitted <;> by_cases hv : "validated" ∈ omitted <;>
      simp [columns, Column.part, Json.Record.field, hkept "id", hkept "created", hkept "updated",
        hkept "app", hkept "author", hkept "project", hkept "images", hkept "status",
        hkept "status_reason", ht, hv, withDefaults, blank, Submission.toTask]
  exact hresult ▸ Json.reads_without (by decide) (faithful hcreated hupdated) (by decide) h blank

theorem reads {t : Task} (hcreated : t.created.Civil) (hupdated : t.updated.Civil) :
    Reads decode t.toJson t := by
  have h := reads_without hcreated hupdated (List.nil_subset _)
  simp only [Json.without_nil, withDefaults, List.not_mem_nil, if_false] at h
  exact h

/-- **The texts of tasks and of submissions lose nothing.** Whatever texts, images and numbers a record
holds, and whenever it was created and updated, its text is decoded to the same record. Without the
timeout or the authorisation it is decoded to the same record with zero or with none. -/
theorem wire_round_trip {t : Task} (hcreated : t.created.Civil) (hupdated : t.updated.Civil)
    (s : Submission) (homitted : omitted ⊆ ["timeout", "validated"]) :
    (ofText t.toJson.render = .ok t ∧
      ofText (t.toJson.without omitted).render = .ok (t.withDefaults omitted)) ∧
    Submission.ofText s.toJson.render = .ok s ∧
      Submission.ofText (s.toJson.without omitted).render = .ok (s.withDefaults omitted) := by
  refine ⟨⟨?_, ?_⟩, ?_, ?_⟩
  · exact Json.decodeText_render (reads hcreated hupdated)
  · exact Json.decodeText_render (reads_without hcreated hupdated homitted)
  · exact Json.decodeText_render s.reads
  · exact Json.decodeText_render (s.reads_without homitted)

/-- A record from the first second of the calendar to a leap second, with characters that have to be
escaped and the least timeout. -/
theorem wire_round_trip_far :
    let t : Task :=
      { id := ⟨0x0123456789abcdef0123456789abcdef⟩, created := Instant.least,
        updated := ⟨915148799, 1000000001⟩, app := "a\"\\\n\x01", author := "é", project := "",
        images := [⟨"demo/nginx", "v1"⟩, ⟨"", ":"⟩], status := .unavailable, reason := "\t",
        timeout := -9223372036854775808, validated := true }
    (t.created.Civil ∧ t.updated.Civil ∧ ["timeout", "validated"] ⊆ ["timeout", "validated"]) ∧
    (ofText t.toJson.render = .ok t ∧
      ofText (t.toJson.without ["timeout", "validated"]).render =
        .ok { t with timeout := 0, validated := false }) ∧
    Submission.ofText (Submission.toJson {}).render = .ok {} ∧
      Submission.ofText ((Submission.toJson {}).without ["timeout", "validated"]).render = .ok {} :=
  ⟨⟨by decide, by decide, List.Subset.refl _⟩,
    wire_round_trip (by decide) (by decide) {} (List.Subset.refl ["timeout", "validated"])⟩

end Task

end DeployWatch
