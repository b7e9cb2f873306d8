import DeployWatch.Rollout.Outcome
import Mathlib.Data.List.Forall2

/-!
# Reports and reasons

What the reports of a snapshot hold and what is stored of an outcome, with all words written out. Each of
these relations holds of one report, or of one text.

* `IfAny`, `Itemized`: texts that may be missing, and lists of items;
* `SyncLine`, `HealthLines`: lines about resources;
* `SyncReport.Describes`, `HealthReport.Describes`: the reports of a snapshot;
* `SyncReport.Reads`, `HealthReport.Reads`: the texts of reports;
* `Outcome.StoredAs`: status and reason of an outcome;
* **`Outcome.storedAs_iff`**: what is stored is this status and this reason.
-/

namespace DeployWatch

/-! ## Parts of texts -/

/-- What is written of a text that may be missing; nothing if it is missing or empty. -/
inductive IfAny (write : String → String) : Option String → String → Prop
  | missing : IfAny write none ""
  | empty : IfAny write (some "") ""
  | given {text : String} (h : text ≠ "") : IfAny write (some text) (write text)

/-- Items, each on a line of its own behind a tab, with a word for none. -/
inductive Itemized : List String → String → Prop
  | none : Itemized [] "\t(none)\n"
  | last (item : String) : Itemized [item] ("\t" ++ item ++ "\n")
  | more {item next : String} {items : List String} {text : String} (h : Itemized (next :: items) text) :
    Itemized (item :: next :: items) ("\t" ++ item ++ "\n" ++ text)

theorem nonEmpty_some {text : String} (h : text ≠ "") : nonEmpty (some text) = some text := by
  simp [nonEmpty, h]

theorem ifAny_iff {write : String → String} {x : Option String} {text : String} :
    IfAny write x text ↔ text = (nonEmpty x).elim "" write := by
  constructor
  · intro h
    cases h with
    | missing => rfl
    | empty => rfl
    | given h => rw [nonEmpty_some h, Option.elim_some]
  · rintro rfl
    cases x with
    | none => exact .missing
    | some given =>
      by_cases h : given = ""
      · rw [h]
        exact .empty
      · rw [nonEmpty_some h]
        exact .given h

theorem itemized_iff {items : List String} {text : String} :
    Itemized items text ↔ text = itemLines items := by
  constructor
  · intro h
    induction h with
    | none => rfl
    | last item => simp [itemLines]
    | more h ih => simp [ih, itemLines]
  · rintro rfl
    induction items with
    | nil => exact .none
    | cons item items ih =>
      cases items with
      | nil => simpa [itemLines] using Itemized.last item
      | cons next items =>
        have h : Itemized (item :: next :: items) ("\t" ++ item ++ "\n" ++ itemLines (next :: items)) :=
          .more ih
        simpa [itemLines] using h

/-! ## Lines about resources -/

/-- The line about what a sync did to a resource. -/
def SyncLine (r : ResourceResult) (line : String) : Prop :=
  ∃ hook said, IfAny (fun phase => " " ++ phase) r.hookPhase hook ∧
    IfAny (fun message => " with message " ++ message) (some r.message) said ∧
    line = r.kind ++ "(" ++ r.name ++ ") " ++ r.status ++ hook ++ said

/-- The lines about resources that are known not to be healthy, in their order. -/
inductive HealthLines : List Resource → List String → Prop
  | nil : HealthLines [] []
  | unknown {r : Resource} {rs : List Resource} {lines : List String} (hunknown : r.health = none)
      (hrest : HealthLines rs lines) : HealthLines (r :: rs) lines
  | healthy {r : Resource} {h : Health} {rs : List Resource} {lines : List String}
      (hknown : r.health = some h) (hhealthy : h.status = "Healthy") (hrest : HealthLines rs lines) :
      HealthLines (r :: rs) lines
  | ailing {r : Resource} {h : Health} {rs : List Resource} {lines : List String} {said : String}
      (hknown : r.health = some h) (hailing : h.status ≠ "Healthy")
      (hsaid : IfAny (fun message => " with message " ++ message) h.message said)
      (hrest : HealthLines rs lines) :
      HealthLines (r :: rs) ((r.kind ++ "(" ++ r.name ++ ") " ++ h.status ++ said) :: lines)

theorem ResourceResult.line_eq (r : ResourceResult) :
    r.line = r.kind ++ "(" ++ r.name ++ ") " ++ r.status ++
      (nonEmpty r.hookPhase).elim "" (fun phase => " " ++ phase) ++
      (nonEmpty (some r.message)).elim "" (fun message => " with message " ++ message) := by
  have hmessage : (if r.message.isEmpty then "" else " with message " ++ r.message) =
      (nonEmpty (some r.message)).elim "" (fun message => " with message " ++ message) := by
    by_cases h : r.message = ""
    · rw [h]
      rfl
    · rw [nonEmpty_some h, Option.elim_some, if_neg (by simpa using h)]
  rw [line, hmessage]
  cases nonEmpty r.hookPhase <;> rfl

theorem Resource.line_of_ailing {r : Resource} {h : Health} (hknown : r.health = some h)
    (hailing : h.status ≠ "Healthy") : r.line = some (r.kind ++ "(" ++ r.name ++ ") " ++ h.status ++
      (nonEmpty h.message).elim "" (fun message => " with message " ++ message)) := by
  rw [line, hknown]
  dsimp only
  rw [if_neg hailing]
  cases nonEmpty h.message <;> rfl

theorem syncLine_iff {r : ResourceResult} {line : String} : SyncLine r line ↔ line = r.line := by
  rw [r.line_eq]
  constructor
  · rintro ⟨hook, said, hhook, hsaid, rfl⟩
    rw [ifAny_iff.mp hhook, ifAny_iff.mp hsaid]
  · rintro rfl
    exact ⟨_, _, ifAny_iff.mpr rfl, ifAny_iff.mpr rfl, rfl⟩

theorem syncLines_iff {rs : List ResourceResult} {lines : List String} :
    List.Forall₂ SyncLine rs lines ↔ lines = rs.map ResourceResult.line := by
  induction rs generalizing lines with
  | nil => exact List.forall₂_nil_left_iff
  | cons r rs ih =>
    cases lines with
    | nil => simp
    | cons line lines => rw [List.forall₂_cons, syncLine_iff, ih, List.map_cons, List.cons.injEq]

theorem healthLines_iff {rs : List Resource} {lines : List String} :
    HealthLines rs lines ↔ lines = rs.filterMap Resource.line := by
  constructor
  · intro h
    induction h with
    | nil => rfl
    | unknown hunknown _ ih => simp [Resource.line, hunknown, ih]
    | healthy hknown hhealthy _ ih => simp [Resource.line, hknown, hhealthy, ih]
    | ailing hknown hailing hsaid _ ih =>
      rw [List.filterMap_cons_some (Resource.line_of_ailing hknown hailing), ifAny_iff.mp hsaid, ih]
  · rintro rfl
    induction rs with
    | nil => exact .nil
    | cons r rs ih =>
      cases hknown : r.health with
      | none => simpa [Resource.line, hknown] using HealthLines.unknown hknown ih
      | some h =>
        by_cases hhealthy : h.status = "Healthy"
        · simpa [Resource.line, hknown, hhealthy] using HealthLines.healthy hknown hhealthy ih
        · rw [List.filterMap_cons_some (Resource.line_of_ailing hknown hhealthy)]
          exact .ailing hknown hhealthy (ifAny_iff.mpr rfl) ih

/-! ## Reports -/

/-- A report holds what a snapshot says about the last sync; without an operation it holds the status
alone. -/
structure SyncReport.Describes (report : SyncReport) (a : Application) : Prop where
  sync : report.sync = a.state.sync
  idle : a.state.operation = none →
    report.phase = "" ∧ report.message = "" ∧ report.resources = []
  operated : ∀ operation, a.state.operation = some operation →
    report.phase = operation.phase ∧ report.message = operation.message ∧
      List.Forall₂ SyncLine (operation.results.getD []) report.resources

/-- A report holds what a snapshot says about health. -/
structure HealthReport.Describes (report : HealthReport) (a : Application) : Prop where
  sync : report.sync = a.state.sync
  health : report.health = a.state.health.status
  message : report.message = a.state.health.message
  resources : HealthLines a.state.resources report.resources

theorem SyncReport.describes_iff {report : SyncReport} {a : Application} :
    report.Describes a ↔ report = .ofApplication a := by
  obtain ⟨sync, phase, message, resources⟩ := report
  rw [ofApplication, SyncReport.mk.injEq]
  cases hoperation : a.state.operation with
  | none =>
    constructor
    · rintro ⟨hsync, hidle, -⟩
      exact ⟨hsync, hidle hoperation⟩
    · rintro ⟨hsync, hrest⟩
      exact ⟨hsync, fun _ => hrest, fun operation h => absurd (hoperation.symm.trans h) nofun⟩
  | some operation =>
    constructor
    · rintro ⟨hsync, -, hoperated⟩
      obtain ⟨hphase, hmessage, hresources⟩ := hoperated operation hoperation
      exact ⟨hsync, hphase, hmessage, syncLines_iff.mp hresources⟩
    · rintro ⟨hsync, hphase, hmessage, hresources⟩
      refine ⟨hsync, fun h => absurd (hoperation.symm.trans h) nofun, fun operation' h => ?_⟩
      obtain rfl := Option.some.inj (hoperation.symm.trans h)
      exact ⟨hphase, hmessage, syncLines_iff.mpr hresources⟩

theorem HealthReport.describes_iff {report : HealthReport} {a : Application} :
    report.Describes a ↔ report = .ofApplication a := by
  obtain ⟨sync, health, message, resources⟩ := report
  rw [ofApplication, HealthReport.mk.injEq, ← healthLines_iff]
  exact ⟨fun ⟨hsync, hhealth, hmessage, hresources⟩ => ⟨hsync, hhealth, hmessage, hresources⟩,
    fun ⟨hsync, hhealth, hmessage, hresources⟩ => ⟨hsync, hhealth, hmessage, hresources⟩⟩

/-- The text of a sync report. -/
def SyncReport.Reads (report : SyncReport) (text : String) : Prop :=
  ∃ items, Itemized report.resources items ∧
    text = "App sync status \"" ++ report.sync ++ "\"\nApp operation phase \"" ++ report.phase ++
      "\"\nApp operation message \"" ++ report.message ++ "\"\nResources:\n" ++ items

/-- The text of a health report. -/
def HealthReport.Reads (report : HealthReport) (text : String) : Prop :=
  ∃ said items, IfAny (fun m => "App health message \"" ++ m ++ "\"\n") report.message said ∧
    Itemized report.resources items ∧
    text = "App sync status \"" ++ report.sync ++ "\"\nApp health status \"" ++ report.health ++ "\"\n" ++
      said ++ "Resources:\n" ++ items

theorem SyncReport.reads_iff {report : SyncReport} {text : String} :
    report.Reads text ↔ text = report.lines := by
  constructor
  · rintro ⟨items, hitems, rfl⟩
    rw [itemized_iff.mp hitems]
    rfl
  · rintro rfl
    exact ⟨_, itemized_iff.mpr rfl, rfl⟩

theorem HealthReport.reads_iff {report : HealthReport} {text : String} :
    report.Reads text ↔ text = report.lines := by
  have hlines : report.lines = "App sync status \"" ++ report.sync ++ "\"\nApp health status \"" ++
      report.health ++ "\"\n" ++
      (nonEmpty report.message).elim "" (fun m => "App health message \"" ++ m ++ "\"\n") ++
      "Resources:\n" ++ itemLines report.resources := by
    unfold lines
    cases nonEmpty report.message <;> rfl
  rw [hlines]
  constructor
  · rintro ⟨said, items, hsaid, hitems, rfl⟩
    rw [ifAny_iff.mp hsaid, itemized_iff.mp hitems]
  · rintro rfl
    exact ⟨_, _, ifAny_iff.mpr rfl, itemized_iff.mpr rfl, rfl⟩

/-! ## What is stored -/

/-- Status and reason that are stored of an outcome. -/
inductive Outcome.StoredAs : Outcome → Status → String → Prop
  | deployed : StoredAs .deployed .deployed ""
  | notFound (text : String) : StoredAs (.failed (.controlPlane (.notFound text))) .appNotFound
      ("ArgoCD API Error: resource not found: " ++ text)
  | refused (text : String) : StoredAs (.failed (.controlPlane (.connectionRefused text))) .unavailable
      ("ArgoCD is unavailable: " ++ text)
  | unauthorized (text : String) : StoredAs (.failed (.controlPlane (.unauthorized text))) .failed
      ("ArgoCD API Error: unauthorized: " ++ text)
  | api (text : String) : StoredAs (.failed (.controlPlane (.api text))) .failed
      ("ArgoCD API Error: api error: " ++ text)
  | gitOps (message : String) : StoredAs (.failed (.gitOps message)) .failed
      ("failed to update GitOps repository: " ++ message)
  | notAvailable {current expected : List String} {present wanted : String}
      (hcurrent : Itemized current present) (hexpected : Itemized expected wanted) :
      StoredAs (.failed (.notAvailable current expected)) .failed
        ("Application deployment failed. Rollout status \"not available\"\n\n" ++
          "List of current images (last app check):\n" ++ present ++
          "\nList of expected images:\n" ++ wanted)
  | notSynced {report : SyncReport} {text : String} (h : report.Reads text) :
      StoredAs (.failed (.notSynced report)) .failed
        ("Application deployment failed. Rollout status \"not synced\"\n\n" ++ text)
  | notHealthy {report : HealthReport} {text : String} (h : report.Reads text) :
      StoredAs (.failed (.notHealthy report)) .failed
        ("Application deployment failed. Rollout status \"not healthy\"\n\n" ++ text)
  | degraded {report : HealthReport} {text : String} (h : report.Reads text) :
      StoredAs (.failed (.degraded report)) .failed
        ("Application deployment failed. Rollout status \"degraded\"\n\n" ++
          "Deployed images changed since the rollout started.\n" ++ text)

theorem Outcome.stored_of_storedAs {o : Outcome} {status : Status} {reason : String}
    (h : o.StoredAs status reason) : o.stored = (status, reason) := by
  cases h with
  | deployed => rfl
  | notFound text => rfl
  | refused text => rfl
  | unauthorized text => rfl
  | api text => rfl
  | gitOps message => rfl
  | notAvailable hcurrent hexpected =>
    rw [itemized_iff.mp hcurrent, itemized_iff.mp hexpected]
    rfl
  | notSynced h =>
    rw [SyncReport.reads_iff.mp h]
    rfl
  | notHealthy h =>
    rw [HealthReport.reads_iff.mp h]
    rfl
  | degraded h =>
    rw [HealthReport.reads_iff.mp h]
    rfl

theorem Outcome.storedAs_stored (o : Outcome) : o.StoredAs o.stored.1 o.stored.2 := by
  cases o with
  | deployed => exact .deployed
  | failed why =>
    cases why with
    | controlPlane e =>
      cases e with
      | notFound text => exact .notFound text
      | connectionRefused text => exact .refused text
      | unauthorized text => exact .unauthorized text
      | api text => exact .api text
    | gitOps message => exact .gitOps message
    | notAvailable current expected => exact .notAvailable (itemized_iff.mpr rfl) (itemized_iff.mpr rfl)
    | notSynced report => exact .notSynced (SyncReport.reads_iff.mpr rfl)
    | notHealthy report => exact .notHealthy (HealthReport.reads_iff.mpr rfl)
    | degraded report => exact .degraded (HealthReport.reads_iff.mpr rfl)

/-- **What is stored of an outcome.** -/
theorem Outcome.storedAs_iff {o : Outcome} {status : Status} {reason : String} :
    o.StoredAs status reason ↔ (status, reason) = o.stored := by
  constructor
  · exact fun h => (stored_of_storedAs h).symm
  · intro h
    obtain ⟨rfl, rfl⟩ := Prod.mk.inj h
    exact o.storedAs_stored

end DeployWatch
