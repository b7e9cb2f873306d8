import DeployWatch.GitOps.Repository
import DeployWatch.Proofs.GitOps.Path

/-!
# Where overrides are written

The three parts of a location come from annotations or from the source of the application, are trimmed,
and are then checked rule by rule.

* `Application.declared`, `Application.location`: what an application says of its location;
* `Repository.Breaks`, `RepositoryFault.rank`: the rules for a location, in their order;
* `Repository.Admissible`: a location that breaks none of them;
* **`Repository.resolve_watch`**: which location an application has, or which rule it breaks first.
-/

namespace DeployWatch

open Text (trim trim_trim isBlankText isEmpty_trim splitAt)

/-! ## What is declared -/

namespace Application

/-- The text of an annotation, where a missing one is empty. -/
def annotation (a : Application) (key : String) : String :=
  (a.metadata.annotations.bind (·.find? key)).getD ""

/-- What an application says of one part of its location: the annotation, unless it is blank; else, if
there is no list of sources, what the source says; else nothing. -/
def declared (a : Application) (key : String) (part : Source → String) : String :=
  if ¬ isBlankText (a.annotation key) then a.annotation key
  else if a.spec.sources = [] then (a.spec.source.map part).getD ""
  else ""

/-- The location that an application declares, without blank ends. -/
def location (a : Application) : Repository where
  url := trim (a.declared "argo-watcher/write-back-repo" (·.repoUrl))
  branch := trim (a.declared "argo-watcher/write-back-branch" (·.targetRevision))
  path := trim (a.declared "argo-watcher/write-back-path" (·.path))

theorem singleSource_part (a : Application) (part : Source → String) :
    (a.singleSource.map part).getD "" =
      if a.spec.sources = [] then (a.spec.source.map part).getD "" else "" := by
  unfold singleSource
  cases a.spec.sources <;> rfl

/-- Of applications with a list of sources only the annotations matter. -/
theorem location_congr {a b : Application}
    (hnotes : a.metadata.annotations = b.metadata.annotations) (ha : a.spec.sources ≠ [])
    (hb : b.spec.sources ≠ []) : a.location = b.location := by
  have hpart : ∀ key part, a.declared key part = b.declared key part := by
    intro key part
    unfold declared annotation
    rw [hnotes, if_neg ha, if_neg hb]
  unfold location
  rw [hpart, hpart, hpart]

end Application

/-- An annotation is trimmed when it is read, and the part that it gives is trimmed once more. -/
theorem trim_nonBlank_getD (m : SortedMap String) (key other : String) :
    trim ((Annotations.nonBlank m key).getD other) =
      trim (if ¬ isBlankText ((m.find? key).getD "") then (m.find? key).getD "" else other) := by
  unfold Annotations.nonBlank
  cases m.find? key with
  | none => rfl
  | some text =>
    rw [Option.map_some, Option.getD_some, Option.filter_some, isEmpty_trim]
    cases isBlankText text with
    | true => rfl
    | false => exact trim_trim text

theorem Application.watch_writeBack (a : Application) : a.watch.writeBack =
    { repoUrl := a.metadata.annotations.bind (Annotations.nonBlank · "argo-watcher/write-back-repo")
      branch := a.metadata.annotations.bind (Annotations.nonBlank · "argo-watcher/write-back-branch")
      path := a.metadata.annotations.bind (Annotations.nonBlank · "argo-watcher/write-back-path") } := by
  unfold watch
  cases a.metadata.annotations <;> rfl

namespace Repository

theorem make_eq (url branch path : String) : make url branch path =
    (check ⟨trim url, trim branch, trim path⟩).map fun _ => ⟨trim url, trim branch, trim path⟩ := by
  unfold make
  dsimp only
  generalize Repository.mk _ _ _ = r
  cases r.check <;> rfl

/-- The location of an application is the one that it declares, if that passes the check. -/
theorem resolve_watch_eq (a : Application) :
    resolve a a.watch = a.location.check.map fun _ => a.location := by
  have hpart : ∀ key part, trim ((a.metadata.annotations.bind (Annotations.nonBlank · key)).getD
      ((a.singleSource.map part).getD "")) = trim (a.declared key part) := by
    intro key part
    rw [a.singleSource_part, Application.declared, Application.annotation]
    cases a.metadata.annotations with
    | none => rfl
    | some m => exact trim_nonBlank_getD m key _
  unfold resolve Application.location
  rw [a.watch_writeBack, make_eq]
  dsimp only
  rw [hpart, hpart, hpart]

/-! ## Rules -/

/-- A location breaks a rule. -/
def Breaks (r : Repository) : RepositoryFault → Prop
  | .emptyUrl => r.url = ""
  | .emptyBranch => r.branch = ""
  | .emptyPath => r.path = ""
  | .dashedUrl url => url = r.url ∧ r.url.toList.head? = some '-'
  | .dashedBranch branch => branch = r.branch ∧ r.branch.toList.head? = some '-'
  | .escapingPath path => path = r.path ∧
      (r.path.toList.head? = some '/' ∨ ['.', '.'] ∈ splitAt '/' r.path.toList)

/-- A location that breaks no rule. -/
structure Admissible (r : Repository) : Prop where
  url_ne : r.url ≠ ""
  branch_ne : r.branch ≠ ""
  path_ne : r.path ≠ ""
  url_undashed : r.url.toList.head? ≠ some '-'
  branch_undashed : r.branch.toList.head? ≠ some '-'
  relative : r.path.toList.head? ≠ some '/'
  no_up : ['.', '.'] ∉ splitAt '/' r.path.toList

end Repository

/-- The place of a rule in their order. -/
def RepositoryFault.rank : RepositoryFault → Nat
  | emptyUrl => 0
  | emptyBranch => 1
  | emptyPath => 2
  | dashedUrl _ => 3
  | dashedBranch _ => 4
  | escapingPath _ => 5

theorem quote_mem_quoted (s : String) : '"' ∈ (Text.quoted s).toList := by
  simp [Text.quoted, Text.quotedWith]

namespace RepositoryFault

theorem rank_lt (f : RepositoryFault) : f.rank < 6 := by
  cases f <;> simp [rank]

/-- The first letter of a message tells the part of the location. -/
theorem head?_message (f : RepositoryFault) :
    f.message.toList.head? = ['r', 'b', 'p'][f.rank % 3]? := by
  cases f with
  | emptyUrl | emptyBranch | emptyPath => rfl
  | dashedUrl url =>
    show ("repository URL " ++ Text.quoted url ++ " starts with '-'").toList.head? =
      ['r', 'b', 'p'][3 % 3]?
    simp
  | dashedBranch branch =>
    show ("branch " ++ Text.quoted branch ++ " starts with '-'").toList.head? =
      ['r', 'b', 'p'][4 % 3]?
    simp
  | escapingPath path =>
    show ("path " ++ Text.quoted path ++ " leaves the repository root").toList.head? =
      ['r', 'b', 'p'][5 % 3]?
    simp

/-- The later rules quote the part of the location. -/
theorem quote_mem_message (f : RepositoryFault) : '"' ∈ f.message.toList ↔ 3 ≤ f.rank := by
  have hmem : ∀ part text rest : String, '"' ∈ (part ++ Text.quoted text ++ rest).toList := by
    intro part text rest
    simp [quote_mem_quoted]
  cases f with
  | emptyUrl | emptyBranch | emptyPath => decide
  | dashedUrl url => exact iff_of_true (hmem _ url _) (Nat.le_refl 3)
  | dashedBranch branch => exact iff_of_true (hmem _ branch _) (Nat.le_succ 3)
  | escapingPath path => exact iff_of_true (hmem _ path _) (Nat.le_add_right 3 2)

/-- The message of a fault names its rule. -/
theorem rank_eq_of_message {f g : RepositoryFault} (h : f.message = g.message) : f.rank = g.rank := by
  have hfirst : ['r', 'b', 'p'][f.rank % 3]? = ['r', 'b', 'p'][g.rank % 3]? := by
    rw [← head?_message, ← head?_message, h]
  have hpart : f.rank % 3 = g.rank % 3 :=
    (List.getElem?_inj (Nat.mod_lt f.rank (by decide)) (by decide)).mp hfirst
  have hquoted : 3 ≤ f.rank ↔ 3 ≤ g.rank := by
    rw [← quote_mem_message, ← quote_mem_message, h]
  have hf := f.rank_lt
  have hg := g.rank_lt
  omega

end RepositoryFault

theorem startsWithDash_iff (s : String) :
    startsWithDash s = true ↔ s.toList.head? = some '-' := beq_iff_eq

namespace Repository

variable {r : Repository}

/-- A location keeps its first `n` rules. -/
def Keeps (r : Repository) (n : Nat) : Prop := ∀ f, r.Breaks f → n ≤ f.rank

theorem Keeps.succ {n : Nat} (h : r.Keeps n) (hn : ∀ f, f.rank = n → ¬ r.Breaks f) :
    r.Keeps (n + 1) := fun f hf => Nat.lt_of_le_of_ne (h f hf) fun heq => hn f heq.symm hf

/-- The check passes an admissible location, and names the first rule that another one breaks. -/
theorem check_spec (r : Repository) : match r.check with
    | .ok () => r.Admissible
    | .error f => r.Breaks f ∧ r.Keeps f.rank := by
  have h0 : r.Keeps 0 := fun _ _ => Nat.zero_le _
  unfold check
  by_cases hurl : r.url = ""
  · rw [if_pos (String.isEmpty_iff.mpr hurl)]
    exact ⟨hurl, h0⟩
  have h1 : r.Keeps 1 := h0.succ fun | .emptyUrl, _ => hurl
  rw [if_neg (mt String.isEmpty_iff.mp hurl)]
  by_cases hbranch : r.branch = ""
  · rw [if_pos (String.isEmpty_iff.mpr hbranch)]
    exact ⟨hbranch, h1⟩
  have h2 : r.Keeps 2 := h1.succ fun | .emptyBranch, _ => hbranch
  rw [if_neg (mt String.isEmpty_iff.mp hbranch)]
  by_cases hpath : r.path = ""
  · rw [if_pos (String.isEmpty_iff.mpr hpath)]
    exact ⟨hpath, h2⟩
  have h3 : r.Keeps 3 := h2.succ fun | .emptyPath, _ => hpath
  rw [if_neg (mt String.isEmpty_iff.mp hpath)]
  by_cases hdash : r.url.toList.head? = some '-'
  · rw [if_pos ((startsWithDash_iff _).mpr hdash)]
    exact ⟨⟨rfl, hdash⟩, h3⟩
  have h4 : r.Keeps 4 := h3.succ fun | .dashedUrl _, _ => fun h => hdash h.2
  rw [if_neg (mt (startsWithDash_iff _).mp hdash)]
  by_cases hdash' : r.branch.toList.head? = some '-'
  · rw [if_pos ((startsWithDash_iff _).mpr hdash')]
    exact ⟨⟨rfl, hdash'⟩, h4⟩
  have h5 : r.Keeps 5 := h4.succ fun | .dashedBranch _, _ => fun h => hdash' h.2
  rw [if_neg (mt (startsWithDash_iff _).mp hdash')]
  cases hinside : staysInside r.path with
  | false =>
    refine ⟨⟨rfl, ?_⟩, h5⟩
    have hnot := mt staysInside_iff.mpr (ne_true_of_eq_false hinside)
    rwa [Classical.not_and_iff_not_or_not, Classical.not_not, Classical.not_not] at hnot
  | true =>
    obtain ⟨hrelative, hno⟩ := staysInside_iff.mp hinside
    exact ⟨hurl, hbranch, hpath, hdash, hdash', hrelative, hno⟩

theorem Admissible.not_breaks (h : r.Admissible) : ∀ f, ¬ r.Breaks f
  | .emptyUrl, hf => h.url_ne hf
  | .emptyBranch, hf => h.branch_ne hf
  | .emptyPath, hf => h.path_ne hf
  | .dashedUrl _, hf => h.url_undashed hf.2
  | .dashedBranch _, hf => h.branch_undashed hf.2
  | .escapingPath _, hf => hf.2.elim h.relative h.no_up

theorem Breaks.eq_of_rank : ∀ {f g : RepositoryFault}, r.Breaks f → r.Breaks g → f.rank = g.rank →
    f = g
  | .emptyUrl, .emptyUrl, _, _, _ => rfl
  | .emptyBranch, .emptyBranch, _, _, _ => rfl
  | .emptyPath, .emptyPath, _, _, _ => rfl
  | .dashedUrl _, .dashedUrl _, hf, hg, _ => congrArg _ (hf.1.trans hg.1.symm)
  | .dashedBranch _, .dashedBranch _, hf, hg, _ => congrArg _ (hf.1.trans hg.1.symm)
  | .escapingPath _, .escapingPath _, hf, hg, _ => congrArg _ (hf.1.trans hg.1.symm)

theorem check_eq_ok_iff : r.check = .ok () ↔ r.Admissible := by
  have hspec := r.check_spec
  constructor
  · intro h
    rwa [h] at hspec
  · intro h
    cases hcheck : r.check with
    | ok => rfl
    | error f =>
      rw [hcheck] at hspec
      exact absurd hspec.1 (h.not_breaks f)

theorem check_eq_error_iff {f : RepositoryFault} :
    r.check = .error f ↔ r.Breaks f ∧ r.Keeps f.rank := by
  have hspec := r.check_spec
  constructor
  · intro h
    rwa [h] at hspec
  · rintro ⟨hf, hleast⟩
    cases hcheck : r.check with
    | ok =>
      rw [hcheck] at hspec
      exact absurd hf (hspec.not_breaks f)
    | error g =>
      rw [hcheck] at hspec
      obtain ⟨hg, hleast'⟩ := hspec
      rw [hg.eq_of_rank hf (Nat.le_antisymm (hleast' f hf) (hleast g hg))]

end Repository

/-! ## Resolution -/

namespace Repository

/-- **Resolution of a location.** An application has the location that it declares exactly if that is
admissible. Otherwise it has none, and the fault, which its message tells apart from the others, is the
first of the rules that the declared location breaks. The path of a resolved location never leads out of a
directory that it is joined to. What stands in a list of sources, or beside it, has no influence. -/
theorem resolve_watch (a : Application) :
    (∀ r, resolve a a.watch = .ok r ↔ r = a.location ∧ r.Admissible) ∧
    (∀ f, resolve a a.watch = .error f ↔
      a.location.Breaks f ∧ ∀ g, a.location.Breaks g → f.rank ≤ g.rank) ∧
    (∀ f g : RepositoryFault, f.message = g.message → f.rank = g.rank) ∧
    (∀ r, resolve a a.watch = .ok r →
      ∀ dir, (normalise (joinPath dir r.path)).Below (normalise dir)) ∧
    ∀ spec : Spec, a.spec.sources ≠ [] → spec.sources ≠ [] →
      resolve { a with spec := spec } a.watch = resolve a a.watch := by
  have hok : ∀ r, resolve a a.watch = .ok r ↔ r = a.location ∧ r.Admissible := by
    intro r
    rw [resolve_watch_eq]
    generalize a.location = declared
    cases hcheck : declared.check with
    | ok =>
      constructor
      · rintro ⟨⟩
        exact ⟨rfl, check_eq_ok_iff.mp hcheck⟩
      · rintro ⟨rfl, -⟩
        rfl
    | error f =>
      refine ⟨nofun, ?_⟩
      rintro ⟨rfl, h⟩
      exact absurd (check_eq_error_iff.mp hcheck).1 (h.not_breaks f)
  refine ⟨hok, fun f => ?_, fun _ _ => RepositoryFault.rank_eq_of_message, fun r hr dir => ?_,
    fun spec ha hspec => ?_⟩
  · show resolve a a.watch = .error f ↔ a.location.Breaks f ∧ a.location.Keeps f.rank
    rw [← check_eq_error_iff, resolve_watch_eq]
    generalize a.location = declared
    cases declared.check with
    | ok => exact ⟨nofun, nofun⟩
    | error g =>
      exact ⟨fun h => congrArg _ (Except.error.inj h), fun h => congrArg _ (Except.error.inj h)⟩
  · obtain ⟨-, h⟩ := (hok r).mp hr
    exact normalise_joinPath (staysInside_iff.mpr ⟨h.relative, h.no_up⟩) dir
  · have hlocation : Application.location { a with spec := spec } = a.location :=
      Application.location_congr rfl hspec ha
    have hresolve := resolve_watch_eq { a with spec := spec }
    rw [hlocation, ← resolve_watch_eq] at hresolve
    exact hresolve

/-- An application with a list of sources, and a source of its own that counts for nothing. -/
def chartApplication : Application where
  metadata := { annotations := some (.ofList [("argo-watcher/write-back-repo", " git@host:charts.git "),
    ("argo-watcher/write-back-branch", "main"), ("argo-watcher/write-back-path", "./charts//shop")]) }
  spec := { source := some ⟨"git@host:apps.git", "main", "web"⟩, sources := [{}, {}] }

/-- The location of the application with charts, joined to a directory that is written with a detour. -/
theorem resolve_watch_chart : ∃ r, resolve chartApplication chartApplication.watch = .ok r ∧
    r = ⟨"git@host:charts.git", "main", "./charts//shop"⟩ ∧
    (normalise (joinPath "/srv/../copy" r.path)).Below (normalise "/srv/../copy") := by
  obtain ⟨hok, -, -, hbelow, -⟩ := resolve_watch chartApplication
  have hr := (hok ⟨"git@host:charts.git", "main", "./charts//shop"⟩).mpr
    ⟨by decide +kernel, by constructor <;> decide +kernel⟩
  exact ⟨_, hr, rfl, hbelow _ hr _⟩

end Repository

end DeployWatch
