import DeployWatch.GitOps.Path
import DeployWatch.Proofs.Text.Split

/-!
# Steps of paths

* `lead`, `innerSteps`, `steps_eq`: the steps of a path, part by part;
* `steps_joinPath`: the steps of a name below a directory;
* `staysInside_iff`: which paths stay inside the directory they start from;
* `foldl_of_inside`: steps that do not go up only add names;
* `NormalPath`, `normalise`: paths without detours;
* **`normalise_joinPath`**: a path that stays inside leads below every directory that it is joined to.
-/

namespace DeployWatch

open Text (splitAt splitAt_ne_nil splitAt_append_mark)

/-! ## Names below a directory -/

/-- What a path starts with, apart from the steps of its parts: the root, or a dot. -/
def lead (cs : List Char) : List Step :=
  if cs.head? = some '/' then [.root]
  else if (splitAt '/' cs).head? = some ['.'] then [.here]
  else []

/-- The steps of the parts of a text. -/
def innerSteps (cs : List Char) : List Step := (splitAt '/' cs).filterMap stepOf

theorem head?_ne_some {α : Type} {c : α} {cs : List α} (h : ∀ rest, cs = c :: rest → False) :
    cs.head? ≠ some c := by
  intro hc
  obtain ⟨rest, hrest⟩ := List.head?_eq_some_iff.mp hc
  exact h rest hrest

theorem steps_eq (path : String) : steps path = lead path.toList ++ innerSteps path.toList := by
  unfold steps lead innerSteps
  dsimp only
  split
  · rename_i hpath
    rw [if_pos (by rw [hpath]; rfl)]
    rfl
  · rename_i hparts hpath
    rw [if_neg (head?_ne_some hpath), if_pos (by rw [hparts]; rfl)]
    rfl
  · rename_i hpath hparts
    rw [if_neg (head?_ne_some hpath), if_neg (head?_ne_some hparts)]
    rfl

theorem innerSteps_append_slash (cs rest : List Char) :
    innerSteps (cs ++ '/' :: rest) = innerSteps cs ++ innerSteps rest := by
  unfold innerSteps
  rw [splitAt_append_mark, List.filterMap_append]

theorem lead_append_slash {cs : List Char} (hcs : cs ≠ []) (rest : List Char) :
    lead (cs ++ '/' :: rest) = lead cs := by
  obtain ⟨c, cs, rfl⟩ := List.exists_cons_of_ne_nil hcs
  have hne : splitAt '/' (c :: cs) ≠ [] := splitAt_ne_nil _
  obtain ⟨first, more, hparts⟩ := List.exists_cons_of_ne_nil hne
  unfold lead
  rw [splitAt_append_mark, hparts]
  rfl

/-- The steps of a name below a directory. -/
theorem steps_joinPath {dir : String} (hdir : dir.toList ≠ []) (name : String) :
    steps (joinPath dir name) = steps dir ++ innerSteps name.toList := by
  unfold joinPath
  have hempty : dir.isEmpty = false := by
    cases h : dir.isEmpty with
    | false => rfl
    | true => exact absurd (by rw [String.isEmpty_iff.mp h]; rfl) hdir
  rw [hempty, Bool.false_or]
  split
  · -- A slash at the end of the directory counts for nothing.
    rename_i hlast
    obtain ⟨front, hfront⟩ := List.getLast?_eq_some_iff.mp (by simpa using hlast)
    rw [steps_eq, steps_eq, String.toList_append, hfront, List.append_assoc, List.singleton_append,
      innerSteps_append_slash, innerSteps_append_slash, List.append_assoc, List.append_assoc]
    have hlead : ∀ rest, lead (front ++ '/' :: rest) = lead (front ++ '/' :: []) := by
      intro rest
      cases front with
      | nil => rfl
      | cons c cs =>
        rw [lead_append_slash (List.cons_ne_nil _ _), lead_append_slash (List.cons_ne_nil _ _)]
    rw [hlead]
    rfl
  · rw [steps_eq, steps_eq, String.toList_append, String.toList_append, List.append_assoc,
      show "/".toList = ['/'] from rfl, List.singleton_append, lead_append_slash hdir,
      innerSteps_append_slash, List.append_assoc]

/-! ## Steps that stay inside -/

theorem stepOf_ne_root (part : List Char) : stepOf part ≠ some .root := by
  unfold stepOf
  split
  · exact nofun
  · split <;> exact nofun

theorem stepOf_eq_up_iff {part : List Char} : stepOf part = some .up ↔ part = ['.', '.'] := by
  constructor
  · intro h
    unfold stepOf at h
    split at h
    · cases h
    · split at h
      · assumption
      · cases h
  · rintro rfl
    rfl

theorem up_mem_filterMap_stepOf {parts : List (List Char)} :
    Step.up ∈ parts.filterMap stepOf ↔ ['.', '.'] ∈ parts := by
  rw [List.mem_filterMap]
  constructor
  · rintro ⟨part, hpart, hup⟩
    rwa [stepOf_eq_up_iff.mp hup] at hpart
  · exact fun h => ⟨_, h, rfl⟩

theorem root_notMem_innerSteps (cs : List Char) : Step.root ∉ innerSteps cs := by
  intro h
  obtain ⟨part, -, hroot⟩ := List.mem_filterMap.mp h
  exact stepOf_ne_root part hroot

theorem mem_of_staysInside {path : String} (h : staysInside path = true) {s : Step}
    (hs : s ∈ steps path) : s = .here ∨ ∃ name, s = .down name := by
  have hstep := List.all_eq_true.mp h s hs
  cases s with
  | here => exact .inl rfl
  | down name => exact .inr ⟨name, rfl⟩
  | _ => cases hstep

theorem root_mem_steps_iff {path : String} :
    Step.root ∈ steps path ↔ path.toList.head? = some '/' := by
  rw [steps_eq, List.mem_append, or_iff_left (root_notMem_innerSteps _), lead]
  split
  · simpa
  · split <;> simpa

theorem up_mem_steps_iff {path : String} :
    Step.up ∈ steps path ↔ ['.', '.'] ∈ splitAt '/' path.toList := by
  rw [steps_eq, List.mem_append, innerSteps, up_mem_filterMap_stepOf, lead]
  refine or_iff_right ?_
  split
  · simp
  · split <;> simp

/-- A path stays inside if it is relative and has no part `..`. -/
theorem staysInside_iff {path : String} : staysInside path = true ↔
    path.toList.head? ≠ some '/' ∧ ['.', '.'] ∉ splitAt '/' path.toList := by
  rw [Ne, ← root_mem_steps_iff, ← up_mem_steps_iff]
  constructor
  · intro h
    constructor <;> intro hs <;> rcases mem_of_staysInside h hs with h | ⟨_, h⟩ <;> cases h
  · rintro ⟨hroot, hup⟩
    refine List.all_eq_true.mpr fun s hs => ?_
    cases s with
    | root => exact absurd hs hroot
    | up => exact absurd hs hup
    | here => rfl
    | down name => rfl

/-- Steps that do not go up only add names, to whatever holds the names. -/
theorem foldl_of_inside {α : Type} (next : α → Step → α) (extend : α → List String → α)
    (hnil : ∀ p, extend p [] = p) (hhere : ∀ p, next p .here = p)
    (hdown : ∀ p name names, extend (next p (.down name)) names = extend p (name :: names))
    {ss : List Step} (h : ∀ s ∈ ss, s = .here ∨ ∃ name, s = .down name) (p : α) :
    ∃ names, ss.foldl next p = extend p names := by
  induction ss generalizing p with
  | nil => exact ⟨[], (hnil p).symm⟩
  | cons s ss ih =>
    obtain ⟨hs, hss⟩ := List.forall_mem_cons.mp h
    rw [List.foldl_cons]
    rcases hs with rfl | ⟨name, rfl⟩
    · rw [hhere]
      exact ih hss p
    · obtain ⟨names, hnames⟩ := ih hss (next p (.down name))
      exact ⟨name :: names, hnames.trans (hdown p name names)⟩

/-! ## Paths without detours -/

/-- A path without detours: whether it starts at the root of all directories, how often it goes up from
where it starts, and the names after that. -/
structure NormalPath where
  absolute : Bool := false
  ups : Nat := 0
  names : List String := []
  deriving DecidableEq, Repr

namespace NormalPath

/-- Goes one step on. Going up takes back the last name if there is one, and stays at the root. -/
def next (p : NormalPath) : Step → NormalPath
  | .root => { absolute := true }
  | .here => p
  | .down name => { p with names := p.names ++ [name] }
  | .up =>
    if p.names ≠ [] then { p with names := p.names.dropLast }
    else if p.absolute then p
    else { p with ups := p.ups + 1 }

/-- A path leads to a directory or to what is below it. -/
def Below (p dir : NormalPath) : Prop := ∃ names, p = { dir with names := dir.names ++ names }

end NormalPath

/-- The normal form of a path, made from its text alone. -/
def normalise (path : String) : NormalPath := (steps path).foldl NormalPath.next {}

theorem foldl_normal_of_inside {ss : List Step} (h : ∀ s ∈ ss, s = .here ∨ ∃ name, s = .down name)
    (p : NormalPath) : (ss.foldl NormalPath.next p).Below p := by
  refine foldl_of_inside NormalPath.next (fun p names => { p with names := p.names ++ names })
    (fun p => ?_) (fun _ => rfl) (fun p name names => ?_) h p
  · rw [List.append_nil]
  · show (⟨p.absolute, p.ups, (p.names ++ [name]) ++ names⟩ : NormalPath) = _
    rw [List.append_assoc]
    rfl

/-- **A path that stays inside** leads below every directory that it is joined to, wherever that
directory is and however it is written. -/
theorem normalise_joinPath {path : String} (h : staysInside path = true) (dir : String) :
    (normalise (joinPath dir path)).Below (normalise dir) := by
  by_cases hdir : dir.toList = []
  · obtain rfl := String.toList_eq_nil_iff.mp hdir
    have hjoin : joinPath "" path = path := String.empty_append
    rw [hjoin]
    exact foldl_normal_of_inside (fun s => mem_of_staysInside h) {}
  · rw [normalise, steps_joinPath hdir, List.foldl_append]
    refine foldl_normal_of_inside (fun s hs => mem_of_staysInside h ?_) _
    rw [steps_eq]
    exact List.mem_append_right _ hs

end DeployWatch
