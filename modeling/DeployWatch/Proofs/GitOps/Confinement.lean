import DeployWatch.Proofs.GitOps.AllOrNothing
import DeployWatch.Proofs.GitOps.Resolution

/-!
# Where override files lie

The directory of an override file is checked when the location is resolved. The name of the file has the
name of the application in it, and that may have slashes.

* `goesUp`, **`innerSteps_overrideFileName`**: which names of applications lead upwards;
* `Confined`, `overridePath_confined`: where the override file of an application lies;
* **`update_confined`**: the override file is in the working copy, unless the name of the application
  leads upwards;
* `update_leaves_working_copy`: an update that writes above the working copy.
-/

namespace DeployWatch

open FileTree (placeOf)
open Text (splitAt splitAt_append_left splitAt_append_right)

/-! ## Names of override files -/

/-- Whether a part of a name between two slashes is `..`. -/
def goesUp (app : String) : Bool := (splitAt '/' app.toList).dropLast.tail.contains ['.', '.']

/-- A long part is a name. -/
theorem stepOf_of_length {part : List Char} (h : 2 < part.length) :
    stepOf part = some (.down (String.ofList part)) := by
  have hne : ∀ {cs : List Char}, cs.length ≤ 2 → part ≠ cs := by
    rintro cs hcs rfl
    exact absurd h (Nat.not_lt.mpr hcs)
  have hempty : part.isEmpty = false := List.isEmpty_eq_false_iff.mpr (hne (Nat.zero_le 2))
  have hdot : (part == ['.']) = false := beq_eq_false_iff_ne.mpr (hne (by decide))
  unfold stepOf
  rw [hempty, hdot, if_neg (by decide), if_neg (hne (by decide))]

theorem toList_overrideFileName (app : String) : (overrideFileName app).toList =
    ".argocd-source-".toList ++ (app.toList ++ ".yaml".toList) := by
  have happend : ∀ a b c : String, (a ++ b ++ c).toList = a.toList ++ (b.toList ++ c.toList) := by
    intro a b c
    rw [String.toList_append, String.toList_append, List.append_assoc]
  exact happend _ _ _

/-- **The steps of an override file's name** end with a file, and go up exactly where the name of the
application does so between two slashes: what stands before its first slash and after its last one has
further text around it. -/
theorem innerSteps_overrideFileName (app : String) : ∃ front name,
    innerSteps (overrideFileName app).toList = front ++ [.down name] ∧
      (Step.up ∈ front ↔ goesUp app = true) := by
  have hparts : splitAt '/' (overrideFileName app).toList =
      (".argocd-source-".toList ++ ((splitAt '/' app.toList).dropLast ++
        [(splitAt '/' app.toList).getLastD [] ++ ".yaml".toList]).headD []) ::
      ((splitAt '/' app.toList).dropLast ++
        [(splitAt '/' app.toList).getLastD [] ++ ".yaml".toList]).tail := by
    rw [toList_overrideFileName, splitAt_append_left (by decide), splitAt_append_right (by decide)]
  have hlast : ∀ part, 2 < (part ++ ".yaml".toList).length := by
    intro part
    rw [List.length_append]
    exact Nat.lt_of_lt_of_le (by decide) (Nat.le_add_left _ _)
  have hfirst : ∀ part, 2 < (".argocd-source-".toList ++ part).length := by
    intro part
    rw [List.length_append]
    exact Nat.lt_of_lt_of_le (by decide) (Nat.le_add_right _ _)
  unfold innerSteps goesUp
  rw [hparts]
  generalize (splitAt '/' app.toList).getLastD [] = last
  cases (splitAt '/' app.toList).dropLast with
  | nil =>
    refine ⟨[], String.ofList (".argocd-source-".toList ++ (last ++ ".yaml".toList)), ?_, by simp⟩
    rw [List.nil_append, List.headD_cons, List.tail_cons, List.filterMap_cons_some
      (stepOf_of_length (hfirst _))]
    rfl
  | cons part between =>
    refine ⟨.down (String.ofList (".argocd-source-".toList ++ part)) :: between.filterMap stepOf,
      String.ofList (last ++ ".yaml".toList), ?_, ?_⟩
    · rw [List.cons_append, List.headD_cons, List.tail_cons, List.filterMap_cons_some
        (stepOf_of_length (hfirst _)), List.filterMap_append, List.filterMap_cons_some
        (stepOf_of_length (hlast _))]
      rfl
    · rw [List.tail_cons, List.contains_iff_mem, List.mem_cons, up_mem_filterMap_stepOf]
      exact or_iff_right nofun

/-! ## Places -/

/-- Steps that do not go up stay below the place where they start. -/
theorem foldl_next_of_inside {ss : List Step} (h : ∀ s ∈ ss, s = .here ∨ ∃ name, s = .down name)
    (p : Place) : ∃ names, ss.foldl FileTree.next p = { p with names := p.names ++ names } := by
  refine foldl_of_inside FileTree.next (fun p names => { p with names := p.names ++ names })
    (fun p => ?_) (fun _ => rfl) (fun p name names => ?_) h p
  · rw [List.append_nil]
  · show (⟨p.above, (p.names ++ [name]) ++ names⟩ : Place) = _
    rw [List.append_assoc]
    rfl

/-- Where the override file of an application lies: at a relative path, which has `..` in it exactly if
the name of the application goes up, and leads to a file below the root of the working copy otherwise. -/
structure Confined (app file : String) : Prop where
  relative : Step.root ∉ steps file
  up_iff : Step.up ∈ steps file ↔ goesUp app = true
  inside : goesUp app = false → ∃ names, names ≠ [] ∧ placeOf (steps file) = ⟨0, names⟩

theorem Repository.check_path {r : Repository} (h : r.check = .ok ()) :
    r.path.toList ≠ [] ∧ staysInside r.path = true := by
  have hr := check_eq_ok_iff.mp h
  exact ⟨mt String.toList_eq_nil_iff.mp hr.path_ne, staysInside_iff.mpr ⟨hr.relative, hr.no_up⟩⟩

theorem Repository.resolve_check {a : Application} {notes : Annotations} {r : Repository}
    (h : resolve a notes = .ok r) : r.check = .ok () := by
  unfold resolve make at h
  dsimp only at h
  split at h
  · cases h
    assumption
  · cases h

theorem overridePath_confined {r : Repository} (hr : r.check = .ok ()) (app : String) :
    Confined app (overridePath r app) := by
  obtain ⟨hpath, hinside⟩ := Repository.check_path hr
  obtain ⟨front, name, hname, hup⟩ := innerSteps_overrideFileName app
  have hsteps : steps (overridePath r app) = steps r.path ++ (front ++ [.down name]) := by
    rw [overridePath, steps_joinPath hpath, hname]
  have hdir : Step.root ∉ steps r.path ∧ Step.up ∉ steps r.path := by
    constructor <;> intro h <;> rcases mem_of_staysInside hinside h with h | ⟨_, h⟩ <;> cases h
  have hroot := root_notMem_innerSteps (overrideFileName app).toList
  rw [hname] at hroot
  constructor
  · rw [hsteps, List.mem_append, not_or]
    exact ⟨hdir.1, hroot⟩
  · rw [hsteps, List.mem_append, List.mem_append, ← hup]
    simp [hdir.2]
  · intro happ
    have hbelow : ∀ s ∈ steps r.path ++ front, s = .here ∨ ∃ name, s = .down name := by
      intro s hs
      rcases List.mem_append.mp hs with hs | hs
      · exact mem_of_staysInside hinside hs
      · cases s with
        | here => exact .inl rfl
        | down name => exact .inr ⟨name, rfl⟩
        | root => exact absurd (List.mem_append_left _ hs) hroot
        | up =>
          rw [hup.mp hs] at happ
          cases happ
    obtain ⟨names, hnames⟩ := foldl_next_of_inside hbelow {}
    refine ⟨names ++ [name], List.append_ne_nil_of_right_ne_nil _ (List.cons_ne_nil _ _), ?_⟩
    rw [hsteps, ← List.append_assoc, placeOf, List.foldl_append, hnames]
    rfl

/-! ## Updates -/

namespace Updater

/-- The pushes of an attempt are of the override file. -/
theorem attempt_pushes (u : Updater) (r : Repository) (t : Task) (parameters : List Parameter) :
    (u.remotely.attempt r t parameters).Only fun q =>
      ∀ copy r' file message, q = .push copy r' file message →
        r' = r ∧ file = overridePath r t.app := by
  rw [attempt_eq]
  refine ⟨nofun, fun x => ?_⟩
  cases x with
  | error e => trivial
  | ok copy =>
    show (u.remotely.useCopy r t parameters copy).Only _
    unfold useCopy
    split
    · trivial
    · trivial
    · refine ⟨?_, fun x => ?_⟩
      · rintro copy' r' file message hpush
        cases hpush
        exact ⟨rfl, rfl⟩
      · cases x with
        | error e => trivial
        | ok _ => exact ⟨nofun, fun _ => trivial⟩

/-- **An update stays in the working copy**, unless the name of the application goes up. It pushes no
file but the override file of an application for which it may write. That file lies at a relative path.
The path has `..` in it exactly if the name of the application has a part `..` between two slashes; for
all other names it is that of a file below the root of the working copy. Whatever the copy holds, all its
other files are left as they are. -/
theorem update_confined (u : Updater) (a : Application) (t : Task) :
    ((u.remotely.update a t).Only fun q => ∀ copy r file message, q = .push copy r file message →
      Authorised a t r ∧ file = overridePath r t.app) ∧
    ∀ r, Authorised a t r → Confined t.app (overridePath r t.app) ∧
      ∀ tree tree', editOverrides u.layer (imageParameters t a.watch) tree (overridePath r t.app) =
          .ok (some tree') →
        ∀ p, p ≠ placeOf (steps (overridePath r t.app)) → tree'.fileAt? p = tree.fileAt? p := by
  refine ⟨?_, fun r h => ⟨overridePath_confined (Repository.resolve_check h.2.2.1) t.app, ?_⟩⟩
  · by_cases hnone : ∀ r, ¬ Authorised a t r
    · obtain ⟨x, hx⟩ := update_of_not_authorised u.remotely hnone
      rw [hx]
      trivial
    · obtain ⟨r, h⟩ := Classical.not_forall_not.mp hnone
      rw [update_of_authorised _ h]
      refine ⟨nofun, fun _ => Program.Only.bind ?_ fun _ => ⟨nofun, fun _ => trivial⟩⟩
      refine retrying_only _ nofun (fun _ => nofun) ?_ _ _
      refine (u.attempt_pushes r t _).mono fun q hq copy r' file message hpush => ?_
      obtain ⟨rfl, hfile⟩ := hq copy r' file message hpush
      exact ⟨h, hfile⟩
  · intro tree tree' hedit p hp
    obtain ⟨f, -, hwrite⟩ := writeOverrides_of_edit hedit
    obtain ⟨text, -, -, hothers⟩ := writeOverrides_ok hwrite
    exact hothers p hp

/-- The override file of the application `shop` lies in the directory `web`. -/
theorem update_confined_shop : ∃ names, names ≠ [] ∧
    placeOf (steps (overridePath shopRepository shopTask.app)) = ⟨0, names⟩ :=
  ((update_confined shopUpdater shopApplication shopTask).2 shopRepository
    shop_authorised).1.inside (by decide +kernel)

/-! ### A name that goes up -/

/-- A submission that is admitted, for the application of the shop under another name. -/
def climbingSubmission : Submission :=
  { app := "x/../../../escaped", images := [⟨"registry/web", "v1"⟩], validated := true }

def climbingTask : Task := climbingSubmission.toTask (Simulation.taskId 0) (.ofNanos 0)

/-- **An update that leaves the working copy.** The submission is valid and the update may write, but the
file is written into the directory that holds the working copy. -/
theorem update_leaves_working_copy :
    climbingSubmission.check = .ok () ∧ Authorised shopApplication climbingTask shopRepository ∧
      Step.up ∈ steps (overridePath shopRepository climbingTask.app) ∧
      ∃ tree', editOverrides shopUpdater.layer (imageParameters climbingTask shopApplication.watch) {}
          (overridePath shopRepository climbingTask.app) = .ok (some tree') ∧
        (tree'.fileAt? ⟨1, ["escaped.yaml"]⟩).isSome = true := by
  refine ⟨eq_ok_of_toOption (by decide +kernel), ?_, by decide +kernel, ?_⟩
  · exact ⟨by decide +kernel, rfl, eq_ok_of_toOption (by decide +kernel), ⟨"registry/web", "v1"⟩,
      by decide +kernel, by decide +kernel⟩
  · have hwritten : ((editOverrides shopUpdater.layer
        (imageParameters climbingTask shopApplication.watch) {}
        (overridePath shopRepository climbingTask.app)).toOption.join.map fun tree =>
          (tree.fileAt? ⟨1, ["escaped.yaml"]⟩).isSome) = some true := by decide +kernel
    obtain ⟨tree', htree, hfile⟩ := Option.map_eq_some_iff.mp hwritten
    exact ⟨tree', eq_ok_of_toOption (Option.join_eq_some_iff.mp htree), hfile⟩

end Updater

end DeployWatch
