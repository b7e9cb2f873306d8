import DeployWatch.Proofs.GitOps.OverrideText
import DeployWatch.Proofs.GitOps.Requests
import DeployWatch.Proofs.GitOps.Tree

/-!
# The change of an override file

* `Holds`: a tree has an override file with a certain content;
* `unchanged_of_edit`, `editOverrides_none`, `writeOverrides_of_edit`, **`editOverrides_some`**: what a
  change leaves in the tree;
* `lastTag?`, `named?_putAll_imageParameters`: the tags of a task in a merged file.
-/

namespace DeployWatch

open FileTree (placeOf)

/-- A tree has an override file that reads as `f`. -/
def Holds (l : TextLayer) (t : FileTree) (file : String) (f : OverrideFile) : Prop :=
  ∃ text, t.readText file = .ok text ∧ l.parse text = some f

variable {l : TextLayer} {t t' : FileTree} {file : String} {f : OverrideFile} {ps : List Parameter}

theorem Holds.readOverrides (h : Holds l t file f) : readOverrides l t file = .ok f := by
  obtain ⟨text, htext, hparse⟩ := h
  unfold DeployWatch.readOverrides textOrEmpty
  rw [htext]
  simp only [fileResult, bind, Except.bind, hparse]

/-- A file that is missing reads as one without anything in it. -/
theorem readOverrides_ok (h : readOverrides l t file = .ok f) : Holds l t file f ∨ f = {} := by
  unfold readOverrides textOrEmpty at h
  cases hr : t.readText file with
  | ok text =>
    simp only [hr, fileResult, bind, Except.bind] at h
    cases hp : l.parse text with
    | none => simp [hp] at h
    | some g =>
      simp only [hp, Except.ok.injEq] at h
      exact .inl ⟨text, hr, h ▸ hp⟩
  | error e =>
    cases e with
    | notFound =>
      have hempty : l.parse "" = some {} := rfl
      simp only [hr, bind, Except.bind, hempty, Except.ok.injEq] at h
      exact .inr h.symm
    | _ => simp [hr, fileResult, bind, Except.bind] at h

theorem wellFormed_of_readOverrides (h : readOverrides l t file = .ok f) : f.WellFormed := by
  obtain ⟨text, -, hparse⟩ | rfl := readOverrides_ok h
  · exact OverrideFile.wellFormed_of_parse hparse
  · exact OverrideFile.WellFormed.default

theorem editOverrides_eq (h : readOverrides l t file = .ok f) : editOverrides l ps t file =
    if (f.apply ps).2 then (writeOverrides l (f.apply ps).1 t file).map some else .ok none := by
  unfold editOverrides
  rw [h]
  simp only [bind, Except.bind]
  split
  · cases writeOverrides l (f.apply ps).1 t file <;> rfl
  · rfl

theorem readOverrides_of_edit {o : Option FileTree} (h : editOverrides l ps t file = .ok o) :
    ∃ f, readOverrides l t file = .ok f := by
  unfold editOverrides at h
  cases hr : readOverrides l t file with
  | error e => rw [hr] at h; cases h
  | ok f => exact ⟨f, rfl⟩

theorem unchanged_of_edit (h : editOverrides l ps t file = .ok none) :
    ∃ f, readOverrides l t file = .ok f ∧ (f.apply ps).2 = false := by
  obtain ⟨f, hf⟩ := readOverrides_of_edit h
  rw [editOverrides_eq hf] at h
  split at h
  · cases hw : writeOverrides l (f.apply ps).1 t file with
    | error e => rw [hw] at h; cases h
    | ok t' => rw [hw] at h; cases h
  · rename_i hunchanged
    exact ⟨f, hf, by simpa using hunchanged⟩

/-- A change that has nothing to write finds everything in the file already. -/
theorem editOverrides_none (hps : ps ≠ []) (h : editOverrides l ps t file = .ok none) :
    ∃ f, Holds l t file f ∧ (f.apply ps).1 = f := by
  obtain ⟨f, hf, hflag⟩ := unchanged_of_edit h
  change (mergeParameters ps f.parameters).2 = false at hflag
  refine ⟨f, (readOverrides_ok hf).resolve_right ?_, ?_⟩
  · rintro rfl
    rw [mergeParameters_nil_snd hps] at hflag
    cases hflag
  · rw [OverrideFile.apply_eq, putAll_of_unchanged hflag]

theorem writeOverrides_ok (h : writeOverrides l f t file = .ok t') :
    ∃ text, l.render f = some text ∧ t'.readText file = .ok text ∧
      ∀ q, q ≠ placeOf (steps file) → t'.fileAt? q = t.fileAt? q := by
  unfold writeOverrides at h
  cases hd : t.makeDirectories (FileTree.directorySteps file) with
  | error e => rw [hd] at h; cases h
  | ok t1 =>
    simp only [hd, fileResult, bind, Except.bind] at h
    cases hr : l.render f with
    | none => rw [hr] at h; cases h
    | some text =>
      cases hw : t1.writeText file text with
      | error e => simp [hr, hw] at h
      | ok t2 =>
        simp only [hr, hw, Except.ok.injEq] at h
        subst h
        refine ⟨text, rfl, FileTree.readText_writeText hw, fun q hq => ?_⟩
        rw [FileTree.fileAt?_writeText hw hq, FileTree.fileAt?_makeDirectories hd]

theorem writeOverrides_of_edit (h : editOverrides l ps t file = .ok (some t')) :
    ∃ f, readOverrides l t file = .ok f ∧ writeOverrides l (f.apply ps).1 t file = .ok t' := by
  obtain ⟨f, hf⟩ := readOverrides_of_edit h
  rw [editOverrides_eq hf] at h
  split at h
  · cases hw : writeOverrides l (f.apply ps).1 t file with
    | error e => rw [hw] at h; cases h
    | ok t1 =>
      rw [hw] at h
      cases h
      exact ⟨f, hf, hw⟩
  · cases h

/-- **A change leaves the merged file in the tree**, and all other files as they are. -/
theorem editOverrides_some (hl : l.RoundTrips) (h : editOverrides l ps t file = .ok (some t')) :
    ∃ f, readOverrides l t file = .ok f ∧ Holds l t' file (f.apply ps).1 ∧
      ∀ q, q ≠ placeOf (steps file) → t'.fileAt? q = t.fileAt? q := by
  obtain ⟨f, hf, hw⟩ := writeOverrides_of_edit h
  obtain ⟨text, hrender, hread, hothers⟩ := writeOverrides_ok hw
  have hwell := (wellFormed_of_readOverrides hf).apply ps
  exact ⟨f, hf, ⟨text, hread, OverrideFile.parse_render hl hwell hrender⟩, hothers⟩

/-! ## The tags of a task -/

/-- The tag of the last expected image that is mapped to a parameter name. -/
def lastTag? (t : Task) (notes : Annotations) (name : String) : Option String :=
  (t.images.reverse.find? fun i =>
    (notes.aliasFor? i.repository).any fun a => a ++ ".image.tag" = name).map (·.tag)

theorem named?_imageParameters (t : Task) (notes : Annotations) (name : String) :
    named? name (imageParameters t notes).reverse =
      (lastTag? t notes name).map fun tag => ⟨name, tag, true⟩ := by
  unfold named? imageParameters lastTag?
  rw [← List.filterMap_reverse, List.find?_filterMap]
  simp only [Option.any_map]
  change Option.bind (t.images.reverse.find? fun i =>
    (notes.aliasFor? i.repository).any fun a => decide (a ++ ".image.tag" = name)) _ = _
  cases hi : t.images.reverse.find? fun i =>
    (notes.aliasFor? i.repository).any fun a => decide (a ++ ".image.tag" = name) with
  | none => rfl
  | some i =>
    have hany := List.find?_some hi
    obtain ⟨a, ha, hname⟩ := (Option.any_eq_true _ _).mp hany
    simp only [Option.bind_some, Option.map_some, ha, imageTagParameter, of_decide_eq_true hname]

theorem named?_putAll_imageParameters {t : Task} {notes : Annotations} {name tag : String}
    (h : lastTag? t notes name = some tag) (ps : List Parameter) :
    named? name (putAll (imageParameters t notes) ps) = some ⟨name, tag, true⟩ := by
  rw [named?_putAll, named?_imageParameters, h]
  rfl

end DeployWatch
