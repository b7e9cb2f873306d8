import DeployWatch.Application.Annotations

/-!
# Aliases of managed images

An annotation maps aliases to image repositories, and several aliases may be mapped to one repository.

* `Annotations.Maps`: what the text of an annotation says of an alias;
* `find?_parseManagedImages`: the map that is read from the text says the same;
* `aliasFor?_iff_least`, `aliasFor?_eq_none_iff`: the alias that is looked up in a map, if there is one;
* `Annotations.FirstAlias`, `exists_firstAlias`: the first alias, in their order, of a repository;
* **`aliasFor?_eq_some_iff`**: the alias that is looked up is the first one.
-/

namespace DeployWatch.Annotations

open Text (splitAt)

/-- The last entry of a text that has this alias maps it to this repository. -/
def Maps (text name repository : String) : Prop :=
  ((splitAt ',' text.toList).filterMap parseEntry).reverse.find? (fun e => e.1 = name) =
    some (name, repository)

instance (text name repository : String) : Decidable (Maps text name repository) := by
  unfold Maps
  infer_instance

/-- The first of the aliases that a text maps to a repository. -/
structure FirstAlias (text repository name : String) : Prop where
  maps : Maps text name repository
  first : ∀ name', Maps text name' repository → name ≤ name'

theorem find?_parseManagedImages {text name repository : String} :
    (parseManagedImages text).find? name = some repository ↔ Maps text name repository := by
  rw [parseManagedImages, SortedMap.find?_ofList, Maps]
  cases h : ((splitAt ',' text.toList).filterMap parseEntry).reverse.find? fun e => e.1 = name with
  | none => simp
  | some e =>
    have hname : e.1 = name := by simpa using List.find?_some h
    simp [Prod.ext_iff, hname]

theorem Maps.unique {text name repository repository' : String} (h : Maps text name repository)
    (h' : Maps text name repository') : repository = repository' := by
  rw [← find?_parseManagedImages] at h h'
  exact Option.some.inj (h.symm.trans h')

/-- The first entry with a value has the first key of that value. -/
theorem find?_value_eq_some_iff {es : List (String × String)}
    (hes : es.Pairwise fun a b => a.1 < b.1) {name repository : String} :
    (es.find? fun e => e.2 = repository) = some (name, repository) ↔
      (name, repository) ∈ es ∧ ∀ name', (name', repository) ∈ es → name ≤ name' := by
  induction es with
  | nil => simp
  | cons e es ih =>
    obtain ⟨hfirst, hrest⟩ := List.pairwise_cons.mp hes
    by_cases h : e.2 = repository
    · rw [List.find?_cons_of_pos (by simpa using h), Option.some.injEq]
      constructor
      · rintro rfl
        refine ⟨List.mem_cons_self, fun name' hmem => ?_⟩
        rcases List.mem_cons.mp hmem with heq | hmem
        · obtain rfl := (Prod.mk.inj heq).1
          exact String.le_refl _
        · exact String.not_lt.mp (String.lt_asymm (hfirst _ hmem))
      · rintro ⟨hmem, hleast⟩
        rcases List.mem_cons.mp hmem with heq | hmem
        · exact heq.symm
        · -- The entry in front would have a smaller key.
          have hle := hleast e.1 (List.mem_cons.mpr (.inl (Prod.ext rfl h.symm)))
          exact absurd (hfirst _ hmem) (String.not_lt.mpr hle)
    · have hother : ∀ name', (name', repository) ∈ e :: es ↔ (name', repository) ∈ es := by
        intro name'
        rw [List.mem_cons, or_iff_right]
        rintro rfl
        exact h rfl
      rw [List.find?_cons_of_neg (by simpa using h), ih hrest]
      simp only [hother]

/-- The alias that is looked up is the least one that the map has for the repository. -/
theorem aliasFor?_iff_least {notes : Annotations} {repository name : String} :
    notes.aliasFor? repository = some name ↔
      notes.managedImages.find? name = some repository ∧
        ∀ name', notes.managedImages.find? name' = some repository → name ≤ name' := by
  have hentry : notes.aliasFor? repository = some name ↔
      (notes.managedImages.entries.find? fun e => e.2 = repository) = some (name, repository) := by
    unfold aliasFor?
    cases hfind : notes.managedImages.entries.find? fun e => e.2 = repository with
    | none => simp
    | some e =>
      have hvalue : e.2 = repository := by simpa using List.find?_some hfind
      simp [Prod.ext_iff, hvalue]
  rw [hentry, find?_value_eq_some_iff notes.managedImages.increasing]
  simp only [SortedMap.find?_eq_some_iff]

theorem aliasFor?_eq_none_iff {notes : Annotations} {repository : String} :
    notes.aliasFor? repository = none ↔
      ∀ name, notes.managedImages.find? name ≠ some repository := by
  rw [aliasFor?, Option.map_eq_none_iff, List.find?_eq_none]
  constructor
  · intro h name hfind
    exact h _ (SortedMap.find?_eq_some_iff.mp hfind) (by simp)
  · intro h e hmem hvalue
    exact h e.1 (SortedMap.find?_eq_some_iff.mpr (by simpa [← of_decide_eq_true hvalue] using hmem))

/-- **The alias that is looked up for a repository is the first of those mapped to it.** -/
theorem aliasFor?_eq_some_iff {notes : Annotations} {text : String}
    (h : notes.managedImages = parseManagedImages text) {repository name : String} :
    notes.aliasFor? repository = some name ↔ FirstAlias text repository name := by
  rw [aliasFor?_iff_least, h]
  simp only [find?_parseManagedImages]
  exact ⟨fun ⟨hmaps, hfirst⟩ => ⟨hmaps, hfirst⟩, fun hfirst => ⟨hfirst.maps, hfirst.first⟩⟩

/-- A repository that some alias is mapped to has a first one. -/
theorem exists_firstAlias {text name repository : String} (h : Maps text name repository) :
    ∃ name, FirstAlias text repository name := by
  let notes : Annotations := { managedImages := parseManagedImages text }
  have hsome : notes.aliasFor? repository ≠ none := fun hnone =>
    aliasFor?_eq_none_iff.mp hnone name (find?_parseManagedImages.mpr h)
  obtain ⟨first, hfirst⟩ := Option.ne_none_iff_exists'.mp hsome
  exact ⟨first, (aliasFor?_eq_some_iff rfl).mp hfirst⟩

end DeployWatch.Annotations
