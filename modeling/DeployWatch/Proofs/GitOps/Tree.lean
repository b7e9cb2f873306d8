import DeployWatch.GitOps.FileTree
import DeployWatch.Proofs.Text.Utf8

/-!
# Writing into a tree

* `FileTree.placeOf`: the place that steps lead to, whatever the tree; `FileTree.fileAt?`: the bytes of
  the file at a place;
* `find?_put`, `fileAt?_put`: what stands where after something was put into a tree;
* `fileAt?_makeDirectories`: new directories leave all files as they are;
* **`readText_writeText`**, **`fileAt?_writeText`**: a file that was written is read as it was written,
  and all others are as before.
-/

namespace DeployWatch.FileTree

/-- The place one step from a place. -/
def next (p : Place) : Step → Place
  | .root => ⟨2, []⟩
  | .here => p
  | .up => parent p
  | .down name => { p with names := p.names ++ [name] }

/-- The place that steps lead to from the root, if they lead anywhere. -/
def placeOf (ss : List Step) : Place := ss.foldl next {}

def fileAt? (t : FileTree) (p : Place) : Option (List UInt8) :=
  match t.find? p with
  | some (.file bytes) => some bytes
  | _ => none

variable {t t' : FileTree} {p q : Place}

/-! ## Putting items -/

theorem lookup_filter_ne (items : List (Place × Item)) (h : q ≠ p) :
    (items.filter fun e => e.1 != p).lookup q = items.lookup q := by
  induction items with
  | nil => rfl
  | cons e rest ih =>
    obtain ⟨place, item⟩ := e
    by_cases hp : place = p
    · have hq : (q == place) = false := by simpa [hp] using h
      rw [List.filter_cons_of_neg (by simp [hp]), ih, List.lookup_cons, hq]
    · rw [List.filter_cons_of_pos (by simp [hp]), List.lookup_cons, List.lookup_cons, ih]

/-- What stands where after something was put below the root. -/
theorem find?_put (t : FileTree) (hp : p.names ≠ []) (i : Item) (q : Place) :
    (t.put p i).find? q = if q = p then some i else t.find? q := by
  unfold find? put
  by_cases h : q = p
  · rw [h, if_pos rfl, if_neg (by simpa using hp), List.lookup_cons_self]
  · have hq : (q == p) = false := by simpa using h
    rw [if_neg h, List.lookup_cons, hq, lookup_filter_ne _ h]

theorem fileAt?_put (t : FileTree) (hp : p.names ≠ []) (i : Item) (h : q ≠ p) :
    (t.put p i).fileAt? q = t.fileAt? q := by
  unfold fileAt?
  rw [find?_put t hp, if_neg h]

theorem names_ne_nil (h : t.find? p ≠ some .directory) : p.names ≠ [] := by
  intro hp
  exact h (by rw [find?, hp]; rfl)

/-! ## Going through a tree -/

theorem walk_ok {s : Step} (h : t.walk p s = .ok q) : t.find? p = some .directory ∧ q = next p s := by
  unfold walk at h
  split at h
  · cases h
  · cases h
  · rename_i hd
    refine ⟨hd, ?_⟩
    cases s with
    | down name =>
      dsimp only at h
      split at h
      · cases h
      · exact (Except.ok.inj h).symm
    | _ => exact (Except.ok.inj h).symm

/-- A step that can be made can be made in every tree with the same directory. -/
theorem walk_of_directory {s : Step} (h : t.walk p s = .ok q) (hd : t'.find? p = some .directory) :
    t'.walk p s = .ok q := by
  have ht := (walk_ok h).1
  rw [← h]
  unfold walk
  rw [ht, hd]

/-- Every directory of the first tree is one of the second. -/
def Extends (t t' : FileTree) : Prop := ∀ p, t.find? p = some .directory → t'.find? p = some .directory

theorem foldlM_walk_ok {ss : List Step} (h : ss.foldlM t.walk p = .ok q) : q = ss.foldl next p := by
  induction ss generalizing p with
  | nil => exact (Except.ok.inj h).symm
  | cons s ss ih =>
    rw [List.foldlM_cons] at h
    cases hs : t.walk p s with
    | error e => rw [hs] at h; cases h
    | ok r =>
      rw [hs] at h
      rw [List.foldl_cons, ← (walk_ok hs).2]
      exact ih h

/-- Where steps lead does not depend on the tree. -/
theorem locate_ok {ss : List Step} (h : t.locate ss = .ok p) : p = placeOf ss := foldlM_walk_ok h

theorem locate_of_extends {ss : List Step} (ht : t.Extends t') (h : t.locate ss = .ok p) :
    t'.locate ss = .ok p := by
  unfold locate at h ⊢
  generalize ({} : Place) = r at h ⊢
  induction ss generalizing r with
  | nil => exact h
  | cons s ss ih =>
    rw [List.foldlM_cons] at h ⊢
    cases hs : t.walk r s with
    | error e => rw [hs] at h; cases h
    | ok r' =>
      rw [hs] at h
      rw [walk_of_directory hs (ht _ (walk_ok hs).1)]
      exact ih _ h

theorem extends_put (i : Item) (h : t.find? p ≠ some .directory) : t.Extends (t.put p i) := by
  intro q hq
  have hne : q ≠ p := by
    rintro rfl
    exact h hq
  rw [find?_put t (names_ne_nil h), if_neg hne, hq]

/-! ## Directories -/

theorem makeDirectory_ok {ss : List Step} (h : t.makeDirectory ss = .ok t') (q : Place) :
    t'.fileAt? q = t.fileAt? q := by
  unfold makeDirectory at h
  cases hp : t.locate ss with
  | error e => rw [hp] at h; cases h
  | ok p =>
    rw [hp] at h
    cases hf : t.find? p with
    | some i => simp only [bind, Except.bind, hf] at h; cases h
    | none =>
      have hp : p.names ≠ [] := names_ne_nil (t := t) (by simp [hf])
      simp only [bind, Except.bind, hf] at h
      cases h
      by_cases hq : q = p
      · unfold fileAt?
        rw [find?_put t hp, if_pos hq, hq, hf]
      · exact fileAt?_put t hp _ hq

/-- New directories leave all files as they are. -/
theorem fileAt?_makeDirectories {ss : List Step} (h : t.makeDirectories ss = .ok t') (q : Place) :
    t'.fileAt? q = t.fileAt? q := by
  induction ss generalizing t' with
  | nil => cases h; rfl
  | cons s before ih =>
    unfold makeDirectories at h
    dsimp only at h
    split at h
    · rename_i hmade
      cases h
      exact makeDirectory_ok hmade q
    · cases hb : t.makeDirectories before with
      | error e => rw [hb] at h; cases h
      | ok t1 =>
        simp only [hb, bind, Except.bind] at h
        have h1 := ih hb
        split at h
        · rename_i hmade
          cases h
          exact (makeDirectory_ok hmade q).trans h1
        · split at h
          · cases h
            exact h1
          · cases h
    · split at h
      · cases h
        rfl
      · cases h

/-! ## Texts -/

theorem writeText_ok {path text : String} (h : t.writeText path text = .ok t') :
    checkPath path = .ok () ∧ t.locate (steps path) = .ok (placeOf (steps path)) ∧
      t.find? (placeOf (steps path)) ≠ some .directory ∧
      t' = t.put (placeOf (steps path)) (.file (Text.encodeUtf8 text)) := by
  unfold writeText at h
  cases hc : checkPath path with
  | error e => rw [hc] at h; cases h
  | ok _ =>
    cases hl : t.locate (steps path) with
    | error e => rw [hc, hl] at h; cases h
    | ok p =>
      obtain rfl := locate_ok hl
      simp only [hc, hl, bind, Except.bind] at h
      split at h
      · cases h
      · rename_i hd
        exact ⟨rfl, rfl, hd, (Except.ok.inj h).symm⟩

/-- **A file that was written is read as it was written.** -/
theorem readText_writeText {path text : String} (h : t.writeText path text = .ok t') :
    t'.readText path = .ok text := by
  obtain ⟨hcheck, hlocate, hplace, rfl⟩ := writeText_ok h
  have hlocate' := locate_of_extends (extends_put (.file (Text.encodeUtf8 text)) hplace) hlocate
  unfold readText
  simp only [hcheck, hlocate', bind, Except.bind, find?_put t (names_ne_nil hplace), if_true,
    Text.decodeUtf8_encodeUtf8]
  rfl

/-- **Writing a file leaves all other files as they are.** -/
theorem fileAt?_writeText {path text : String} (h : t.writeText path text = .ok t')
    (hq : q ≠ placeOf (steps path)) : t'.fileAt? q = t.fileAt? q := by
  obtain ⟨-, -, hplace, rfl⟩ := writeText_ok h
  exact fileAt?_put t (names_ne_nil hplace) _ hq

end DeployWatch.FileTree
