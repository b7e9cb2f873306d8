import DeployWatch.Json.Decode
import Mathlib.Data.List.Forall2
import Mathlib.Logic.Relation

/-!
# Members that nothing is known of

A record passes over members whose names it does not know. This is said of trees, so that it holds of
all the ways in which they can be spelled.

* `Outline`: the known names at every level of a format;
* `Adds`: a tree with one further member, at one of these levels;
* `Blind`: a decoder to which such a member makes no difference;
* `blind_option`, `blind_list`, **`blind_record`**: what is built of blind decoders is blind;
* `Holds`, **`decodeText_of_adds`**: two texts that differ in further members are decoded alike.
-/

namespace DeployWatch.Json

variable {α σ : Type}

/-- The levels of a format: the names that a record knows, and what stands under them. Plain values and
maps have no levels of their own. -/
inductive Outline where
  | value
  | record (known : List (String × Outline))
  | list (item : Outline)

/-- The second tree is the first with one more member, under a name that is not known where it stands.
The value of the member is any that can be passed over. -/
inductive Adds : Outline → Doc → Doc → Prop
  | here {known : List (String × Outline)} {ending : Option Fault}
      (before after : List (Except Fault String × Doc)) (name : String) (v : Doc)
      (hname : name ∉ known.map Prod.fst) (hv : v.skipFault = none) :
      Adds (.record known) (.object (before ++ after) ending)
        (.object (before ++ (.ok name, v) :: after) ending)
  | inMember {known : List (String × Outline)} {ending : Option Fault}
      (before after : List (Except Fault String × Doc)) {name : String} {o : Outline} {d d' : Doc}
      (hname : known.lookup name = some o) (h : Adds o d d') :
      Adds (.record known) (.object (before ++ (.ok name, d) :: after) ending)
        (.object (before ++ (.ok name, d') :: after) ending)
  /-- A record may be written as the array of its fields. -/
  | inColumn {known : List (String × Outline)} {ending : Option Fault} (before after : List Doc)
      {name : String} {o : Outline} {d d' : Doc} (hname : known[before.length]? = some (name, o))
      (h : Adds o d d') :
      Adds (.record known) (.array (before ++ d :: after) ending)
        (.array (before ++ d' :: after) ending)
  | inItem {ending : Option Fault} (before after : List Doc) {o : Outline} {d d' : Doc}
      (h : Adds o d d') :
      Adds (.list o) (.array (before ++ d :: after) ending) (.array (before ++ d' :: after) ending)

/-- Further members make no difference to the decoder. -/
def Blind (item : Decoder α) (o : Outline) : Prop := ∀ d d', Adds o d d' → item d' = item d

theorem blind_value (item : Decoder α) : Blind item .value := by
  intro d d' h
  cases h

theorem blind_option {item : Decoder α} {o : Outline} (hitem : Blind item o) :
    Blind (Decode.option item) o := by
  intro d d' h
  have hsame := congrArg (some <$> ·) (hitem d d' h)
  cases h <;> exact hsame

theorem blind_list {item : Decoder α} {o : Outline} (hitem : Blind item o) :
    Blind (Decode.list item) (.list o) := by
  intro d d' h
  cases h with
  | inItem before after h =>
    simp only [Decode.list, List.mapM_append, List.mapM_cons, hitem _ _ h]

/-! ## Records -/

/-- Further members make no difference to what is stored in the field. -/
def Field.Blind (f : Field σ) (o : Outline) : Prop := ∀ d d' s, Adds o d d' → f.set d' s = f.set d s

/-- The fields of a record are those of the outline, in its order. -/
def Outlined (fields : List (Field σ)) (known : List (String × Outline)) : Prop :=
  List.Forall₂ (fun f m => f.name = m.1 ∧ f.Blind m.2) fields known

section Records

variable {fields : List (Field σ)} {known : List (String × Outline)} {name : String} {o : Outline}

theorem Outlined.find?_eq_none (h : Outlined fields known) (hname : name ∉ known.map Prod.fst) :
    fields.find? (fun f => f.name = name) = none := by
  rw [List.find?_eq_none]
  induction h with
  | nil => rintro f ⟨⟩
  | @cons f m fields known hf _ ih =>
    rw [List.map_cons, List.mem_cons, not_or] at hname
    intro g hg
    obtain rfl | hg := List.mem_cons.mp hg
    · simpa [hf.1] using Ne.symm hname.1
    · exact ih hname.2 g hg

theorem Outlined.exists_find? (h : Outlined fields known) (hname : known.lookup name = some o) :
    ∃ f, fields.find? (fun f => f.name = name) = some f ∧ f.Blind o := by
  induction h with
  | nil => cases hname
  | @cons f m fields known hf _ ih =>
    obtain ⟨k, p⟩ := m
    by_cases hk : name = k
    · subst hk
      rw [List.lookup_cons_self] at hname
      cases hname
      exact ⟨f, List.find?_cons_of_pos (by simpa using hf.1), hf.2⟩
    · rw [List.lookup_cons, beq_eq_false_iff_ne.mpr hk] at hname
      obtain ⟨g, hg, hblind⟩ := ih hname
      refine ⟨g, ?_, hblind⟩
      rw [List.find?_cons_of_neg (by simpa [hf.1] using Ne.symm hk), hg]

/-- Members are gone through one after the other. -/
theorem readMembers_append (before after : List (Except Fault String × Doc)) (seen : List String)
    (s : σ) : Record.readMembers fields seen (before ++ after) s =
      Record.readMembers fields seen before s >>= fun r => Record.readMembers fields r.1 after r.2 := by
  induction before generalizing seen s with
  | nil => rfl
  | cons m before ih =>
    obtain ⟨key, d⟩ := m
    cases key with
    | error f => rfl
    | ok k =>
      rw [List.cons_append, Record.readMembers, Record.readMembers]
      split
      · split
        · rfl
        · exact ih seen s
      · split
        · rfl
        · rw [bind_assoc]
          exact congrArg _ (funext fun s => ih _ s)

/-- A member under an unknown name is passed over. -/
theorem readMembers_further (h : Outlined fields known) (hname : name ∉ known.map Prod.fst) {v : Doc}
    (hv : v.skipFault = none) (seen : List String) (after : List (Except Fault String × Doc)) (s : σ) :
    Record.readMembers fields seen ((.ok name, v) :: after) s =
      Record.readMembers fields seen after s := by
  rw [Record.readMembers, h.find?_eq_none hname]
  dsimp only
  rw [hv]

theorem readMembers_inMember (h : Outlined fields known) (hname : known.lookup name = some o)
    {d d' : Doc} (hadds : Adds o d d') (seen : List String)
    (after : List (Except Fault String × Doc)) (s : σ) :
    Record.readMembers fields seen ((.ok name, d') :: after) s =
      Record.readMembers fields seen ((.ok name, d) :: after) s := by
  obtain ⟨f, hf, hblind⟩ := h.exists_find? hname
  rw [Record.readMembers, Record.readMembers, hf]
  dsimp only
  rw [hblind d d' s hadds]

theorem readRow_inColumn (h : Outlined fields known) {before after : List Doc}
    {ending : Option Fault} (hname : known[before.length]? = some (name, o)) {d d' : Doc}
    (hadds : Adds o d d') (s : σ) :
    Record.readRow fields (before ++ d' :: after) ending s =
      Record.readRow fields (before ++ d :: after) ending s := by
  induction before generalizing fields known s with
  | nil =>
    cases h with
    | nil => cases hname
    | @cons f m fields known hf _ =>
      obtain rfl : m = (name, o) := Option.some.inj hname
      rw [List.nil_append, List.nil_append, Record.readRow, Record.readRow, hf.2 d d' s hadds]
  | cons b before ih =>
    cases h with
    | nil => cases hname
    | @cons f m fields known hf hrest =>
      rw [List.cons_append, List.cons_append, Record.readRow, Record.readRow]
      exact congrArg _ (funext fun s => ih hrest hname s)

/-- **A record whose fields are blind is blind**, also to further members of its own. -/
theorem blind_record (h : Outlined fields known) (start : σ) :
    Blind (Record.read fields start) (.record known) := by
  intro d d' hadds
  cases hadds with
  | here before after name v hname hv =>
    simp only [Record.read, readMembers_append, readMembers_further h hname hv]
  | inMember before after hname hadds =>
    simp only [Record.read, readMembers_append, readMembers_inMember h hname hadds]
  | inColumn before after hname hadds => exact readRow_inColumn h hname hadds start

end Records

/-! ## Texts -/

/-- The text spells out the tree, and nothing after it. -/
def Holds (text : String) (d : Doc) : Prop :=
  ∃ rest, Doc.read text.toList = (d, rest) ∧ skipSpace rest = []

theorem Holds.unique {text : String} {d d' : Doc} (h : Holds text d) (h' : Holds text d') : d = d' := by
  obtain ⟨rest, hread, -⟩ := h
  obtain ⟨rest', hread', -⟩ := h'
  exact congrArg Prod.fst (hread.symm.trans hread')

theorem decodeText_of_holds {text : String} {d : Doc} (h : Holds text d) (item : Decoder α) :
    decodeText item text = item d := by
  obtain ⟨rest, hread, hrest⟩ := h
  rw [decodeText, hread]
  dsimp only
  rw [hrest]
  cases item d <;> rfl

/-- A text that is decoded holds a tree. -/
theorem exists_holds {item : Decoder α} {text : String} {a : α} (h : decodeText item text = .ok a) :
    ∃ d, Holds text d := by
  rw [decodeText] at h
  rcases hread : Doc.read text.toList with ⟨d, rest⟩
  rw [hread] at h
  dsimp only at h
  cases hitem : item d with
  | error e =>
    rw [hitem] at h
    cases h
  | ok b =>
    rw [hitem] at h
    dsimp only [bind, Except.bind] at h
    split at h
    · exact ⟨d, rest, hread, List.isEmpty_iff.mp ‹_›⟩
    · cases h

theorem eq_of_adds {item : Decoder α} {o : Outline} (hitem : Blind item o) {d d' : Doc}
    (h : Relation.ReflTransGen (Adds o) d d') : item d' = item d := by
  induction h with
  | refl => rfl
  | tail _ hadds ih => rw [hitem _ _ hadds, ih]

/-- **Further members make no difference to what a text is decoded to**, however many there are and at
whatever levels. -/
theorem decodeText_of_adds {item : Decoder α} {o : Outline} (hitem : Blind item o) {text text' : String}
    {d d' : Doc} (htext : Holds text d) (htext' : Holds text' d')
    (h : Relation.ReflTransGen (Adds o) d d') : decodeText item text' = decodeText item text := by
  rw [decodeText_of_holds htext, decodeText_of_holds htext', eq_of_adds hitem h]

end DeployWatch.Json
