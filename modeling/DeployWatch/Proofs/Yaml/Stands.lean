import DeployWatch.Proofs.Yaml.Shown

/-!
# What nodes stand for

What a document says, without the walk that reads it: an alias says what its anchor says, and of several
entries with one key the last one counts.

* `Document.target?`, `Document.text?`, `Document.flag?`: scalars;
* `Document.get?`, `Document.items`: the values of keys, and the items of sequences;
* `Stands`, `Stands.unique`: the one value that a node stands for;
* **`read_stands`**: what is read is what the node stands for;
* `get?_of_shows`, `items_of_shows`: parts of a node that spells out a collection.
-/

namespace DeployWatch.Yaml

variable {α β : Type} {doc : Document} {n : Node}

/-! ## Parts of a document -/

namespace Document

/-- The node that a node is or refers to. -/
def target? (doc : Document) : Node → Option Node
  | .alias number =>
    match doc.anchored.find? fun e => e.1 == number with
    | some (_, .alias _) => none
    | some (_, target) => some target
    | none => none
  | n => some n

/-- The text of a scalar, whatever it would stand for. -/
def text? (doc : Document) (n : Node) : Option String :=
  match doc.target? n with
  | some (.scalar _ _ s) => some s
  | _ => none

def flag? (doc : Document) (n : Node) : Option Bool := (doc.text? n).bind Scalar.boolOfText

/-- The value of the last entry with a key. -/
def lastOf? (doc : Document) (entries : List (Node × Node)) (key : String) : Option Node :=
  (entries.reverse.find? fun e => doc.text? e.1 = some key).map (·.2)

/-- The value of a key in a mapping. -/
def get? (doc : Document) (n : Node) (key : String) : Option Node :=
  match doc.target? n with
  | some (.mapping _ entries) => doc.lastOf? entries key
  | _ => none

def items (doc : Document) (n : Node) : List Node :=
  match doc.target? n with
  | some (.sequence _ items) => items
  | _ => []

theorem lastOf?_append (entries : List (Node × Node)) {e : Node × Node} {key : String}
    (he : doc.text? e.1 = some key) (k : String) :
    doc.lastOf? (entries ++ [e]) k = if key = k then some e.2 else doc.lastOf? entries k := by
  unfold lastOf?
  rw [List.reverse_append]
  by_cases h : key = k
  · simp [he, h]
  · simp [he, h]

end Document

theorem follow_yields (doc : Document) (n : Node) :
    YieldsIn doc (follow n) fun m => doc.target? n = some m := by
  match n with
  | .alias number =>
    unfold follow Document.target?
    dsimp only
    have hread : YieldsIn doc read fun doc' => doc' = doc := by
      rintro jumps doc' jumps' ⟨⟩
      rfl
    refine hread.bind fun doc' hdoc' => ?_
    subst hdoc'
    refine (YieldsIn.trivial _).bind fun jumps _ => (YieldsIn.trivial _).bind fun _ _ => ?_
    split
    · exact YieldsIn.failure.bind (P := fun _ => False) fun _ h => h.elim
    · cases doc'.anchored.find? fun e => e.1 == number with
      | none => exact YieldsIn.failure
      | some e =>
        obtain ⟨_, target⟩ := e
        match target with
        | .alias _ => exact YieldsIn.failure
        | .scalar .. | .sequence .. | .mapping .. => exact YieldsIn.pure rfl
  | .scalar .. | .sequence .. | .mapping .. => exact YieldsIn.pure rfl

theorem readText_yields (doc : Document) (n : Node) :
    YieldsIn doc (readText n) fun s => doc.text? n = some s := by
  unfold readText Document.text?
  refine (follow_yields doc n).bind fun m hm => ?_
  rw [hm]
  match m with
  | .scalar tag style s => exact YieldsIn.pure rfl
  | .sequence .. | .mapping .. | .alias _ => exact YieldsIn.failure

theorem readFlag_yields (doc : Document) (n : Node) :
    YieldsIn doc (readFlag n) fun b => doc.flag? n = some b := by
  unfold readFlag Document.flag? Document.text?
  refine (follow_yields doc n).bind fun m hm => ?_
  rw [hm]
  match m with
  | .scalar tag style s =>
    dsimp only
    split
    · split
      · rename_i b hb
        exact YieldsIn.pure hb
      · exact YieldsIn.failure
    · exact YieldsIn.failure
  | .sequence .. | .mapping .. | .alias _ => exact YieldsIn.failure

/-! ## Values -/

/-- The value that a node stands for. -/
inductive Stands (doc : Document) : Node → Value → Prop
  | scalar {n : Node} {tag : Option Tag} {style : ScalarStyle} {s : String} {v : Value} :
    doc.target? n = some (.scalar tag style s) →
    (Scalar.ofTagged? tag style s).bind Value.ofScalar? = some v → Stands doc n v
  | sequence {n : Node} {tag : Option Tag} {items : List Node} {vs : List Value} :
    doc.target? n = some (.sequence tag items) → items.length = vs.length →
    (∀ e ∈ items.zip vs, Stands doc e.1 e.2) → Stands doc n (.sequence vs)
  | mapping {n : Node} {tag : Option Tag} {entries : List (Node × Node)} {es : List (Value × Value)} :
    doc.target? n = some (.mapping tag entries) → entries.length = es.length →
    (∀ e ∈ entries.zip es, Stands doc e.1.1 e.2.1) →
    (∀ e ∈ entries.zip es, Stands doc e.1.2 e.2.2) → Stands doc n (.mapping es)

/-- Two nodes stand for one and the same value. -/
def SameValue (doc : Document) (n : Node) (doc' : Document) (n' : Node) : Prop :=
  ∃ v, (∀ x, Stands doc n x ↔ x = v) ∧ ∀ x, Stands doc' n' x ↔ x = v

/-- Two lists are equal if both are determined, item by item, by a third one. -/
theorem eq_of_determined {l : List α} {bs bs' : List β} (hlength : l.length = bs.length)
    (hlength' : l.length = bs'.length)
    (h : ∀ e ∈ l.zip bs, ∀ b', (e.1, b') ∈ l.zip bs' → e.2 = b') : bs = bs' := by
  induction l generalizing bs bs' with
  | nil =>
    rw [List.length_eq_zero_iff.mp hlength.symm, List.length_eq_zero_iff.mp hlength'.symm]
  | cons a l ih =>
    obtain ⟨b, bs, rfl⟩ := List.exists_cons_of_length_eq_add_one hlength.symm
    obtain ⟨b', bs', rfl⟩ := List.exists_cons_of_length_eq_add_one hlength'.symm
    obtain rfl := h (a, b) List.mem_cons_self b' List.mem_cons_self
    rw [ih (Nat.succ.inj hlength) (Nat.succ.inj hlength') fun e he b' hb' =>
      h e (List.mem_cons_of_mem _ he) b' (List.mem_cons_of_mem _ hb')]

/-- A node stands for one value at most. -/
theorem Stands.unique {v v' : Value} (h : Stands doc n v) (h' : Stands doc n v') : v = v' := by
  induction h generalizing v' with
  | scalar hn hv =>
    cases h' with
    | scalar hn' hv' =>
      cases hn.symm.trans hn'
      exact Option.some.inj (hv.symm.trans hv')
    | sequence hn' => cases hn.symm.trans hn'
    | mapping hn' => cases hn.symm.trans hn'
  | sequence hn hlength _ ih =>
    cases h' with
    | scalar hn' => cases hn.symm.trans hn'
    | sequence hn' hlength' hvs' =>
      cases hn.symm.trans hn'
      exact congrArg _ (eq_of_determined hlength hlength' fun e he b' hb' => ih e he (hvs' _ hb'))
    | mapping hn' => cases hn.symm.trans hn'
  | mapping hn hlength _ _ ihk ihv =>
    cases h' with
    | scalar hn' => cases hn.symm.trans hn'
    | sequence hn' => cases hn.symm.trans hn'
    | mapping hn' hlength' hks' hvs' =>
      cases hn.symm.trans hn'
      exact congrArg _ (eq_of_determined hlength hlength' fun e he b' hb' =>
        Prod.ext (ihk e he (hks' _ hb')) (ihv e he (hvs' _ hb')))

theorem Stands.sameValue {doc' : Document} {n' : Node} {v : Value} (h : Stands doc n v)
    (h' : Stands doc' n' v) : SameValue doc n doc' n' :=
  ⟨v, fun _ => ⟨fun hx => hx.unique h, fun hx => hx ▸ h⟩,
    fun _ => ⟨fun hx => hx.unique h', fun hx => hx ▸ h'⟩⟩

theorem readWith_stands {part : Option (Node → Walk Value)}
    (hpart : ∀ f, part = some f → ∀ n, YieldsIn doc (f n) (Stands doc n)) (n : Node) :
    YieldsIn doc (Value.readWith part n) (Stands doc n) := by
  unfold Value.readWith
  refine (follow_yields doc n).bind fun m hm => ?_
  match m with
  | .scalar tag style s =>
    dsimp only
    split
    · rename_i v hv
      exact YieldsIn.pure (.scalar hm hv)
    · exact YieldsIn.failure
  | .sequence tag items =>
    cases part with
    | none => exact YieldsIn.failure
    | some f =>
      dsimp only
      split
      · exact YieldsIn.failure
      · refine (YieldsIn.mapM (hpart f rfl) items).bind fun vs hvs => YieldsIn.pure ?_
        obtain ⟨hlength, hitems⟩ := List.forall₂_iff_zip.mp hvs
        exact .sequence hm hlength fun e he => hitems he
  | .mapping tag entries =>
    cases part with
    | none => exact YieldsIn.failure
    | some f =>
      dsimp only
      split
      · exact YieldsIn.failure.bind (P := fun _ => False) fun _ h => h.elim
      · have hentry : ∀ e : Node × Node, YieldsIn doc (do return (← f e.1, ← f e.2))
            fun x => Stands doc e.1 x.1 ∧ Stands doc e.2 x.2 := fun e =>
          (hpart f rfl e.1).bind fun k hk => (hpart f rfl e.2).bind fun v hv => YieldsIn.pure ⟨hk, hv⟩
        refine (YieldsIn.mapM hentry entries).bind fun es hes => ?_
        obtain ⟨hlength, hentries⟩ := List.forall₂_iff_zip.mp hes
        split
        · exact YieldsIn.pure (.mapping hm hlength (fun e he => (hentries he).1)
            fun e he => (hentries he).2)
        · exact YieldsIn.failure
  | .alias _ => exact YieldsIn.failure

/-- **What is read is what the node stands for.** -/
theorem read_stands (doc : Document) (d : Nat) (n : Node) :
    YieldsIn doc (Value.read d n) (Stands doc n) := by
  induction d generalizing n with
  | zero => exact readWith_stands (fun f h => by cases h) n
  | succ d ih => exact readWith_stands (fun f h => by cases h; exact ih) n

/-! ## Parts of a node that spells out a collection -/

theorem text?_of_shows {s : String} (h : n.shows (.text s) = true) : doc.text? n = some s := by
  refine readText_yields doc n 0 s 0 ?_
  rw [readText_of_shows h]
  rfl

/-- The value of a key that is found in a mapping of texts. -/
theorem get?_of_shows (es : List (String × Value)) {key : String} {m : Node}
    (h : n.shows (.mapping (es.map fun e => (.text e.1, e.2))) = true)
    (hm : doc.get? n key = some m) : ∃ v, (key, v) ∈ es ∧ m.shows v = true := by
  obtain ⟨entries, rfl, hentries⟩ := Node.eq_of_shows_mapping h
  change doc.lastOf? entries key = some m at hm
  obtain ⟨e, he, rfl⟩ := Option.map_eq_some_iff.mp hm
  have hkey : doc.text? e.1 = some key := by simpa using List.find?_some he
  have hmem := List.mem_reverse.mp (List.mem_of_find?_eq_some he)
  clear hm he h
  induction es generalizing entries with
  | nil =>
    rw [Node.eq_nil_of_showsEntries hentries] at hmem
    cases hmem
  | cons x es ih =>
    obtain ⟨k, n, ns, rfl, hk, hn, hns⟩ := Node.showsEntries_cons hentries
    rcases List.mem_cons.mp hmem with rfl | hmem
    · rw [text?_of_shows hk] at hkey
      cases hkey
      exact ⟨x.2, List.mem_cons_self, hn⟩
    · obtain ⟨v, hv, hshows⟩ := ih ns hns hmem
      exact ⟨v, List.mem_cons_of_mem _ hv, hshows⟩

theorem items_of_shows {vs : List Value} (h : n.shows (.sequence vs) = true) :
    ∀ m ∈ doc.items n, ∃ v ∈ vs, m.shows v = true := by
  obtain ⟨items, rfl, hitems⟩ := Node.eq_of_shows_sequence h
  change ∀ m ∈ items, _
  clear h
  induction vs generalizing items with
  | nil =>
    rw [Node.eq_nil_of_showsItems hitems]
    simp
  | cons v vs ih =>
    obtain ⟨m, ms, rfl, hm, hms⟩ := Node.showsItems_cons hitems
    intro m' hm'
    rcases List.mem_cons.mp hm' with rfl | hm'
    · exact ⟨v, List.mem_cons_self, hm⟩
    · obtain ⟨w, hw, hshows⟩ := ih _ hms m' hm'
      exact ⟨w, List.mem_cons_of_mem _ hw, hshows⟩

end DeployWatch.Yaml
