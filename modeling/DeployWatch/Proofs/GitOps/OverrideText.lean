import DeployWatch.GitOps.Override
import DeployWatch.Proofs.GitOps.Merge
import DeployWatch.Proofs.Yaml.Shown

/-!
# Override files as text

* `TextLayer.RoundTrips`: what is expected of the reading of texts and the writing of values;
* `OverrideFile.WellFormed`: files whose further keys can stand in a file;
* `ofDocument_of_shows`, `shows_of_render`: a file is read from every document that shows it, and a text
  that was written is that of such a document;
* **`wellFormed_of_parse`**, **`parse_render`**: what is read is well formed, and a well-formed file is
  read back as it was written.
-/

namespace DeployWatch

open Yaml (Value Node Document Walk Yields readText readFlag follow readText_of_shows
  readFlag_of_shows)

/-! ## The layer below -/

/-- A layer whose texts, read again, spell out the values they were written for. -/
structure TextLayer.RoundTrips (l : TextLayer) : Prop where
  reads : ∀ v s, v.Readable OverrideFile.maxDepth → v.writable = true → l.write v = some s →
    ∃ doc, l.read s = some doc ∧ doc.root.shows v = true
  notBlank : ∀ v s, l.write v = some s → Text.isBlankText s = false

namespace OverrideFile

/-- Whether further keys can stand beside the known one. -/
def ExtraAllowed (known : String) (depth : Nat) (extra : SortedMap Value) : Prop :=
  ∀ e ∈ extra.entries, e.1 ≠ known ∧ e.2.Readable depth

/-- Whether a file can be what is read from some text. -/
structure WellFormed (f : OverrideFile) : Prop where
  helmExtra : ExtraAllowed "parameters" (maxDepth - 2) f.helmExtra
  extra : ExtraAllowed "helm" (maxDepth - 1) f.extra

theorem WellFormed.default : WellFormed {} where
  helmExtra := by rintro e ⟨⟩
  extra := by rintro e ⟨⟩

theorem apply_eq (f : OverrideFile) (batch : List Parameter) :
    (f.apply batch).1 = { f with parameters := putAll batch f.parameters } := by
  rw [← mergeParameters_fst]
  rfl

theorem WellFormed.apply {f : OverrideFile} (h : f.WellFormed) (batch : List Parameter) :
    (f.apply batch).1.WellFormed := by
  rw [apply_eq]
  exact ⟨h.helmExtra, h.extra⟩

/-! ## What is read is well formed -/

theorem entriesOf_yields (depth : Nat) (n : Node) :
    Yields (entriesOf depth n) fun r => r.2 = [] ∨ r.1 = depth - 1 := by
  unfold entriesOf
  refine (Yields.trivial _).bind fun m _ => ?_
  cases m with
  | scalar tag style s =>
    dsimp only
    split
    · exact Yields.pure (.inl rfl)
    · exact Yields.failure
  | mapping tag entries =>
    cases depth with
    | zero => exact Yields.failure
    | succ d => exact Yields.pure (.inr rfl)
  | _ => cases depth <;> exact Yields.failure

theorem mem_insert {extra : SortedMap Value} {k : String} {v : Value} {e : String × Value}
    (h : e ∈ (extra.insert k v).entries) : e = (k, v) ∨ e ∈ extra.entries :=
  SortedMap.mem_insertEntry h

theorem readKnown_yields {α : Type} {known : String} {item : Nat → Node → Walk α} {depth : Nat}
    {P : α → Prop} (hitem : ∀ n, Yields (item (depth - 1) n) P) (n : Node) :
    Yields (readKnown known item depth n) fun r =>
      (∀ a, r.1 = some a → P a) ∧ ExtraAllowed known (depth - 1) r.2 := by
  unfold readKnown
  refine (entriesOf_yields depth n).bind fun r hr => ?_
  obtain ⟨d, entries⟩ := r
  obtain rfl | rfl : entries = [] ∨ d = depth - 1 := hr
  · exact Yields.pure ⟨by simp, by rintro e ⟨⟩⟩
  · refine Yields.foldlM (fun seen entry hseen => ?_) entries ⟨by simp, by rintro e ⟨⟩⟩
    obtain ⟨hfirst, hextra⟩ := hseen
    unfold readKnownEntry
    refine (Yields.trivial _).bind fun key _ => ?_
    split
    · split
      · exact Yields.failure
      · refine (hitem entry.2).bind fun a ha => Yields.pure ⟨?_, hextra⟩
        rintro b ⟨⟩
        exact ha
    · rename_i hkey
      refine (Value.read_yields _ entry.2).bind fun v hv => Yields.pure ⟨hfirst, ?_⟩
      intro e he
      obtain rfl | he := mem_insert he
      · exact ⟨hkey, hv⟩
      · exact hextra e he

theorem readRoot_yields (n : Node) : Yields (readRoot n) WellFormed := by
  unfold readRoot
  have hhelm : ∀ m, Yields (readKnown "parameters" readParameters (maxDepth - 1) m) fun r =>
      ExtraAllowed "parameters" (maxDepth - 2) r.2 := fun m =>
    (readKnown_yields (fun m => Yields.trivial _) m).mono fun r hr => hr.2
  refine (readKnown_yields hhelm n).bind fun r hr => Yields.pure ?_
  obtain ⟨helm, extra⟩ := r
  cases helm with
  | none => exact ⟨by rintro e ⟨⟩, hr.2⟩
  | some h => exact ⟨hr.1 h rfl, hr.2⟩

/-- **What is read is well formed.** -/
theorem wellFormed_of_parse {l : TextLayer} {s : String} {f : OverrideFile} (h : l.parse s = some f) :
    f.WellFormed := by
  unfold TextLayer.parse at h
  split at h
  · cases h
    exact WellFormed.default
  · obtain ⟨doc, -, hdoc⟩ := Option.bind_eq_some_iff.mp h
    obtain ⟨⟨g, jumps⟩, hg, rfl⟩ := Option.map_eq_some_iff.mp hdoc
    exact readRoot_yields doc.root doc 0 g jumps hg

/-! ## Files are written as readable values -/

theorem distinctKeys_texts (entries : List (String × Value))
    (h : entries.Pairwise fun a b => a.1 ≠ b.1) :
    Value.distinctKeys (entries.map fun e => (.text e.1, e.2)) = true := by
  induction entries with
  | nil => rfl
  | cons e entries ih =>
    obtain ⟨he, hentries⟩ := List.pairwise_cons.mp h
    simp only [List.map_cons, Value.distinctKeys, ih hentries, Bool.and_true, Bool.not_eq_true',
      List.any_eq_false, List.mem_map]
    rintro x ⟨e', he', rfl⟩
    simpa [Value.same] using he e' he'

/-- A mapping of a known key and further keys. -/
def withKnown (known : String) (v : Value) (extra : SortedMap Value) : Value :=
  .mapping ((.text known, v) :: extraEntries extra)

theorem readable_withKnown {known : String} {v : Value} {extra : SortedMap Value} {depth : Nat}
    (hv : v.Readable depth) (hextra : ExtraAllowed known depth extra) :
    (withKnown known v extra).Readable (depth + 1) := by
  refine ⟨?_, ?_⟩
  · refine distinctKeys_texts ((known, v) :: extra.entries) ?_
    refine List.pairwise_cons.mpr ⟨fun e he => (hextra e he).1.symm, ?_⟩
    exact extra.increasing.imp fun hlt => String.ne_of_lt hlt
  · intro e he
    obtain rfl | he := List.mem_cons.mp he
    · exact ⟨Value.readable_text known depth, hv⟩
    · obtain ⟨x, hx, rfl⟩ := List.mem_map.mp he
      exact ⟨Value.readable_text x.1 depth, (hextra x hx).2⟩

theorem readable_parameterValue (p : Parameter) (depth : Nat) :
    (parameterValue p).Readable (depth + 1) := by
  refine ⟨?_, ?_⟩
  · cases p.forceString <;> rfl
  · intro e he
    cases hf : p.forceString with
    | false =>
      simp only [hf, Bool.false_eq_true, if_false, List.append_nil, List.mem_cons,
        List.not_mem_nil, or_false] at he
      rcases he with rfl | rfl <;> exact ⟨Value.readable_text _ _, Value.readable_text _ _⟩
    | true =>
      simp only [hf, if_true, List.cons_append, List.nil_append, List.mem_cons,
        List.not_mem_nil, or_false] at he
      rcases he with rfl | rfl | rfl
      · exact ⟨Value.readable_text _ _, Value.readable_text _ _⟩
      · exact ⟨Value.readable_text _ _, Value.readable_text _ _⟩
      · exact ⟨Value.readable_text _ _, Value.readable_true _⟩

theorem toValue_eq (f : OverrideFile) : f.toValue =
    withKnown "helm" (withKnown "parameters" (.sequence (f.parameters.map parameterValue)) f.helmExtra)
      f.extra := rfl

theorem readable_toValue {f : OverrideFile} (h : f.WellFormed) : f.toValue.Readable maxDepth := by
  rw [toValue_eq]
  refine readable_withKnown (readable_withKnown ?_ h.helmExtra) h.extra
  intro v hv
  obtain ⟨p, -, rfl⟩ := List.mem_map.mp hv
  exact readable_parameterValue p _

theorem writableEntries_texts (entries : List (String × Value))
    (h : ∀ e ∈ entries, e.2.writable = true) :
    Value.writableEntries (entries.map fun e => (.text e.1, e.2)) = true := by
  induction entries with
  | nil => rfl
  | cons e entries ih =>
    simp only [List.map_cons, Value.writableEntries, Bool.and_eq_true]
    exact ⟨⟨rfl, h e List.mem_cons_self⟩, ih fun x hx => h x (List.mem_cons_of_mem _ hx)⟩

theorem writable_mapping_texts (entries : List (String × Value))
    (h : ∀ e ∈ entries, e.2.writable = true) :
    (Value.mapping (entries.map fun e => (.text e.1, e.2))).writable = true := by
  match entries with
  | [] => rfl
  | [e] =>
    simp only [List.map_cons, List.map_nil, Value.writable, Bool.and_eq_true]
    exact ⟨⟨rfl, trivial⟩, h e List.mem_cons_self⟩
  | e :: e' :: rest => exact writableEntries_texts (e :: e' :: rest) h

theorem writableItems_map {ps : List Parameter} :
    Value.writableItems (ps.map parameterValue) = true := by
  induction ps with
  | nil => rfl
  | cons p ps ih =>
    rw [List.map_cons, Value.writableItems, ih, Bool.and_true]
    unfold parameterValue
    cases p.forceString <;> rfl

theorem writable_toValue {f : OverrideFile} (h : f.writable = true) : f.toValue.writable = true := by
  unfold writable at h
  rw [List.all_eq_true] at h
  refine writable_mapping_texts (("helm", _) :: f.extra.entries) fun e he => ?_
  obtain rfl | he := List.mem_cons.mp he
  · refine writable_mapping_texts (("parameters", _) :: f.helmExtra.entries) fun e he => ?_
    obtain rfl | he := List.mem_cons.mp he
    · exact writableItems_map
    · exact h e (List.mem_append_left _ he)
  · exact h e (List.mem_append_right _ he)

/-! ## Reading what was written -/

theorem readParameter_of_shows {n : Node} {p : Parameter} (depth : Nat)
    (h : n.shows (parameterValue p) = true) : readParameter (depth + 1) n = pure p := by
  obtain ⟨name, value, force⟩ := p
  obtain ⟨entries, rfl, hentries⟩ := Node.eq_of_shows_mapping h
  obtain ⟨k1, n1, ns, rfl, hk1, hn1, hns⟩ := Node.showsEntries_cons hentries
  obtain ⟨k2, n2, ns, rfl, hk2, hn2, hns⟩ := Node.showsEntries_cons hns
  have h1 : readParameterEntry {} (k1, n1) = pure { name := some name } := by
    simp [readParameterEntry, readText_of_shows hk1, readText_of_shows hn1]
  have h2 : readParameterEntry { name := some name } (k2, n2) =
      pure { name := some name, value := some value } := by
    simp [readParameterEntry, readText_of_shows hk2, readText_of_shows hn2]
  cases force with
  | false =>
    obtain rfl := Node.eq_nil_of_showsEntries hns
    simp [readParameter, follow, h1, h2]
  | true =>
    obtain ⟨k3, n3, ns, rfl, hk3, hn3, hns⟩ := Node.showsEntries_cons hns
    obtain rfl := Node.eq_nil_of_showsEntries hns
    have h3 : readParameterEntry { name := some name, value := some value } (k3, n3) =
        pure { name := some name, value := some value, forceString := some true } := by
      simp [readParameterEntry, readText_of_shows hk3, readFlag_of_shows hn3]
    simp [readParameter, follow, h1, h2, h3]

theorem readParameters_of_shows {n : Node} {ps : List Parameter} (depth : Nat)
    (h : n.shows (.sequence (ps.map parameterValue)) = true) :
    readParameters (depth + 2) n = pure ps := by
  obtain ⟨items, rfl, hitems⟩ := Node.eq_of_shows_sequence h
  have hread : items.mapM (readParameter (depth + 1)) = pure ps := by
    clear h
    induction ps generalizing items with
    | nil =>
      rw [Node.eq_nil_of_showsItems hitems]
      rfl
    | cons p ps ih =>
      obtain ⟨m, ms, rfl, hm, hms⟩ := Node.showsItems_cons hitems
      rw [List.mapM_cons, readParameter_of_shows depth hm, pure_bind, ih ms hms, pure_bind]
  simp only [readParameters, itemsOf, follow, pure_bind, hread]

/-- Further keys are read in order, each behind those that were read before. -/
theorem foldlM_extra_of_shows {α : Type} {known : String} {item : Node → Walk α} {depth : Nat}
    {first : Option α} {es : List (String × Value)} {entries : List (Node × Node)}
    (hes : ∀ e ∈ es, e.1 ≠ known ∧ e.2.Readable depth)
    (h : Node.showsEntries entries (es.map fun e => (.text e.1, e.2)) = true)
    {seen all : SortedMap Value} (hall : all.entries = seen.entries ++ es) :
    entries.foldlM (readKnownEntry known item depth) (first, seen) = pure (first, all) := by
  induction es generalizing entries seen with
  | nil =>
    obtain rfl := Node.eq_nil_of_showsEntries h
    rw [List.append_nil] at hall
    rw [SortedMap.ext hall]
    rfl
  | cons e es ih =>
    obtain ⟨k, n, ns, rfl, hk, hn, hns⟩ := Node.showsEntries_cons h
    obtain ⟨hknown, hread⟩ := hes e List.mem_cons_self
    have hstep : readKnownEntry known item depth (first, seen) (k, n) =
        pure (first, seen.insert e.1 e.2) := by
      simp only [readKnownEntry, readText_of_shows hk, pure_bind, if_neg hknown,
        Value.read_of_shows hread hn]
    have hincreasing := all.increasing
    rw [hall, List.pairwise_append] at hincreasing
    have hinsert : (seen.insert e.1 e.2).entries = seen.entries ++ [e] :=
      SortedMap.insertEntry_append fun x hx => hincreasing.2.2 x hx e List.mem_cons_self
    rw [List.foldlM_cons, hstep, pure_bind]
    refine ih (fun x hx => hes x (List.mem_cons_of_mem _ hx)) hns ?_
    rw [hall, hinsert, List.append_assoc]
    rfl

theorem readKnown_of_shows {α : Type} {known : String} (item : Nat → Node → Walk α) {depth : Nat}
    {n : Node} {v : Value} {a : α} {extra : SortedMap Value}
    (hextra : ExtraAllowed known depth extra)
    (hitem : ∀ m : Node, m.shows v = true → item depth m = pure a)
    (h : n.shows (withKnown known v extra) = true) :
    readKnown known item (depth + 1) n = pure (some a, extra) := by
  obtain ⟨entries, rfl, hentries⟩ := Node.eq_of_shows_mapping h
  obtain ⟨k, m, ns, rfl, hk, hm, hns⟩ := Node.showsEntries_cons hentries
  have hfirst : readKnownEntry known (item depth) depth (none, .empty) (k, m) =
      pure (some a, .empty) := by
    simp only [readKnownEntry, readText_of_shows hk, pure_bind, if_true, Option.isSome_none,
      Bool.false_eq_true, if_false, hitem m hm]
  simp only [readKnown, entriesOf, follow, pure_bind, List.foldlM_cons, hfirst]
  exact foldlM_extra_of_shows hextra hns rfl

/-- A file is read from every document that shows it. -/
theorem ofDocument_of_shows {f : OverrideFile} (hf : f.WellFormed) {doc : Document}
    (h : doc.root.shows f.toValue = true) : ofDocument doc = some f := by
  rw [toValue_eq] at h
  have hroot := readKnown_of_shows (readKnown "parameters" readParameters) hf.extra
    (fun m hm => readKnown_of_shows readParameters hf.helmExtra
      (fun m hm => readParameters_of_shows _ hm) hm) h
  have hread : readRoot doc.root = pure f := by
    unfold readRoot
    rw [show maxDepth = maxDepth - 1 + 1 from rfl, hroot]
    rfl
  unfold ofDocument
  rw [hread]
  rfl

/-- A text that was written is that of a document which shows the file. -/
theorem shows_of_render {l : TextLayer} (hl : l.RoundTrips) {f : OverrideFile} (hf : f.WellFormed)
    {s : String} (h : l.render f = some s) : Text.isBlankText s = false ∧
      ∃ doc, l.read s = some doc ∧ doc.root.shows f.toValue = true := by
  unfold TextLayer.render at h
  split at h
  · rename_i hw
    exact ⟨hl.notBlank _ _ h, hl.reads f.toValue s (readable_toValue hf) (writable_toValue hw) h⟩
  · cases h

/-- **A well-formed file is read back as it was written.** -/
theorem parse_render {l : TextLayer} (hl : l.RoundTrips) {f : OverrideFile} (hf : f.WellFormed)
    {s : String} (h : l.render f = some s) : l.parse s = some f := by
  obtain ⟨hblank, doc, hdoc, hshows⟩ := shows_of_render hl hf h
  rw [TextLayer.parse, hblank, hdoc]
  exact ofDocument_of_shows hf hshows

end OverrideFile

end DeployWatch
