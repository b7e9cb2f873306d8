import DeployWatch.Proofs.GitOps.BareHost
import DeployWatch.Proofs.Yaml.Stands

/-!
# Keys that an update does not write

An override file may have keys that nothing is known of. Those of the file and of its section for the
chart come through a merge; those of a parameter are lost when the file is written again.

* `TextLayer.document`: the document of a text;
* `OverrideFile.sectionKey?`, `OverrideFile.parameterNodes`, `OverrideFile.parameterAt?`: where a document
  says what;
* `Describes`, `describes_of_ofDocument`: what is read is what the document says;
* `Carried`, **`unwritten_keys_carried`**: what comes through;
* `further_parameter_key_lost`: what does not.
-/

namespace DeployWatch

open Yaml (Value Node Document Walk YieldsIn Stands SameValue follow_yields readText_yields
  readFlag_yields read_stands get?_of_shows items_of_shows)

/-- The document of a text; a blank text is a missing node. -/
def TextLayer.document (l : TextLayer) (s : String) : Option Document :=
  if Text.isBlankText s then some { root := .missing } else l.read s

theorem TextLayer.parse_eq (l : TextLayer) (s : String) :
    l.parse s = (l.document s).bind OverrideFile.ofDocument := by
  unfold parse document
  split
  · rfl
  · rfl

namespace OverrideFile

/-! ## What a document says -/

/-- The value of a key in the section for the chart. -/
def sectionKey? (doc : Document) (key : String) : Option Node :=
  (doc.get? doc.root "helm").bind fun h => doc.get? h key

def parameterNodes (doc : Document) : List Node :=
  ((sectionKey? doc "parameters").map doc.items).getD []

/-- The parameter that a node spells out. -/
def parameterAt? (doc : Document) (n : Node) : Option Parameter := do
  let name ← (doc.get? n "name").bind doc.text?
  let value ← (doc.get? n "value").bind doc.text?
  let force ← match doc.get? n "forcestring" with
    | some m => doc.flag? m
    | none => some false
  return ⟨name, value, force⟩

/-- A document says what is in a file. -/
structure Describes (doc : Document) (f : OverrideFile) : Prop where
  extra : ∀ key, key ≠ "helm" → Option.Rel (Stands doc) (doc.get? doc.root key) (f.extra.find? key)
  helmExtra : ∀ key, key ≠ "parameters" →
    Option.Rel (Stands doc) (sectionKey? doc key) (f.helmExtra.find? key)
  parameters : List.Forall₂ (fun n p => parameterAt? doc n = some p) (parameterNodes doc) f.parameters

section Reading

variable {doc : Document}

/-- The known keys among the entries of a parameter say what the draft holds. -/
structure Drafted (doc : Document) (entries : List (Node × Node)) (d : Draft) : Prop where
  name : Option.Rel (fun m s => doc.text? m = some s) (doc.lastOf? entries "name") d.name
  value : Option.Rel (fun m s => doc.text? m = some s) (doc.lastOf? entries "value") d.value
  forceString : Option.Rel (fun m b => doc.flag? m = some b) (doc.lastOf? entries "forcestring")
    d.forceString

theorem readParameterEntry_yields {before : List (Node × Node)} {d : Draft}
    (hd : Drafted doc before d) (e : Node × Node) :
    YieldsIn doc (readParameterEntry d e) (Drafted doc (before ++ [e])) := by
  unfold readParameterEntry
  refine (readText_yields doc e.1).bind fun key hkey => ?_
  have hlast := Document.lastOf?_append before hkey
  split
  · split
    · exact YieldsIn.failure
    · refine (readText_yields doc e.2).bind fun s hs => YieldsIn.pure ⟨?_, ?_, ?_⟩
      · rw [hlast]; exact .some hs
      · rw [hlast]; exact hd.value
      · rw [hlast]; exact hd.forceString
  · split
    · exact YieldsIn.failure
    · refine (readText_yields doc e.2).bind fun s hs => YieldsIn.pure ⟨?_, ?_, ?_⟩
      · rw [hlast]; exact hd.name
      · rw [hlast]; exact .some hs
      · rw [hlast]; exact hd.forceString
  · split
    · exact YieldsIn.failure
    · refine (readFlag_yields doc e.2).bind fun b hb => YieldsIn.pure ⟨?_, ?_, ?_⟩
      · rw [hlast]; exact hd.name
      · rw [hlast]; exact hd.value
      · rw [hlast]; exact .some hb
  · rename_i hname hvalue hforce
    refine YieldsIn.pure ⟨?_, ?_, ?_⟩
    · rw [hlast, if_neg hname]; exact hd.name
    · rw [hlast, if_neg hvalue]; exact hd.value
    · rw [hlast, if_neg hforce]; exact hd.forceString

theorem readParameter_yields (depth : Nat) (n : Node) :
    YieldsIn doc (readParameter depth n) fun p => parameterAt? doc n = some p := by
  unfold readParameter
  refine (follow_yields doc n).bind fun m hm => ?_
  match m, depth with
  | .mapping tag entries, depth + 1 =>
    have hget : ∀ key, doc.get? n key = doc.lastOf? entries key := by
      intro key
      unfold Document.get?
      rw [hm]
    have hstart : Drafted doc [] {} := ⟨.none, .none, .none⟩
    refine (YieldsIn.foldlM (I := Drafted doc) (fun _ _ e hd => readParameterEntry_yields hd e)
      entries hstart).bind fun d hd => ?_
    obtain ⟨name, value, force⟩ := d
    obtain ⟨hname, hvalue, hforce⟩ := hd
    unfold parameterAt?
    rw [hget, hget, hget]
    generalize doc.lastOf? entries "name" = nameNode, doc.lastOf? entries "value" = valueNode,
      doc.lastOf? entries "forcestring" = forceNode at hname hvalue hforce ⊢
    cases hname with
    | none => exact YieldsIn.failure
    | some hname =>
      cases hvalue with
      | none => exact YieldsIn.failure
      | some hvalue =>
        refine YieldsIn.pure ?_
        cases hforce with
        | none => simp [hname, hvalue]
        | some hforce => simp [hname, hvalue, hforce]
  | .mapping .., 0 | .scalar .., _ | .sequence .., _ | .alias _, _ => exact YieldsIn.failure

theorem itemsOf_yields (depth : Nat) (n : Node) :
    YieldsIn doc (itemsOf depth n) fun r => doc.items n = r.2 := by
  unfold itemsOf Document.items
  refine (follow_yields doc n).bind fun m hm => ?_
  rw [hm]
  match m, depth with
  | .sequence tag items, depth + 1 => exact YieldsIn.pure rfl
  | .scalar tag style s, _ =>
    dsimp only
    split
    · exact YieldsIn.pure rfl
    · exact YieldsIn.failure
  | .sequence .., 0 | .mapping .., _ | .alias _, _ => exact YieldsIn.failure

theorem readParameters_yields (depth : Nat) (n : Node) :
    YieldsIn doc (readParameters depth n)
      (List.Forall₂ (fun m p => parameterAt? doc m = some p) (doc.items n)) := by
  unfold readParameters
  refine (itemsOf_yields depth n).bind fun r hr => ?_
  rw [hr]
  exact YieldsIn.mapM (fun m => readParameter_yields r.1 m) r.2

/-- The known key and the further ones say what was read. -/
structure Sorted {α : Type} (doc : Document) (known : String) (P : Node → α → Prop)
    (get : String → Option Node) (r : Option α × SortedMap Value) : Prop where
  first : Option.Rel P (get known) r.1
  further : ∀ key, key ≠ known → Option.Rel (Stands doc) (get key) (r.2.find? key)

theorem readKnownEntry_yields {α : Type} {known : String} {item : Node → Walk α} {depth : Nat}
    {P : Node → α → Prop} (hitem : ∀ n, YieldsIn doc (item n) (P n)) {before : List (Node × Node)}
    {seen : Option α × SortedMap Value} (hseen : Sorted doc known P (doc.lastOf? before) seen)
    (e : Node × Node) : YieldsIn doc (readKnownEntry known item depth seen e)
      (Sorted doc known P (doc.lastOf? (before ++ [e]))) := by
  unfold readKnownEntry
  refine (readText_yields doc e.1).bind fun key hkey => ?_
  have hlast := Document.lastOf?_append before hkey
  split
  · rename_i hknown
    split
    · exact YieldsIn.failure
    · refine (hitem e.2).bind fun a ha => YieldsIn.pure ⟨?_, fun k hk => ?_⟩
      · rw [hlast, if_pos hknown]
        exact .some ha
      · rw [hlast, if_neg fun h => hk (h.symm.trans hknown)]
        exact hseen.further k hk
  · rename_i hknown
    refine (read_stands doc depth e.2).bind fun v hv => YieldsIn.pure ⟨?_, fun k hk => ?_⟩
    · rw [hlast, if_neg hknown]
      exact hseen.first
    · rw [hlast, SortedMap.find?_insert]
      by_cases h : key = k
      · rw [if_pos h, if_pos h]
        exact .some hv
      · rw [if_neg h, if_neg h]
        exact hseen.further k hk

theorem readKnown_sorted {α : Type} {known : String} {item : Nat → Node → Walk α} {depth : Nat}
    {P : Node → α → Prop} (hitem : ∀ d n, YieldsIn doc (item d n) (P n)) (n : Node) :
    YieldsIn doc (readKnown known item depth n) (Sorted doc known P (doc.get? n)) := by
  unfold readKnown
  have hentries : YieldsIn doc (entriesOf depth n) fun r => doc.get? n = doc.lastOf? r.2 := by
    unfold entriesOf Document.get?
    refine (follow_yields doc n).bind fun m hm => ?_
    rw [hm]
    match m, depth with
    | .mapping tag entries, depth + 1 => exact YieldsIn.pure rfl
    | .scalar tag style s, _ =>
      dsimp only
      split
      · exact YieldsIn.pure rfl
      · exact YieldsIn.failure
    | .mapping .., 0 | .sequence .., _ | .alias _, _ => exact YieldsIn.failure
  refine hentries.bind fun r hr => ?_
  rw [hr]
  have hstart : Sorted doc known P (doc.lastOf? []) (none, .empty) := ⟨.none, fun _ _ => .none⟩
  exact YieldsIn.foldlM (I := fun before => Sorted doc known P (doc.lastOf? before))
    (fun _ _ e hseen => readKnownEntry_yields (hitem r.1) hseen e) r.2 hstart

theorem readRoot_describes : YieldsIn doc (readRoot doc.root) (Describes doc) := by
  unfold readRoot
  have hsection : ∀ d n, YieldsIn doc (readKnown "parameters" readParameters d n) _ :=
    fun d n => readKnown_sorted readParameters_yields n
  refine (readKnown_sorted hsection doc.root).bind fun r hr => ?_
  obtain ⟨helm, extra⟩ := r
  obtain ⟨hhelm, hextra⟩ := hr
  dsimp only at hhelm hextra ⊢
  generalize hnode : doc.get? doc.root "helm" = node at hhelm
  cases hhelm with
  | none =>
    have hnone : ∀ key, sectionKey? doc key = none := by
      intro key
      unfold sectionKey?
      rw [hnode]
      rfl
    refine YieldsIn.pure ⟨hextra, fun key _ => ?_, ?_⟩
    · rw [hnone]
      exact .none
    · unfold parameterNodes
      rw [hnone]
      exact .nil
  | @some node section' hsection =>
    obtain ⟨hparameters, hfurther⟩ := hsection
    have hsome : ∀ key, sectionKey? doc key = doc.get? node key := by
      intro key
      unfold sectionKey?
      rw [hnode]
      rfl
    refine YieldsIn.pure ⟨hextra, fun key hkey => ?_, ?_⟩
    · rw [hsome]
      exact hfurther key hkey
    · unfold parameterNodes
      rw [hsome]
      obtain ⟨parameters, further⟩ := section'
      dsimp only at hparameters ⊢
      generalize doc.get? node "parameters" = list at hparameters
      cases hparameters with
      | none => exact .nil
      | some hlist => exact hlist

end Reading

/-- **What is read is what the document says.** -/
theorem describes_of_ofDocument {doc : Document} {f : OverrideFile} (h : ofDocument doc = some f) :
    Describes doc f := by
  obtain ⟨⟨g, jumps⟩, hg, rfl⟩ := Option.map_eq_some_iff.mp h
  exact readRoot_describes 0 g jumps hg

/-! ## What comes through -/

/-- A file with batches of parameters merged in one after the other. -/
def applyAll (f : OverrideFile) (batches : List (List Parameter)) : OverrideFile :=
  batches.foldl (fun f batch => (f.apply batch).1) f

theorem applyAll_eq (f : OverrideFile) (batches : List (List Parameter)) :
    f.applyAll batches = { f with parameters := putAll batches.flatten f.parameters } := by
  unfold applyAll
  induction batches generalizing f with
  | nil => rfl
  | cons batch batches ih =>
    rw [List.foldl_cons, ih, apply_eq, List.flatten_cons, putAll_append]

theorem WellFormed.applyAll {f : OverrideFile} (h : f.WellFormed) (batches : List (List Parameter)) :
    (f.applyAll batches).WellFormed := by
  rw [applyAll_eq]
  exact ⟨h.helmExtra, h.extra⟩

/-- What comes through from one document to another while parameters are written. -/
structure Carried (doc doc' : Document) (written : List Parameter) : Prop where
  /-- Keys of the file. -/
  ofFile : ∀ key m, key ≠ "helm" → doc.get? doc.root key = some m →
    ∃ m', doc'.get? doc'.root key = some m' ∧ SameValue doc m doc' m'
  /-- Keys of the section for the chart. -/
  ofSection : ∀ key m, key ≠ "parameters" → sectionKey? doc key = some m →
    ∃ m', sectionKey? doc' key = some m' ∧ SameValue doc m doc' m'
  /-- Parameters that are not written keep their place, name, value and flag. -/
  parameters : ∀ (i : Nat) n, (parameterNodes doc)[i]? = some n → ∃ p, parameterAt? doc n = some p ∧
    ((∀ q ∈ written, q.name ≠ p.name) →
      ∃ n', (parameterNodes doc')[i]? = some n' ∧ parameterAt? doc' n' = some p)
  /-- Parameters have no further keys any more. -/
  known : ∀ n ∈ parameterNodes doc', ∀ key m, doc'.get? n key = some m →
    key ∈ ["name", "value", "forcestring"]

section Carrying

variable {doc doc' : Document} {f g : OverrideFile}

theorem sameValue_of_rel {x x' : Option Node} {o : Option Value} (h : Option.Rel (Stands doc) x o)
    (h' : Option.Rel (Stands doc') x' o) {m : Node} (hm : x = some m) :
    ∃ m', x' = some m' ∧ SameValue doc m doc' m' := by
  subst hm
  cases h with
  | some hv =>
    cases h' with
    | some hv' => exact ⟨_, rfl, hv.sameValue hv'⟩

theorem getElem?_of_forall₂ {α β : Type} {R : α → β → Prop} {l : List α} {l' : List β}
    (h : List.Forall₂ R l l') (i : Nat) : Option.Rel R l[i]? l'[i]? := by
  induction h generalizing i with
  | nil => exact .none
  | cons hab _ ih =>
    cases i with
    | zero => exact .some hab
    | succ i => exact ih i

theorem get?_known_of_shows {n m : Node} {known : String} {v : Value} {extra : SortedMap Value}
    {depth : Nat} (hextra : ExtraAllowed known depth extra)
    (h : n.shows (withKnown known v extra) = true) (hm : doc.get? n known = some m) :
    m.shows v = true := by
  obtain ⟨v', hmem, hshows⟩ := get?_of_shows ((known, v) :: extra.entries) h hm
  rcases List.mem_cons.mp hmem with heq | hmem
  · cases heq
    exact hshows
  · exact absurd rfl (hextra _ hmem).1

/-- The nodes of parameters show parameters. -/
theorem parameterNodes_of_shows (hf : f.WellFormed) (h : doc.root.shows f.toValue = true) :
    ∀ n ∈ parameterNodes doc, ∃ p, n.shows (parameterValue p) = true := by
  intro n hn
  rw [toValue_eq] at h
  unfold parameterNodes sectionKey? at hn
  cases hhelm : doc.get? doc.root "helm" with
  | none =>
    rw [hhelm] at hn
    cases hn
  | some helm =>
    have hsection := get?_known_of_shows hf.extra h hhelm
    rw [hhelm, Option.bind_some] at hn
    cases hlist : doc.get? helm "parameters" with
    | none =>
      rw [hlist] at hn
      cases hn
    | some list =>
      rw [hlist] at hn
      obtain ⟨v, hv, hshows⟩ := items_of_shows (get?_known_of_shows hf.helmExtra hsection hlist) n hn
      obtain ⟨p, -, rfl⟩ := List.mem_map.mp hv
      exact ⟨p, hshows⟩

theorem known_of_shows {n m : Node} {p : Parameter} (h : n.shows (parameterValue p) = true)
    {key : String} (hm : doc.get? n key = some m) : key ∈ ["name", "value", "forcestring"] := by
  obtain ⟨name, value, force⟩ := p
  cases force with
  | false =>
    obtain ⟨v, hv, -⟩ := get?_of_shows [("name", .text name), ("value", .text value)] h hm
    simp only [List.mem_cons, Prod.mk.injEq, List.not_mem_nil, or_false] at hv ⊢
    exact hv.imp And.left fun hv => .inl hv.1
  | true =>
    obtain ⟨v, hv, -⟩ := get?_of_shows
      [("name", .text name), ("value", .text value), ("forcestring", .bool true)] h hm
    simp only [List.mem_cons, Prod.mk.injEq, List.not_mem_nil, or_false] at hv ⊢
    exact hv.imp And.left (Or.imp And.left And.left)

end Carrying

/-- **Keys that are not written come through** a reading, any number of merges and the writing after
them: those of the file and of its section for the chart with their values, and parameters whose names
are in no batch in their places. The last entry with a key counts, and keys are compared as texts.
Further keys of a parameter do not come through, whether or not it is written. -/
theorem unwritten_keys_carried {l : TextLayer} (hl : l.RoundTrips) {s s' : String} {f : OverrideFile}
    (batches : List (List Parameter)) (hparse : l.parse s = some f)
    (hrender : l.render (f.applyAll batches) = some s') :
    ∃ doc doc', l.document s = some doc ∧ l.document s' = some doc' ∧
      Carried doc doc' batches.flatten := by
  have hwell := (wellFormed_of_parse hparse).applyAll batches
  have hparse' := parse_render hl hwell hrender
  obtain ⟨hblank, written, hread, hshows⟩ := shows_of_render hl hwell hrender
  have hwritten : l.document s' = some written := by
    rw [TextLayer.document, hblank]
    exact hread
  rw [TextLayer.parse_eq, Option.bind_eq_some_iff] at hparse hparse'
  obtain ⟨doc, hdoc, hof⟩ := hparse
  obtain ⟨doc', hdoc', hof'⟩ := hparse'
  have hbefore := describes_of_ofDocument hof
  have hafter := describes_of_ofDocument hof'
  rw [applyAll_eq] at hafter
  refine ⟨doc, doc', hdoc, hdoc', ?_, ?_, ?_, ?_⟩
  · intro key m hkey hm
    exact sameValue_of_rel (hbefore.extra key hkey) (hafter.extra key hkey) hm
  · intro key m hkey hm
    exact sameValue_of_rel (hbefore.helmExtra key hkey) (hafter.helmExtra key hkey) hm
  · intro i n hn
    have hrel := getElem?_of_forall₂ hbefore.parameters i
    have hrel' := getElem?_of_forall₂ hafter.parameters i
    rw [hn] at hrel
    generalize hp : f.parameters[i]? = o at hrel
    cases hrel with
    | @some _ p hat =>
      refine ⟨p, hat, fun hother => ?_⟩
      rw [getElem?_putAll hp hother] at hrel'
      generalize (parameterNodes doc')[i]? = o' at hrel' ⊢
      cases hrel' with
      | some hat' => exact ⟨_, rfl, hat'⟩
  · cases hdoc'.symm.trans hwritten
    intro n hn key m hm
    obtain ⟨p, hp⟩ := parameterNodes_of_shows hwell hshows n hn
    exact known_of_shows hp hm

/-! ## A file with a comment in a parameter -/

/-- A parameter with a further key, a further key beside the parameters, and one of the file. -/
def commentedText : String :=
  "helm:\n  parameters:\n  - name: replicas\n    value: '3'\n    comment: keep\n" ++
    "  valueFiles:\n  - prod.yaml\nkustomize: \x7b\x7d\n"

/-- Another parameter. -/
def otherBatch : List Parameter := [⟨"web.image.tag", "v2", true⟩]

theorem unwritten_keys_carried_commented : ∃ f s' doc doc',
    TextLayer.checked.parse commentedText = some f ∧
    TextLayer.checked.render (f.applyAll [otherBatch]) = some s' ∧
    TextLayer.checked.document commentedText = some doc ∧ TextLayer.checked.document s' = some doc' ∧
    (doc.get? doc.root "kustomize").isSome = true ∧ (sectionKey? doc "valueFiles").isSome = true ∧
    (parameterNodes doc).length = 1 ∧ Carried doc doc' otherBatch := by
  have hrun : ((TextLayer.checked.parse commentedText).bind fun f =>
      TextLayer.checked.render (f.applyAll [otherBatch])).isSome = true := by decide +kernel
  have hkeys : (TextLayer.checked.document commentedText).all (fun doc =>
      (doc.get? doc.root "kustomize").isSome && (sectionKey? doc "valueFiles").isSome &&
        (parameterNodes doc).length == 1) = true := by decide +kernel
  obtain ⟨s', hs'⟩ := Option.isSome_iff_exists.mp hrun
  obtain ⟨f, hparse, hrender⟩ := Option.bind_eq_some_iff.mp hs'
  obtain ⟨doc, doc', hdoc, hdoc', hcarried⟩ :=
    unwritten_keys_carried TextLayer.checked_roundTrips [otherBatch] hparse hrender
  rw [hdoc] at hkeys
  simp only [Option.all_some, Bool.and_eq_true, beq_iff_eq] at hkeys
  exact ⟨f, s', doc, doc', hparse, hrender, hdoc, hdoc', hkeys.1.1, hkeys.1.2, hkeys.2, hcarried⟩

/-- **A further key of a parameter is lost**, although nothing is written to the parameter. -/
theorem further_parameter_key_lost : ∃ f s' doc doc' n m,
    parse commentedText = some f ∧ render (f.applyAll [otherBatch]) = some s' ∧
    TextLayer.block.document commentedText = some doc ∧ TextLayer.block.document s' = some doc' ∧
    (parameterNodes doc)[0]? = some n ∧ parameterAt? doc n = some ⟨"replicas", "3", false⟩ ∧
    (∀ q ∈ otherBatch, q.name ≠ "replicas") ∧
    doc.get? n "comment" = some m ∧ doc.text? m = some "keep" ∧
    ∀ n' ∈ parameterNodes doc', doc'.get? n' "comment" = none := by
  have hrun : ((parse commentedText).bind fun f => (render (f.applyAll [otherBatch])).bind fun s' =>
      (TextLayer.block.document commentedText).bind fun doc =>
        (TextLayer.block.document s').bind fun doc' => (parameterNodes doc)[0]?.bind fun n =>
          (doc.get? n "comment").map fun m =>
            parameterAt? doc n == some ⟨"replicas", "3", false⟩ && doc.text? m == some "keep" &&
              (parameterNodes doc').all fun n' => (doc'.get? n' "comment").isNone) = some true := by
    decide +kernel
  obtain ⟨f, hparse, hrun⟩ := Option.bind_eq_some_iff.mp hrun
  obtain ⟨s', hrender, hrun⟩ := Option.bind_eq_some_iff.mp hrun
  obtain ⟨doc, hdoc, hrun⟩ := Option.bind_eq_some_iff.mp hrun
  obtain ⟨doc', hdoc', hrun⟩ := Option.bind_eq_some_iff.mp hrun
  obtain ⟨n, hn, hrun⟩ := Option.bind_eq_some_iff.mp hrun
  obtain ⟨m, hm, hrun⟩ := Option.map_eq_some_iff.mp hrun
  simp only [Bool.and_eq_true, beq_iff_eq, List.all_eq_true, Option.isNone_iff_eq_none] at hrun
  exact ⟨f, s', doc, doc', n, m, hparse, hrender, hdoc, hdoc', hn, hrun.1.1, by decide, hm,
    hrun.1.2, hrun.2⟩

end OverrideFile

end DeployWatch
