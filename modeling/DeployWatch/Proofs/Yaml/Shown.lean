import DeployWatch.Proofs.Yaml.Walk

/-!
# Nodes that show a value

A node shows a value if it spells the value out: without tags and aliases, its scalars standing for the
value's, its items and entries in the value's order.

* `Node.shows`: the relation, as a test;
* `readText_of_shows`, `readFlag_of_shows`: texts and truth values that are shown;
* **`read_of_shows`**: a readable value is read from every node that shows it.
-/

namespace DeployWatch.Yaml

/-- The scalar of a value that is no collection. -/
def Value.scalar? : Value → Option Scalar
  | .null => some .null
  | .bool b => some (.bool b)
  | .int n => some (.int n)
  | .float f => some (.float f)
  | .text s => some (.text s)
  | .sequence _ => none
  | .mapping _ => none

namespace Node

mutual

/-- Whether a node shows a value. -/
def shows : Node → Value → Bool
  | .scalar tag style s, v => tag.isNone && Scalar.ofTagged? none style s == v.scalar?
  | .sequence tag items, .sequence vs => tag.isNone && showsItems items vs
  | .mapping tag entries, .mapping es => tag.isNone && showsEntries entries es
  | _, _ => false

def showsItems : List Node → List Value → Bool
  | [], [] => true
  | n :: ns, v :: vs => shows n v && showsItems ns vs
  | _, _ => false

def showsEntries : List (Node × Node) → List (Value × Value) → Bool
  | [], [] => true
  | (k, n) :: ns, (l, v) :: vs => shows k l && shows n v && showsEntries ns vs
  | _, _ => false

end

variable {n : Node}

/-! ## What shows a value of a kind -/

theorem eq_of_shows_sequence {vs : List Value} (h : n.shows (.sequence vs) = true) :
    ∃ items, n = .sequence none items ∧ showsItems items vs = true := by
  cases n with
  | scalar tag style s => simp [shows, Value.scalar?, Scalar.ofTagged?] at h
  | sequence tag items =>
    rw [shows, Bool.and_eq_true, Option.isNone_iff_eq_none] at h
    exact ⟨items, by rw [h.1], h.2⟩
  | _ => simp [shows] at h

theorem eq_of_shows_mapping {es : List (Value × Value)} (h : n.shows (.mapping es) = true) :
    ∃ entries, n = .mapping none entries ∧ showsEntries entries es = true := by
  cases n with
  | scalar tag style s => simp [shows, Value.scalar?, Scalar.ofTagged?] at h
  | mapping tag entries =>
    rw [shows, Bool.and_eq_true, Option.isNone_iff_eq_none] at h
    exact ⟨entries, by rw [h.1], h.2⟩
  | _ => simp [shows] at h

theorem eq_of_shows_scalar {v : Value} {sc : Scalar} (hv : v.scalar? = some sc)
    (h : n.shows v = true) :
    ∃ style s, n = .scalar none style s ∧ Scalar.ofTagged? none style s = some sc := by
  cases n with
  | scalar tag style s =>
    rw [shows, Bool.and_eq_true, Option.isNone_iff_eq_none, hv, beq_iff_eq] at h
    exact ⟨style, s, by rw [h.1], h.2⟩
  | _ =>
    cases v with
    | sequence vs | mapping es => cases hv
    | _ => simp [shows] at h

theorem showsItems_cons {v : Value} {vs : List Value} {items : List Node}
    (h : showsItems items (v :: vs) = true) :
    ∃ n ns, items = n :: ns ∧ n.shows v = true ∧ showsItems ns vs = true := by
  cases items with
  | nil => simp [showsItems] at h
  | cons n ns =>
    rw [showsItems, Bool.and_eq_true] at h
    exact ⟨n, ns, rfl, h⟩

theorem showsEntries_cons {l v : Value} {es : List (Value × Value)} {entries : List (Node × Node)}
    (h : showsEntries entries ((l, v) :: es) = true) :
    ∃ k n ns, entries = (k, n) :: ns ∧ k.shows l = true ∧ n.shows v = true ∧
      showsEntries ns es = true := by
  cases entries with
  | nil => simp [showsEntries] at h
  | cons e ns =>
    obtain ⟨k, n⟩ := e
    rw [showsEntries, Bool.and_eq_true, Bool.and_eq_true] at h
    exact ⟨k, n, ns, rfl, h.1.1, h.1.2, h.2⟩

theorem eq_nil_of_showsItems {items : List Node} (h : showsItems items [] = true) : items = [] := by
  cases items with
  | nil => rfl
  | cons n ns => simp [showsItems] at h

theorem eq_nil_of_showsEntries {entries : List (Node × Node)} (h : showsEntries entries [] = true) :
    entries = [] := by
  cases entries with
  | nil => rfl
  | cons e ns => obtain ⟨k, n⟩ := e; simp [showsEntries] at h

end Node

/-! ## Reading what is shown -/

variable {n : Node}

theorem Scalar.eq_of_ofPlain_text {s t : String} (h : ofPlain s = text t) : s = t := by
  unfold ofPlain at h
  split at h
  · cases h
  · split at h
    · cases h
    · split at h
      · cases h
      · split at h
        · exact text.inj h
        · split at h
          · cases h
          · exact text.inj h

theorem Scalar.boolOfText_of_ofPlain {s : String} {b : Bool} (h : ofPlain s = bool b) :
    boolOfText s = some b := by
  unfold ofPlain at h
  split at h
  · cases h
  · split at h
    · rename_i hb
      rw [hb, bool.inj h]
    · split at h
      · cases h
      · split at h
        · cases h
        · split at h <;> cases h

/-- A text is read from the scalar that shows it. -/
theorem readText_of_shows {s : String} (h : n.shows (.text s) = true) : readText n = pure s := by
  obtain ⟨style, t, rfl, ht⟩ := Node.eq_of_shows_scalar (show _ = some (Scalar.text s) from rfl) h
  have hts : t = s := by
    unfold Scalar.ofTagged? at ht
    by_cases hp : style = .plain
    · rw [if_pos hp] at ht
      exact Scalar.eq_of_ofPlain_text (Option.some.inj ht)
    · rw [if_neg hp] at ht
      exact Scalar.text.inj (Option.some.inj ht)
  rw [← hts]
  rfl

/-- A truth value is read from the scalar that shows it. -/
theorem readFlag_of_shows {b : Bool} (h : n.shows (.bool b) = true) : readFlag n = pure b := by
  obtain ⟨style, s, rfl, hs⟩ := Node.eq_of_shows_scalar (show _ = some (Scalar.bool b) from rfl) h
  unfold Scalar.ofTagged? at hs
  by_cases hp : style = .plain
  · rw [if_pos hp] at hs
    have hb := Scalar.boolOfText_of_ofPlain (Option.some.inj hs)
    simp only [readFlag, follow, pure_bind, hp, true_or, if_true, hb]
  · rw [if_neg hp] at hs
    cases hs

namespace Value

theorem scalar?_of_ofScalar? {sc : Scalar} {v : Value} (h : ofScalar? sc = some v) :
    v.scalar? = some sc := by
  cases sc with
  | int n =>
    simp only [ofScalar?] at h
    split at h
    · cases h; rfl
    · cases h
  | _ => cases h; rfl

theorem OfScalar.read_of_shows {v : Value} (hv : v.OfScalar) (h : n.shows v = true)
    (part : Option (Node → Walk Value)) : readWith part n = pure v := by
  obtain ⟨tag, style', s', hs'⟩ := hv
  obtain ⟨sc, -, hsc⟩ := Option.bind_eq_some_iff.mp hs'
  obtain ⟨style, s, rfl, hs⟩ := Node.eq_of_shows_scalar (scalar?_of_ofScalar? hsc) h
  simp only [readWith, follow, pure_bind, hs, Option.bind_some, hsc]

theorem mapM_read_of_shows {f : Node → Walk Value} {vs : List Value} {items : List Node}
    (hf : ∀ v ∈ vs, ∀ m : Node, m.shows v = true → f m = pure v)
    (h : Node.showsItems items vs = true) : items.mapM f = pure vs := by
  induction vs generalizing items with
  | nil =>
    rw [Node.eq_nil_of_showsItems h]
    rfl
  | cons v vs ih =>
    obtain ⟨m, ms, rfl, hm, hms⟩ := Node.showsItems_cons h
    rw [List.mapM_cons, hf v List.mem_cons_self m hm, pure_bind,
      ih (fun v hv => hf v (List.mem_cons_of_mem _ hv)) hms, pure_bind]

theorem mapM_entries_of_shows {f : Node → Walk Value} {es : List (Value × Value)}
    {entries : List (Node × Node)}
    (hf : ∀ e ∈ es, ∀ m : Node, (m.shows e.1 = true → f m = pure e.1) ∧
      (m.shows e.2 = true → f m = pure e.2))
    (h : Node.showsEntries entries es = true) :
    entries.mapM (fun (k, v) => do return (← f k, ← f v)) = pure es := by
  induction es generalizing entries with
  | nil =>
    rw [Node.eq_nil_of_showsEntries h]
    rfl
  | cons e es ih =>
    obtain ⟨l, v⟩ := e
    obtain ⟨k, m, ms, rfl, hk, hm, hms⟩ := Node.showsEntries_cons h
    have hhead := hf (l, v) List.mem_cons_self
    rw [List.mapM_cons]
    simp only [(hhead k).1 hk, (hhead m).2 hm, pure_bind,
      ih (fun e he => hf e (List.mem_cons_of_mem _ he)) hms]

/-- **A readable value is read from every node that shows it**, without following an alias. -/
theorem read_of_shows {d : Nat} {v : Value} (hv : v.Readable d) (h : n.shows v = true) :
    read d n = pure v := by
  induction d generalizing n v with
  | zero => cases v <;> exact OfScalar.read_of_shows hv h _
  | succ d ih =>
    cases v with
    | sequence vs =>
      obtain ⟨items, rfl, hitems⟩ := Node.eq_of_shows_sequence h
      have hread := mapM_read_of_shows (fun v hm m => ih (hv v hm)) hitems
      simp only [read, readWith, follow, pure_bind, Option.any_none, Bool.false_eq_true, if_false,
        hread]
    | mapping es =>
      obtain ⟨entries, rfl, hentries⟩ := Node.eq_of_shows_mapping h
      have hread := mapM_entries_of_shows
        (fun e hm m => ⟨ih (hv.2 e hm).1, ih (hv.2 e hm).2⟩) hentries
      simp only [read, readWith, follow, pure_bind, Option.any_none, Bool.false_eq_true, if_false,
        hread, hv.1, if_true]
    | _ => exact OfScalar.read_of_shows hv h _

end Value

end DeployWatch.Yaml
