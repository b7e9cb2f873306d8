import DeployWatch.Json.Decode
import DeployWatch.Proofs.Json.ReadBack

/-!
# Records read back

A record is written member by member and decoded field by field; a column is both sides of one of them.

* `Reads`: a decoder takes a written value back;
* **`decodeText_render`**: so it does with the value's text;
* `reads_list`: lists of values that are read back one by one;
* `Column`, `Column.Faithful`: a member that is written and the field that takes it back;
* **`reads_object`**, `reads_without`: faithful columns are read back as a record, those left out keep
  their defaults.
-/

namespace DeployWatch.Json

variable {α σ : Type}

/-- The decoder takes the written value back to what it stands for. -/
structure Reads (item : Decoder α) (v : Json) (a : α) : Prop where
  fits : v.Fits
  decoded : item v.toDoc = .ok a

/-- **The text of a value decodes to what the value stands for.** -/
theorem decodeText_render {item : Decoder α} {v : Json} {a : α} (h : Reads item v a) :
    decodeText item v.render = .ok a := by
  rw [decodeText, render, String.toList_ofList, read_chars h.fits]
  dsimp only
  rw [h.decoded]
  rfl

/-! ## Single values -/

theorem reads_string (s : String) : Reads Decode.string (.string s) s := by
  refine ⟨trivial, ?_⟩
  rw [toDoc]
  rfl

theorem reads_bool (b : Bool) : Reads Decode.bool (.bool b) b := by
  refine ⟨trivial, ?_⟩
  rw [toDoc]
  rfl

theorem reads_int64 (n : Int64) : Reads Decode.int64 (.int n.toInt) n := by
  have hlow := n.le_toInt
  have hhigh := n.toInt_lt
  refine ⟨?_, ?_⟩
  · show n.toInt.natAbs < 18446744073709551616
    omega
  · rw [toDoc, Decode.int64, if_pos ⟨hlow, hhigh⟩, Int64.ofInt_toInt]

/-- A text that names a constant. -/
theorem reads_constant {ofName : String → Option α} {s : String} {a : α} (h : ofName s = some a) :
    Reads (Decode.constant ofName) (.string s) a := by
  refine ⟨trivial, ?_⟩
  rw [toDoc, Decode.constant, Decode.constant.named, h]

/-- A list is read back item by item. -/
theorem reads_list {item : Decoder α} {write : α → Json} {as : List α}
    (h : ∀ a ∈ as, Reads item (write a) a) :
    Reads (Decode.list item) (.array (as.map write)) as := by
  have hitems : FitsItems (as.map write) ∧ (itemDocs (as.map write)).mapM item = .ok as := by
    induction as with
    | nil => exact ⟨trivial, rfl⟩
    | cons a as ih =>
      have hhead := h a (List.mem_cons_self ..)
      obtain ⟨hfits, hmap⟩ := ih fun b hb => h b (List.mem_cons_of_mem _ hb)
      refine ⟨⟨hhead.fits, hfits⟩, ?_⟩
      rw [List.map_cons, itemDocs, List.mapM_cons, hhead.decoded, hmap]
      rfl
  refine ⟨hitems.1, ?_⟩
  rw [toDoc, Decode.list, hitems.2]
  rfl

/-! ## Columns -/

/-- One member of a record, as it is written and as it is taken back into another record. -/
structure Column (σ : Type) where
  field : Field σ
  write : σ → Json
  /-- The second record with this part of the first. -/
  put : σ → σ → σ

namespace Column

/-- A part of the record that is written and decoded as a value of its own. -/
def part (name : String) (required : Bool) (item : Decoder α) (put : α → σ → σ) (get : σ → α)
    (write : α → Json) : Column σ where
  field := Record.field name required item put
  write t := write (get t)
  put t s := put (get t) s

/-- The member of the record. -/
def member (c : Column σ) (t : σ) : String × Json := (c.field.name, c.write t)

/-- The field takes back what is written. -/
structure Faithful (c : Column σ) (t : σ) : Prop where
  fits : (c.write t).Fits
  set : ∀ s, c.field.set (c.write t).toDoc s = .ok (c.put t s)

theorem faithful_part {name : String} {required : Bool} {item : Decoder α} {put : α → σ → σ}
    {get : σ → α} {write : α → Json} {t : σ} (h : Reads item (write (get t)) (get t)) :
    (part name required item put get write).Faithful t where
  fits := h.fits
  set s := by
    rw [part, Record.field]
    dsimp only
    rw [h.decoded]
    rfl

end Column

variable {all kept : List (Column σ)} {t : σ}

theorem fitsMembers_columns (h : ∀ c ∈ kept, c.Faithful t) :
    FitsMembers (kept.map (·.member t)) := by
  induction kept with
  | nil => trivial
  | cons c kept ih =>
    exact ⟨(h c (List.mem_cons_self ..)).fits, ih fun d hd => h d (List.mem_cons_of_mem _ hd)⟩

/-- A column is found by its name. -/
theorem find_column (hnames : (all.map (·.field.name)).Nodup) {c : Column σ} (hc : c ∈ all) :
    (all.map (·.field)).find? (fun f => f.name = c.field.name) = some c.field := by
  induction all with
  | nil => cases hc
  | cons d all ih =>
    rw [List.map_cons, List.nodup_cons] at hnames
    obtain rfl | hmem := List.mem_cons.mp hc
    · exact List.find?_cons_of_pos (by simp)
    · have hne : d.field.name ≠ c.field.name := by
        intro heq
        exact hnames.1 (heq ▸ List.mem_map.mpr ⟨c, hmem, rfl⟩)
      rw [List.map_cons, List.find?_cons_of_neg (by simpa using hne)]
      exact ih hnames.2 hmem

/-- The members of columns are taken back one after the other. -/
theorem readMembers_columns (hnames : (all.map (·.field.name)).Nodup) (seen : List String) (s : σ)
    (hsub : kept.Sublist all) (hfaithful : ∀ c ∈ kept, c.Faithful t)
    (hseen : ∀ c ∈ kept, c.field.name ∉ seen) :
    Record.readMembers (all.map (·.field)) seen (memberDocs (kept.map (·.member t))) s =
      .ok ((kept.map (·.field.name)).reverse ++ seen, kept.foldl (fun s c => c.put t s) s) := by
  induction kept generalizing seen s with
  | nil => rfl
  | cons c kept ih =>
    have hkept : kept.Sublist all := (List.sublist_cons_self c kept).trans hsub
    have hc : c ∈ all := hsub.subset (List.mem_cons_self ..)
    have hdistinct : c.field.name ∉ kept.map (·.field.name) :=
      (List.nodup_cons.mp ((hsub.map (·.field.name)).nodup hnames)).1
    -- The names of the columns that follow are new after this one, too.
    have hlater : ∀ d ∈ kept, d.field.name ∉ c.field.name :: seen := by
      intro d hd hmem
      obtain heq | hmem := List.mem_cons.mp hmem
      · exact hdistinct (heq ▸ List.mem_map.mpr ⟨d, hd, rfl⟩)
      · exact hseen d (List.mem_cons_of_mem _ hd) hmem
    rw [List.map_cons, Column.member, memberDocs, Record.readMembers, find_column hnames hc]
    dsimp only
    rw [if_neg (hseen c (List.mem_cons_self ..)), (hfaithful c (List.mem_cons_self ..)).set]
    dsimp only [bind, Except.bind]
    rw [ih _ _ hkept (fun d hd => hfaithful d (List.mem_cons_of_mem _ hd)) hlater]
    simp

/-- **Faithful columns are read back as a record.** Of those that are not required some may be left
out; the record keeps its defaults there. -/
theorem reads_object (hnames : (all.map (·.field.name)).Nodup) (hsub : kept.Sublist all)
    (hfaithful : ∀ c ∈ kept, c.Faithful t)
    (hrequired : ∀ c ∈ all, c.field.required = true → c ∈ kept) (start : σ) :
    Reads (Record.read (all.map (·.field)) start) (.object (kept.map (·.member t)))
      (kept.foldl (fun s c => c.put t s) start) := by
  have hmembers := readMembers_columns hnames [] start hsub hfaithful fun _ _ => List.not_mem_nil
  have hall : (all.map (·.field)).all (fun f => !f.required ||
      ((kept.map fun c : Column σ => c.field.name).reverse ++ []).contains f.name) = true := by
    rw [List.all_eq_true]
    intro f hf
    obtain ⟨c, hc, rfl⟩ := List.mem_map.mp hf
    cases hr : c.field.required with
    | false => rfl
    | true => simpa using ⟨c, hrequired c hc hr, rfl⟩
  refine ⟨fitsMembers_columns hfaithful, ?_⟩
  rw [toDoc, Record.read, hmembers]
  dsimp only [bind, Except.bind, failOn]
  rw [if_pos hall]
  rfl

/-- The object without the members of some names. -/
def without (omitted : List String) : Json → Json
  | object members => object (members.filter fun m => m.1 ∉ omitted)
  | v => v

theorem without_nil (v : Json) : v.without [] = v := by
  cases v with
  | object members => simp [without]
  | _ => rfl

/-- **A record is read back without some of the members that are not required.** -/
theorem reads_without {optional omitted : List String} (hnames : (all.map (·.field.name)).Nodup)
    (hfaithful : ∀ c ∈ all, c.Faithful t)
    (hrequired : ∀ c ∈ all, c.field.required = true → c.field.name ∉ optional)
    (homitted : omitted ⊆ optional) (start : σ) :
    Reads (Record.read (all.map (·.field)) start) ((object (all.map (·.member t))).without omitted)
      ((all.filter fun c => c.field.name ∉ omitted).foldl (fun s c => c.put t s) start) := by
  have hwithout : (object (all.map (·.member t))).without omitted =
      object ((all.filter fun c => c.field.name ∉ omitted).map (·.member t)) := by
    rw [without, List.filter_map]
    rfl
  have hkept : ∀ c ∈ all, c.field.required = true →
      c ∈ all.filter fun c => c.field.name ∉ omitted := by
    intro c hc hr
    exact List.mem_filter.mpr ⟨hc, decide_eq_true fun hmem => hrequired c hc hr (homitted hmem)⟩
  rw [hwithout]
  exact reads_object hnames List.filter_sublist (fun c hc => hfaithful c (List.mem_filter.mp hc).1)
    hkept start

end DeployWatch.Json
