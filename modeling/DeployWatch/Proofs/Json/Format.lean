import DeployWatch.Proofs.Json.Further
import DeployWatch.Proofs.Json.Records

/-!
# Formats

A format has both sides of a value, the writing and the decoding, and the proofs that they fit.

* `Format`: what is written is read back, and further members make no difference;
* `Format.text`, `Format.textMap`, `Format.optional`, `Format.list`: formats of values;
* `Part`, **`Format.record`**, `Format.single`: formats of records, every member of which may be left out.
-/

namespace DeployWatch.Json

variable {α σ : Type}

/-- How the values of a type are written and taken back. -/
structure Format (α : Type) where
  decode : Decoder α
  write : α → Json
  outline : Outline
  reads : ∀ a, Reads decode (write a) a
  blind : Blind decode outline

/-- A member of a record that loses nothing, whatever the record. -/
structure Part (σ : Type) extends Column σ where
  outline : Outline
  faithful : ∀ t, toColumn.Faithful t
  blind : field.Blind outline

/-- The member of a name, which may be left out. -/
def Part.of (name : String) (put : α → σ → σ) (get : σ → α) (f : Format α) : Part σ where
  toColumn := .part name false f.decode put get f.write
  outline := f.outline
  faithful t := Column.faithful_part (f.reads (get t))
  blind d d' s h := congrArg (fun r => (put · s) <$> r) (f.blind d d' h)

namespace Format

def text : Format String where
  decode := Decode.string
  write := .string
  outline := .value
  reads := reads_string
  blind := blind_value _

theorem toDoc_ne_null {v : Json} (h : v ≠ .null) : v.toDoc ≠ .null := by
  cases v with
  | null => exact absurd rfl h
  | _ => rw [toDoc]; nofun

/-- A value that may be missing; null stands for a missing one and for no other. -/
def optional (f : Format α) (hnull : ∀ a, f.write a ≠ .null) : Format (Option α) where
  decode := Decode.option f.decode
  write := .ofOption f.write
  outline := f.outline
  reads o := by
    cases o with
    | none =>
      refine ⟨trivial, ?_⟩
      rw [ofOption, toDoc, Decode.option]
    | some a =>
      refine ⟨(f.reads a).fits, ?_⟩
      rw [ofOption, Decode.option, (f.reads a).decoded]
      · rfl
      · exact toDoc_ne_null (hnull a)
  blind := blind_option f.blind

def list (f : Format α) : Format (List α) where
  decode := Decode.list f.decode
  write as := .array (as.map f.write)
  outline := .list f.outline
  reads _ := reads_list fun a _ => f.reads a
  blind := blind_list f.blind

/-- The entries of a map are read in the order of their keys, each behind those that were read before. -/
theorem mapMembers_entries {m before : SortedMap String} {es : List (String × String)}
    (hm : m.entries = before.entries ++ es) :
    Decode.mapMembers Decode.string before (memberDocs (es.map fun e => (e.1, .string e.2))) =
      .ok m := by
  induction es generalizing before with
  | nil =>
    rw [List.append_nil] at hm
    exact congrArg Except.ok (SortedMap.ext hm.symm)
  | cons e es ih =>
    have hincreasing := m.increasing
    rw [hm, List.pairwise_append] at hincreasing
    have hinsert : (before.insert e.1 e.2).entries = before.entries ++ [e] :=
      SortedMap.insertEntry_append fun x hx => hincreasing.2.2 x hx e List.mem_cons_self
    rw [List.map_cons, memberDocs, Decode.mapMembers, (reads_string e.2).decoded]
    exact ih (by rw [hm, hinsert, List.append_cons])

/-- A map of texts, in which every name counts. -/
def textMap : Format (SortedMap String) where
  decode := Decode.map Decode.string
  write m := .object (m.entries.map fun e => (e.1, .string e.2))
  outline := .value
  reads m := by
    have hfits : ∀ es : List (String × String), FitsMembers (es.map fun e => (e.1, .string e.2)) := by
      intro es
      induction es with
      | nil => trivial
      | cons e es ih => exact ⟨trivial, ih⟩
    refine ⟨hfits m.entries, ?_⟩
    rw [toDoc, Decode.map, mapMembers_entries (m := m) (List.nil_append _).symm]
    rfl
  blind := blind_value _

/-- A record that is put together again from all of its parts. -/
def record (parts : List (Part σ)) (start : σ) (hnames : (parts.map (·.field.name)).Nodup)
    (hput : ∀ t, parts.foldl (fun s p => p.put t s) start = t) : Format σ where
  decode := Record.read (parts.map (·.field)) start
  write t := .object (parts.map (·.member t))
  outline := .record (parts.map fun p => (p.field.name, p.outline))
  reads t := by
    have hcolumns : ((parts.map (·.toColumn)).map (·.field.name)).Nodup := by
      rw [List.map_map]
      exact hnames
    have hfaithful : ∀ c ∈ parts.map (·.toColumn), c.Faithful t :=
      List.forall_mem_map.mpr fun p _ => p.faithful t
    have hreads := reads_object hcolumns (List.Sublist.refl _) hfaithful (fun _ hc _ => hc) start
    rw [List.map_map, List.map_map, List.foldl_map, hput] at hreads
    exact hreads
  blind := by
    refine blind_record ?_ start
    rw [Outlined, List.forall₂_map_left_iff, List.forall₂_map_right_iff, List.forall₂_same]
    exact fun p _ => ⟨rfl, p.blind⟩

/-- A record of which one member counts. -/
def single (name : String) (f : Format α) (start : α) : Format α :=
  record [.of name (fun a _ => a) id f] start (List.pairwise_singleton _ _) fun _ => rfl

end Format

end DeployWatch.Json
