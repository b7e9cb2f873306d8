/-!
# Maps in key order

A map from texts whose entries stand in increasing order of their keys, code point by code point. Two
maps with the same entries are equal.

* `SortedMap`, `SortedMap.insert`, `SortedMap.find?`, `SortedMap.ofList`;
* `find?_insert`: what is found after an entry was put in;
* `find?_eq_some_iff`, `find?_ofList`: what is found is an entry, and in the map of a list the last one of
  its key.
-/

namespace DeployWatch

/-- Entries with strictly increasing keys. -/
structure SortedMap (β : Type) where
  entries : List (String × β)
  increasing : entries.Pairwise fun a b => a.1 < b.1

namespace SortedMap

variable {β : Type}

@[ext] theorem ext {a b : SortedMap β} (h : a.entries = b.entries) : a = b := by
  cases a; cases b; cases h; rfl

instance [DecidableEq β] : DecidableEq (SortedMap β) := fun a b =>
  if h : a.entries = b.entries then isTrue (ext h) else isFalse fun e => h (e ▸ rfl)

def empty : SortedMap β := ⟨[], List.Pairwise.nil⟩

instance : Inhabited (SortedMap β) := ⟨empty⟩

/-- Puts an entry in its place, replacing the one with the same key. -/
def insertEntry (k : String) (v : β) : List (String × β) → List (String × β)
  | [] => [(k, v)]
  | e :: rest =>
    if k < e.1 then (k, v) :: e :: rest
    else if k = e.1 then (k, v) :: rest
    else e :: insertEntry k v rest

theorem mem_insertEntry {k : String} {v : β} {es : List (String × β)} {e : String × β}
    (h : e ∈ insertEntry k v es) : e = (k, v) ∨ e ∈ es := by
  induction es with
  | nil => simpa [insertEntry] using h
  | cons a r ih =>
    simp only [insertEntry] at h
    split at h
    · simpa using h
    · split at h
      · rcases List.mem_cons.1 h with h | h
        · exact .inl h
        · exact .inr (List.mem_cons_of_mem _ h)
      · rcases List.mem_cons.1 h with h | h
        · exact .inr (h ▸ List.mem_cons_self)
        · rcases ih h with h | h
          · exact .inl h
          · exact .inr (List.mem_cons_of_mem _ h)

theorem insertEntry_increasing {k : String} {v : β} {es : List (String × β)}
    (h : es.Pairwise fun a b => a.1 < b.1) :
    (insertEntry k v es).Pairwise fun a b => a.1 < b.1 := by
  induction es with
  | nil => simp [insertEntry]
  | cons a r ih =>
    obtain ⟨ha, hr⟩ := List.pairwise_cons.1 h
    simp only [insertEntry]
    split
    · rename_i hk
      refine List.pairwise_cons.2 ⟨fun e he => ?_, h⟩
      rcases List.mem_cons.1 he with rfl | he
      · exact hk
      · exact String.lt_trans hk (ha e he)
    · split
      · rename_i hk
        subst hk
        exact List.pairwise_cons.2 ⟨fun e he => ha e he, hr⟩
      · rename_i h1 h2
        refine List.pairwise_cons.2 ⟨fun e he => ?_, ih hr⟩
        rcases mem_insertEntry he with rfl | he
        · rcases Decidable.em (a.1 < k) with h3 | h3
          · exact h3
          · exact absurd (String.le_antisymm (String.not_lt.1 h3) (String.not_lt.1 h1)) h2
        · exact ha e he

/-- The map with one entry put in, replacing an earlier one of that key. -/
def insert (m : SortedMap β) (k : String) (v : β) : SortedMap β :=
  ⟨insertEntry k v m.entries, insertEntry_increasing m.increasing⟩

def find? (m : SortedMap β) (k : String) : Option β :=
  (m.entries.find? fun e => e.1 = k).map (·.2)

theorem find?_insertEntry (k : String) (v : β) (es : List (String × β)) (j : String) :
    ((insertEntry k v es).find? fun e => e.1 = j).map (·.2) =
      if k = j then some v else (es.find? fun e => e.1 = j).map (·.2) := by
  induction es with
  | nil => by_cases h : k = j <;> simp [insertEntry, h]
  | cons a r ih =>
    simp only [insertEntry]
    split
    · by_cases h : k = j <;> simp [h]
    · split
      · rename_i hk
        by_cases h : k = j
        · simp [h]
        · simp [h, ← hk]
      · rename_i hk
        by_cases ha : a.1 = j
        · have hj : k ≠ j := fun h => hk (h.trans ha.symm)
          simp [ha, hj]
        · simpa [ha] using ih

/-- The entry that was put in is found, and all others as before. -/
theorem find?_insert (m : SortedMap β) (k : String) (v : β) (j : String) :
    (m.insert k v).find? j = if k = j then some v else m.find? j :=
  find?_insertEntry k v m.entries j

/-- In a list without two entries of one key, what is found under a key is its entry. -/
theorem find?_map_eq_some_iff {es : List (String × β)} (hes : es.Pairwise fun a b => a.1 ≠ b.1)
    {k : String} {v : β} : (es.find? fun e => e.1 = k).map (·.2) = some v ↔ (k, v) ∈ es := by
  induction es with
  | nil => simp
  | cons e es ih =>
    obtain ⟨hfirst, hrest⟩ := List.pairwise_cons.1 hes
    by_cases h : e.1 = k
    · have hother : (k, v) ∉ es := fun hmem => hfirst _ hmem h
      rw [List.find?_cons_of_pos (by simpa using h), List.mem_cons, or_iff_left hother]
      constructor
      · rintro ⟨⟩
        exact congrArg (·, e.2) h.symm
      · rintro rfl
        rfl
    · have hother : (k, v) ≠ e := by
        rintro rfl
        exact h rfl
      rw [List.find?_cons_of_neg (by simpa using h), ih hrest, List.mem_cons, or_iff_right hother]

theorem distinct (m : SortedMap β) : m.entries.Pairwise fun a b => a.1 ≠ b.1 :=
  m.increasing.imp String.ne_of_lt

/-- What is found under a key is its entry. -/
theorem find?_eq_some_iff {m : SortedMap β} {k : String} {v : β} :
    m.find? k = some v ↔ (k, v) ∈ m.entries :=
  find?_map_eq_some_iff m.distinct

/-- A key above all others is put behind them. -/
theorem insertEntry_append {k : String} {v : β} {es : List (String × β)} (h : ∀ e ∈ es, e.1 < k) :
    insertEntry k v es = es ++ [(k, v)] := by
  induction es with
  | nil => rfl
  | cons e es ih =>
    have he := h e List.mem_cons_self
    rw [insertEntry, if_neg (String.lt_asymm he), if_neg (String.ne_of_lt he).symm,
      ih fun x hx => h x (List.mem_cons_of_mem _ hx)]
    rfl

/-- The map of a list of entries, a later entry winning over an earlier one of the same key. -/
def ofList (es : List (String × β)) : SortedMap β :=
  es.foldl (fun m e => m.insert e.1 e.2) empty

/-- Under a key stands what its last entry in the list says. -/
theorem find?_ofList (es : List (String × β)) (k : String) :
    (ofList es).find? k = (es.reverse.find? fun e => e.1 = k).map (·.2) := by
  have hfold : ∀ m : SortedMap β, (es.foldl (fun m e => m.insert e.1 e.2) m).find? k =
      ((es.reverse.find? fun e => e.1 = k).map (·.2)).or (m.find? k) := by
    induction es with
    | nil => exact fun m => rfl
    | cons e es ih =>
      intro m
      rw [List.foldl_cons, ih, find?_insert, List.reverse_cons, List.find?_append, Option.map_or,
        Option.or_assoc]
      by_cases h : e.1 = k <;> simp [h]
  rw [ofList, hfold]
  exact Option.or_none

def size (m : SortedMap β) : Nat := m.entries.length

end SortedMap

end DeployWatch
