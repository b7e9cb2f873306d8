import DeployWatch.Proofs.Json.Scalars

/-!
# Written values read back

* `toDoc`: the tree of a written value;
* `Fits`: every number of a value has at most 64 bits;
* **`readWithin_chars`**: as many steps as the text has characters are enough to read a value back, and
  nothing after it is touched;
* **`read_chars`**: reading the text of a value.
-/

namespace DeployWatch.Json

open DeployWatch.Number

mutual

/-- The tree of a written value. -/
def toDoc : Json → Doc
  | null => .null
  | bool b => .bool b
  | int n => .number (.ok (.whole n))
  | string s => .string (.ok s)
  | array items => .array (itemDocs items) none
  | object members => .object (memberDocs members) none

/-- The trees of the items of an array. -/
def itemDocs : List Json → List Doc
  | [] => []
  | v :: rest => toDoc v :: itemDocs rest

/-- The trees of the members of an object. -/
def memberDocs : List (String × Json) → List (Except Fault String × Doc)
  | [] => []
  | (k, v) :: rest => (.ok k, toDoc v) :: memberDocs rest

end

mutual

/-- Every number of the value has at most 64 bits. -/
def Fits : Json → Prop
  | int n => n.natAbs < Nat.pow 2 64
  | array items => FitsItems items
  | object members => FitsMembers members
  | _ => True

/-- The items of an array fit. -/
def FitsItems : List Json → Prop
  | [] => True
  | v :: rest => Fits v ∧ FitsItems rest

/-- The members of an object fit. -/
def FitsMembers : List (String × Json) → Prop
  | [] => True
  | (_, v) :: rest => Fits v ∧ FitsMembers rest

end

theorem skipFault_toDoc (v : Json) : v.toDoc.skipFault = none := by
  cases v <;> simp only [toDoc, Doc.skipFault]

/-! ## Where texts start -/

theorem skipSpace_cons {c : Char} {cs : List Char} (hc : isSpace c = false) :
    skipSpace (c :: cs) = c :: cs :=
  List.dropWhile_cons_of_neg (by simp [hc])

theorem isSpace_of_isDigit {c : Char} (hc : isDigit c = true) : isSpace c = false := by
  have hne : c ≠ ' ' ∧ c ≠ '\n' ∧ c ≠ '\t' ∧ c ≠ '\r' :=
    ⟨ne_of_isDigit hc rfl, ne_of_isDigit hc rfl, ne_of_isDigit hc rfl, ne_of_isDigit hc rfl⟩
  simp [isSpace, hne]

/-- The first character of a number. -/
theorem renderInt_cons (n : Int) :
    ∃ c cs, renderInt n = c :: cs ∧ (c = '-' ∨ isDigit c = true) := by
  rw [renderInt]
  split
  · exact ⟨_, _, rfl, .inl rfl⟩
  · obtain ⟨c, cs, h⟩ := List.exists_cons_of_ne_nil (decimal_ne_nil (n := n.natAbs))
    refine ⟨c, cs, h, .inr (isDigit_of_mem_decimal (n := n.natAbs) ?_)⟩
    rw [h]
    exact List.mem_cons_self ..

/-- A value starts neither with a blank nor like the end of an array. -/
theorem chars_cons (v : Json) : ∃ c cs, v.chars = c :: cs ∧ isSpace c = false ∧ c ≠ ']' := by
  cases v with
  | null => exact ⟨_, _, rfl, rfl, by decide⟩
  | bool b => cases b <;> exact ⟨_, _, rfl, rfl, by decide⟩
  | int n =>
    obtain ⟨c, cs, h, rfl | hc⟩ := renderInt_cons n
    · exact ⟨_, _, h, rfl, by decide⟩
    · exact ⟨_, _, h, isSpace_of_isDigit hc, ne_of_isDigit hc rfl⟩
  | string s => exact ⟨_, _, rfl, rfl, by decide⟩
  | array items => exact ⟨_, _, rfl, rfl, by decide⟩
  | object members => exact ⟨_, _, rfl, rfl, by decide⟩

/-! ## One step of reading -/

variable {fuel : Nat} {rest after : List Char}

theorem readWithin_minus (cs : List Char) :
    Doc.readWithin (fuel + 1) ('-' :: cs) = readNumber true cs := by
  rw [Doc.readWithin, skipSpace_cons rfl]
  rfl

theorem readWithin_digit {c : Char} {cs : List Char} (hc : isDigit c = true) :
    Doc.readWithin (fuel + 1) (c :: cs) = readNumber false (c :: cs) := by
  rw [Doc.readWithin, skipSpace_cons (isSpace_of_isDigit hc)]
  split
  case h_9 =>
    obtain ⟨rfl, rfl⟩ := List.cons.inj ‹_›
    rw [if_pos hc]
  case h_1 => contradiction
  all_goals exact absurd (List.cons.inj ‹_›).1 (ne_of_isDigit hc rfl)

theorem readWithin_renderInt {n : Int} (hn : n.natAbs < Nat.pow 2 64) (hrest : EndsNumber rest) :
    Doc.readWithin (fuel + 1) (renderInt n ++ rest) = (.number (.ok (.whole n)), rest) := by
  rw [renderInt]
  split
  · have hread := readNumber_decimal true hn (fun _ => by omega) hrest
    rw [List.cons_append, readWithin_minus, ← decimal, hread, if_pos rfl,
      show -((n.natAbs : Nat) : Int) = n by omega]
  · have hread := readNumber_decimal false hn (fun h => by cases h) hrest
    obtain ⟨c, cs, h⟩ := List.exists_cons_of_ne_nil (decimal_ne_nil (n := n.natAbs))
    have hc : isDigit c = true := isDigit_of_mem_decimal (n := n.natAbs) (h ▸ List.mem_cons_self ..)
    rw [← decimal, h, List.cons_append, readWithin_digit hc, ← List.cons_append, ← h, hread,
      if_neg Bool.false_ne_true, show ((n.natAbs : Nat) : Int) = n by omega]

theorem readWithin_quote (s : String) :
    Doc.readWithin (fuel + 1) (quote s ++ rest) = (.string (.ok s), rest) := by
  have hopen : skipSpace ('"' :: (s.toList.flatMap escapeChar ++ '"' :: rest)) =
      '"' :: (s.toList.flatMap escapeChar ++ '"' :: rest) := skipSpace_cons rfl
  rw [quote, List.append_assoc, List.cons_append, List.singleton_append]
  simp only [Doc.readWithin, hopen, skipQuoted_escaped, quotedText_escaped]

theorem readWithin_array {c : Char} {cs : List Char} (hspace : isSpace c = false) (hc : c ≠ ']') :
    Doc.readWithin (fuel + 1) ('[' :: c :: cs) =
      (.array (itemsWithin fuel (c :: cs)).1 (itemsWithin fuel (c :: cs)).2.1,
        (itemsWithin fuel (c :: cs)).2.2) := by
  have hopen : skipSpace ('[' :: c :: cs) = '[' :: c :: cs := skipSpace_cons rfl
  simp only [Doc.readWithin, hopen, skipSpace_cons hspace]
  split
  · contradiction
  · exact absurd (List.cons.inj ‹_›).1 hc
  · rfl

theorem readWithin_object {name : List Char} :
    Doc.readWithin (fuel + 1) ('\x7b' :: '"' :: name) =
      (.object (membersWithin fuel name).1 (membersWithin fuel name).2.1,
        (membersWithin fuel name).2.2) := by
  rw [Doc.readWithin, skipSpace_cons rfl]
  rfl

theorem itemsWithin_last {cs : List Char} {item : Doc}
    (hread : Doc.readWithin fuel cs = (item, ']' :: after)) (hitem : item.skipFault = none) :
    itemsWithin (fuel + 1) cs = ([item], none, after) := by
  have hclose : skipSpace (']' :: after) = ']' :: after := skipSpace_cons rfl
  simp only [itemsWithin, hread, hitem, hclose]

theorem itemsWithin_more {cs next : List Char} {item : Doc} {c : Char}
    (hread : Doc.readWithin fuel cs = (item, ',' :: c :: next)) (hitem : item.skipFault = none)
    (hspace : isSpace c = false) (hc : c ≠ ']') :
    itemsWithin (fuel + 1) cs = (item :: (itemsWithin fuel (c :: next)).1,
      (itemsWithin fuel (c :: next)).2.1, (itemsWithin fuel (c :: next)).2.2) := by
  have hcomma : skipSpace (',' :: c :: next) = ',' :: c :: next := skipSpace_cons rfl
  simp only [itemsWithin, hread, hitem, hcomma, skipSpace_cons hspace]
  split
  · exact absurd (List.cons.inj ‹_›).1 hc
  · rfl

/-- The text of a member from behind the opening quote of its name. -/
def memberTail (k : String) (value : List Char) : List Char :=
  k.toList.flatMap escapeChar ++ '"' :: ':' :: value

theorem membersWithin_last {k : String} {value : List Char} {d : Doc}
    (hread : Doc.readWithin fuel value = (d, '\x7d' :: after)) (hd : d.skipFault = none) :
    membersWithin (fuel + 1) (memberTail k value) = ([(.ok k, d)], none, after) := by
  have hcolon : skipSpace (':' :: value) = ':' :: value := skipSpace_cons rfl
  have hclose : skipSpace ('\x7d' :: after) = '\x7d' :: after := skipSpace_cons rfl
  simp only [memberTail, membersWithin, skipQuoted_escaped, quotedText_escaped, hcolon, hread, hd, hclose]

theorem membersWithin_more {k : String} {value next : List Char} {d : Doc}
    (hread : Doc.readWithin fuel value = (d, ',' :: '"' :: next)) (hd : d.skipFault = none) :
    membersWithin (fuel + 1) (memberTail k value) = ((.ok k, d) :: (membersWithin fuel next).1,
      (membersWithin fuel next).2.1, (membersWithin fuel next).2.2) := by
  have hcolon : skipSpace (':' :: value) = ':' :: value := skipSpace_cons rfl
  have hcomma : skipSpace (',' :: '"' :: next) = ',' :: '"' :: next := skipSpace_cons rfl
  have hquote : skipSpace ('"' :: next) = '"' :: next := skipSpace_cons rfl
  simp only [memberTail, membersWithin, skipQuoted_escaped, quotedText_escaped, hcolon, hread, hd, hcomma,
    hquote]

/-! ## Values -/

theorem endsNumber_cons {c : Char} {cs : List Char} (hdigit : isDigit c = false)
    (hc : c ≠ '.' ∧ c ≠ 'e' ∧ c ≠ 'E') : EndsNumber (c :: cs) := by
  intro d hd
  obtain rfl : c = d := Option.some.inj hd
  exact ⟨hdigit, hc⟩

theorem itemChars_more (v w : Json) (items : List Json) :
    itemChars (v :: w :: items) = v.chars ++ ',' :: itemChars (w :: items) := by
  simp [itemChars]

theorem itemChars_cons (v : Json) (items : List Json) :
    ∃ c cs, itemChars (v :: items) = c :: cs ∧ isSpace c = false ∧ c ≠ ']' := by
  obtain ⟨c, cs, h, hc⟩ := chars_cons v
  cases items with
  | nil => exact ⟨c, cs, h, hc⟩
  | cons w items => exact ⟨c, _, by rw [itemChars_more, h, List.cons_append], hc⟩

theorem memberTail_append (k : String) (value cs : List Char) :
    memberTail k value ++ cs = memberTail k (value ++ cs) := by
  simp [memberTail]

theorem memberChars_one (k : String) (v : Json) :
    memberChars [(k, v)] = '"' :: memberTail k v.chars := by
  simp [memberChars, quote, memberTail]

theorem memberChars_more (k : String) (v : Json) (m : String × Json) (members : List (String × Json)) :
    memberChars ((k, v) :: m :: members) =
      '"' :: memberTail k (v.chars ++ ',' :: memberChars (m :: members)) := by
  simp [memberChars, quote, memberTail]

theorem length_memberTail (k : String) (value : List Char) : value.length < (memberTail k value).length := by
  rw [memberTail, List.length_append, List.length_cons, List.length_cons]
  omega

/-- The members of an object start with the quote of the first name. -/
theorem memberChars_cons (m : String × Json) (members : List (String × Json)) :
    memberChars (m :: members) = '"' :: (memberChars (m :: members)).tail := by
  cases members with
  | nil => rw [memberChars_one, List.tail_cons]
  | cons m' members => rw [memberChars_more, List.tail_cons]

-- The three are one recursion on the value. Each step of reading leaves a character behind, so that the
-- number of steps stays above the length of what is left to read.
mutual

/-- **A written value reads back.** As many steps as its text has characters are enough, and nothing
after it is touched. -/
theorem readWithin_chars : ∀ (v : Json) (fuel : Nat) (rest : List Char), v.chars.length ≤ fuel →
    v.Fits → EndsNumber rest → Doc.readWithin fuel (v.chars ++ rest) = (v.toDoc, rest)
  | v, 0, rest, hlen, _, _ => by
    obtain ⟨c, cs, h, -⟩ := chars_cons v
    rw [h] at hlen
    cases hlen
  | .null, fuel + 1, rest, _, _, _ => by
    rw [Doc.readWithin, chars, List.cons_append, skipSpace_cons rfl]
    rfl
  | .bool b, fuel + 1, rest, _, _, _ => by
    cases b <;> rw [Doc.readWithin, chars, List.cons_append, skipSpace_cons rfl] <;> rfl
  | .int n, fuel + 1, rest, _, hfits, hrest => by
    rw [Fits] at hfits
    rw [chars, toDoc, readWithin_renderInt hfits hrest]
  | .string s, fuel + 1, rest, _, _, _ => by
    rw [chars, toDoc, readWithin_quote]
  | .array [], fuel + 1, rest, _, _, _ => by
    rw [Doc.readWithin, chars, List.cons_append, List.cons_append, skipSpace_cons rfl]
    rfl
  | .array (v :: items), fuel + 1, rest, hlen, hfits, _ => by
    rw [chars, List.length_append, List.length_cons, List.length_singleton] at hlen
    have hitems := itemsWithin_itemChars (v :: items) fuel rest (List.cons_ne_nil _ _) (by omega) hfits
    obtain ⟨c, cs, h, hspace, hc⟩ := itemChars_cons v items
    rw [h, List.cons_append] at hitems
    rw [chars, h, List.append_assoc, List.cons_append, List.singleton_append, List.cons_append,
      readWithin_array hspace hc, hitems, toDoc]
  | .object [], fuel + 1, rest, _, _, _ => by
    rw [Doc.readWithin, chars, List.cons_append, List.cons_append, skipSpace_cons rfl]
    rfl
  | .object (m :: members), fuel + 1, rest, hlen, hfits, _ => by
    rw [chars, List.length_append, List.length_cons, List.length_singleton] at hlen
    have hmembers :=
      membersWithin_memberChars (m :: members) fuel rest (List.cons_ne_nil _ _) (by omega) hfits
    rw [chars, memberChars_cons, List.append_assoc, List.cons_append, List.singleton_append,
      List.cons_append, readWithin_object, hmembers, toDoc]

theorem itemsWithin_itemChars : ∀ (items : List Json) (fuel : Nat) (after : List Char), items ≠ [] →
    (itemChars items).length < fuel → FitsItems items →
    itemsWithin fuel (itemChars items ++ ']' :: after) = (itemDocs items, none, after)
  | [], _, _, hne, _, _ => absurd rfl hne
  | [v], fuel + 1, after, _, hlen, hfits => by
    rw [itemChars] at hlen
    have hread := readWithin_chars v fuel (']' :: after) (Nat.le_of_lt_succ hlen) hfits.1
      (endsNumber_cons rfl (by decide))
    rw [itemChars, itemsWithin_last hread (skipFault_toDoc v), itemDocs, itemDocs]
  | v :: w :: items, fuel + 1, after, _, hlen, hfits => by
    rw [itemChars_more, List.length_append, List.length_cons] at hlen
    have hread := readWithin_chars v fuel (',' :: (itemChars (w :: items) ++ ']' :: after)) (by omega)
      hfits.1 (endsNumber_cons rfl (by decide))
    have hrest := itemsWithin_itemChars (w :: items) fuel after (List.cons_ne_nil _ _) (by omega) hfits.2
    obtain ⟨c, cs, h, hspace, hc⟩ := itemChars_cons w items
    rw [h, List.cons_append] at hread hrest
    rw [itemChars_more, h, List.append_assoc, List.cons_append, List.cons_append,
      itemsWithin_more hread (skipFault_toDoc v) hspace hc, hrest]
    rfl

theorem membersWithin_memberChars : ∀ (members : List (String × Json)) (fuel : Nat) (after : List Char),
    members ≠ [] → (memberChars members).length < fuel → FitsMembers members →
    membersWithin fuel ((memberChars members).tail ++ '\x7d' :: after) = (memberDocs members, none, after)
  | [], _, _, hne, _, _ => absurd rfl hne
  | [(k, v)], fuel + 1, after, _, hlen, hfits => by
    have htail := length_memberTail k v.chars
    rw [memberChars_one, List.length_cons] at hlen
    have hread := readWithin_chars v fuel ('\x7d' :: after) (by omega) hfits.1
      (endsNumber_cons rfl (by decide))
    rw [memberChars_one, List.tail_cons, memberTail_append,
      membersWithin_last hread (skipFault_toDoc v), memberDocs, memberDocs]
  | (k, v) :: m :: members, fuel + 1, after, _, hlen, hfits => by
    have htail := length_memberTail k (v.chars ++ ',' :: memberChars (m :: members))
    rw [List.length_append, List.length_cons] at htail
    rw [memberChars_more, List.length_cons] at hlen
    have hread := readWithin_chars v fuel (',' :: (memberChars (m :: members) ++ '\x7d' :: after))
      (by omega) hfits.1 (endsNumber_cons rfl (by decide))
    have hrest :=
      membersWithin_memberChars (m :: members) fuel after (List.cons_ne_nil _ _) (by omega) hfits.2
    rw [memberChars_cons, List.cons_append] at hread
    rw [memberChars_more, List.tail_cons, memberTail_append, List.append_assoc, List.cons_append,
      memberChars_cons, List.cons_append, membersWithin_more hread (skipFault_toDoc v), hrest]
    rfl

end

/-- **Reading the text of a value** gives its tree, with nothing left over. -/
theorem read_chars {v : Json} (hv : v.Fits) : Doc.read v.chars = (v.toDoc, []) := by
  have hread := readWithin_chars v (2 * v.chars.length + 2) [] (by omega) hv fun c hc => by cases hc
  rwa [List.append_nil] at hread

end DeployWatch.Json
