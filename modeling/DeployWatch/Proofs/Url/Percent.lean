import DeployWatch.Proofs.Text.Utf8
import DeployWatch.Url.Parse

/-!
# Escaped texts

* `unescape_escapeByte`, **`unescape_escape`**: a text that is escaped stands for its own bytes, if the
  percent sign is reserved;
* `escape_injective`: different texts are escaped differently;
* `mem_escape`: the characters of an escaped text;
* **`dotsOf_escape`**: an escaped text counts as dots only if it was written with dots.
-/

namespace DeployWatch.Url

/-! ## Bytes -/

theorem hexValue_hexDigit {n : Nat} (h : n < 16) : hexValue (hexDigit n) = some n := by
  have hall : ∀ i : Fin 16, hexValue (hexDigit i) = some i.val := by decide
  exact hall ⟨n, h⟩

theorem unescape_escapeByte (b : UInt8) (rest : List Char) :
    unescape (escapeByte b ++ rest) = b :: unescape rest := by
  have hb : b.toNat < 256 := b.toNat_lt
  show unescape ('%' :: hexDigit (b.toNat / 16) :: hexDigit (b.toNat % 16) :: rest) = _
  rw [unescape, hexValue_hexDigit (by omega), hexValue_hexDigit (by omega)]
  show UInt8.ofNat (b.toNat / 16 * 16 + b.toNat % 16) :: unescape rest = _
  rw [Nat.div_add_mod' b.toNat 16, UInt8.ofNat_toNat]

theorem unescape_escapeBytes (bs : List UInt8) (rest : List Char) :
    unescape (bs.flatMap escapeByte ++ rest) = bs ++ unescape rest := by
  induction bs with
  | nil => rfl
  | cons b bs ih =>
    rw [List.flatMap_cons, List.append_assoc, unescape_escapeByte, ih, List.cons_append]

/-- A character other than the percent sign stands for its own bytes. -/
theorem unescape_cons_of_ne {c : Char} (hc : c ≠ '%') (rest : List Char) :
    unescape (c :: rest) = String.utf8EncodeChar c ++ unescape rest := by
  rw [unescape]
  exact fun _ _ _ h _ => hc h

/-! ## Texts -/

variable {reserved : Char → Bool}

theorem unescape_escapeChar (hpercent : reserved '%' = true) (c : Char) (rest : List Char) :
    unescape (escapeChar reserved c ++ rest) = String.utf8EncodeChar c ++ unescape rest := by
  unfold escapeChar
  split
  · rename_i hplain
    refine unescape_cons_of_ne ?_ rest
    rintro rfl
    rw [hpercent, Bool.not_true, Bool.and_false] at hplain
    cases hplain
  · exact unescape_escapeBytes _ rest

/-- **An escaped text stands for its own bytes.** -/
theorem unescape_escape (hpercent : reserved '%' = true) (cs : List Char) :
    unescape (escape reserved cs) = cs.flatMap String.utf8EncodeChar := by
  induction cs with
  | nil => rfl
  | cons c cs ih =>
    unfold escape at ih ⊢
    rw [List.flatMap_cons, unescape_escapeChar hpercent, ih, List.flatMap_cons]

/-- Different texts have different bytes. -/
theorem utf8_injective {cs cs' : List Char}
    (h : cs.flatMap String.utf8EncodeChar = cs'.flatMap String.utf8EncodeChar) : cs = cs' := by
  have hunits := congrArg Text.utf8Units h
  rw [Text.utf8Units_encode, Text.utf8Units_encode] at hunits
  exact (List.map_inj_right fun _ _ => Option.some.inj).mp hunits

theorem escape_injective (hpercent : reserved '%' = true) {cs cs' : List Char}
    (h : escape reserved cs = escape reserved cs') : cs = cs' := by
  refine utf8_injective ?_
  rw [← unescape_escape hpercent, h, unescape_escape hpercent]

/-- An escaped text has percent signs, digits of escapes and unreserved characters in it. -/
theorem mem_escape {x : Char} {cs : List Char} (h : x ∈ escape reserved cs) :
    x = '%' ∨ (∃ n < 16, x = hexDigit n) ∨ isPlain x = true ∧ reserved x = false := by
  obtain ⟨c, -, hx⟩ := List.mem_flatMap.mp h
  unfold escapeChar at hx
  split at hx
  · rename_i hplain
    rw [Bool.and_eq_true, Bool.not_eq_true'] at hplain
    rw [List.mem_singleton.mp hx]
    exact .inr (.inr hplain)
  · obtain ⟨b, -, hb⟩ := List.mem_flatMap.mp hx
    have hbound : b.toNat < 256 := b.toNat_lt
    unfold escapeByte at hb
    rcases List.mem_cons.mp hb with rfl | hb
    · exact .inl rfl
    rcases List.mem_cons.mp hb with rfl | hb
    · exact .inr (.inl ⟨_, by omega, rfl⟩)
    rw [List.mem_singleton.mp hb]
    exact .inr (.inl ⟨_, by omega, rfl⟩)

/-- No reserved character is left in an escaped text, apart from percent signs and digits. -/
theorem notMem_escape {x : Char} (hreserved : reserved x = true) (hpercent : x ≠ '%')
    (hdigit : hexValue x = none) (cs : List Char) : x ∉ escape reserved cs := by
  intro h
  rcases mem_escape h with hx | ⟨n, hn, rfl⟩ | ⟨-, hx⟩
  · exact hpercent hx
  · rw [hexValue_hexDigit hn] at hdigit
    cases hdigit
  · rw [hreserved] at hx
    cases hx

/-! ## Dots -/

/-- A text that counts as dots stands for dots, escaped or not. -/
theorem unescape_of_count {cs : List Char} {n : Nat} (h : dotsOf.count cs = some n) :
    unescape cs = (List.replicate n '.').flatMap String.utf8EncodeChar := by
  fun_induction dotsOf.count cs generalizing n with
  | case1 =>
    cases h
    rfl
  | case2 rest ih =>
    obtain ⟨m, hm, rfl⟩ := Option.map_eq_some_iff.mp h
    rw [unescape_cons_of_ne (by decide), ih hm, List.replicate_succ, List.flatMap_cons]
  | case3 e rest he ih =>
    obtain ⟨m, hm, rfl⟩ := Option.map_eq_some_iff.mp h
    have hdot : hexValue '2' = some 2 ∧ hexValue e = some 14 := by
      rcases he with rfl | rfl <;> decide
    rw [unescape, hdot.1, hdot.2, List.replicate_succ, List.flatMap_cons, ← ih hm]
    rfl
  | case4 => cases h
  | case5 => cases h

/-- **An escaped text counts as dots only if it was written with dots.** -/
theorem dotsOf_escape (hpercent : reserved '%' = true) {cs : List Char} (hone : cs ≠ ['.'])
    (htwo : cs ≠ ['.', '.']) : dotsOf (escape reserved cs) = .name := by
  have hcount : ∀ n, dotsOf.count (escape reserved cs) = some n → cs = List.replicate n '.' := by
    intro n hn
    refine utf8_injective ?_
    rw [← unescape_escape hpercent, unescape_of_count hn]
  unfold dotsOf
  split
  · rename_i hn
    exact absurd (hcount 1 hn) hone
  · rename_i hn
    exact absurd (hcount 2 hn) htwo
  · rfl

end DeployWatch.Url
