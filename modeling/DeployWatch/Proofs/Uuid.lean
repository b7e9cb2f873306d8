import DeployWatch.Proofs.Number.Digits
import DeployWatch.Uuid

/-!
# Identifiers read back

* `length_hexDigits`, `readDigits_hexDigits`: the hexadecimal digits of a number;
* `hyphenate_groups`: digits in five groups;
* **`ofHyphenated_hyphenate`**: the groups with hyphens are read as the digits without;
* **`parse_render`**: a written identifier is read as it was.
-/

namespace DeployWatch.Uuid

open DeployWatch.Number

variable {n count : Nat} {ds : List Char}

/-! ## Hexadecimal digits -/

theorem length_hexDigits (n count : Nat) : (hexDigits n count).length = count := by
  induction count generalizing n with
  | zero => rfl
  | succ count ih => rw [hexDigits, List.length_append, ih, List.length_singleton]

theorem isHexDigit_of_mem {c : Char} (hc : c ∈ hexDigits n count) : isHexDigit c = true := by
  induction count generalizing n with
  | zero => cases hc
  | succ count ih =>
    rw [hexDigits, List.mem_append, List.mem_singleton] at hc
    obtain hc | rfl := hc
    · exact ih hc
    · rw [isHexDigit, digitValue_digitChar (Nat.mod_lt _ (by decide)), Option.isSome_some]

/-- The lowest digits stand for the remainder. -/
theorem readDigits_hexDigits (n count : Nat) :
    readDigits 16 0 (hexDigits n count) = some (n % Nat.pow 16 count) := by
  induction count generalizing n with
  | zero => exact congrArg some (Nat.mod_one n).symm
  | succ count ih =>
    have hlast : n % 16 < 16 := Nat.mod_lt _ (by decide)
    rw [hexDigits, readDigits_append, ih, Option.bind_some, readDigits, digitValue_digitChar hlast]
    dsimp only
    rw [if_pos hlast, readDigits, show Nat.pow 16 (count + 1) = 16 * Nat.pow 16 count from Nat.pow_succ',
      Nat.mod_mul, Nat.mul_comm, Nat.add_comm]

theorem ofHex_hexDigits (u : Uuid) : ofHex? (hexDigits u.value.toNat 32) = some u := by
  have hall : (hexDigits u.value.toNat 32).all isHexDigit = true :=
    List.all_eq_true.mpr fun _ => isHexDigit_of_mem
  have hvalue : u.value.toNat % Nat.pow 16 32 = u.value.toNat := Nat.mod_eq_of_lt u.value.isLt
  rw [ofHex?, if_pos ⟨length_hexDigits .., hall⟩, readDigits_hexDigits, hvalue, Option.map_some,
    BitVec.ofNat_toNat, BitVec.setWidth_eq]

/-! ## Groups -/

theorem hyphenate_groups {a b c d e : List Char} (ha : a.length = 8) (hb : b.length = 4)
    (hc : c.length = 4) (hd : d.length = 4) : hyphenate (a ++ (b ++ (c ++ (d ++ e)))) =
      a ++ '-' :: (b ++ '-' :: (c ++ '-' :: (d ++ '-' :: e))) := by
  simp [hyphenate, List.drop_append, List.drop_of_length_le, ha, hb, hc, hd]

/-- Thirty-two digits are five groups. -/
theorem exists_groups (h : ds.length = 32) : ∃ a b c d e : List Char, a.length = 8 ∧ b.length = 4 ∧
    c.length = 4 ∧ d.length = 4 ∧ ds = a ++ (b ++ (c ++ (d ++ e))) := by
  refine ⟨ds.take 8, (ds.drop 8).take 4, ((ds.drop 8).drop 4).take 4,
    (((ds.drop 8).drop 4).drop 4).take 4, (((ds.drop 8).drop 4).drop 4).drop 4, by simp [h],
    by simp [h], by simp [h], by simp [h], ?_⟩
  rw [List.take_append_drop, List.take_append_drop, List.take_append_drop, List.take_append_drop]

/-- **The groups with hyphens are read as the digits without.** -/
theorem ofHyphenated_hyphenate (h : ds.length = 32) : ofHyphenated? (hyphenate ds) = ofHex? ds := by
  have hungroup : (hyphenate ds).take 8 ++ ((hyphenate ds).drop 9).take 4 ++
      ((hyphenate ds).drop 14).take 4 ++ ((hyphenate ds).drop 19).take 4 ++ (hyphenate ds).drop 24 =
      ds := by
    obtain ⟨a, b, c, d, e, ha, hb, hc, hd, rfl⟩ := exists_groups h
    rw [hyphenate_groups ha hb hc hd]
    simp [List.drop_append, List.drop_of_length_le, ha, hb, hc, hd]
  rw [ofHyphenated?, hungroup, if_pos rfl]

/-! ## Identifiers -/

/-- Digits with hyphens start neither with a brace nor like a name, and are more than thirty-two
characters. -/
theorem parseChars_hyphenate (h : ds.length = 32) (hdigits : ∀ c ∈ ds, isHexDigit c = true) :
    parseChars? (hyphenate ds) = ofHex? ds := by
  obtain ⟨a, b, c, d, e, ha, hb, hc, hd, hgroups⟩ := exists_groups h
  have hchars : hyphenate ds = a ++ '-' :: (b ++ '-' :: (c ++ '-' :: (d ++ '-' :: e))) := by
    rw [hgroups, hyphenate_groups ha hb hc hd]
  have hlength : (hyphenate ds).length ≠ 32 := by
    have htotal := congrArg List.length hgroups
    rw [hchars]
    simp only [List.length_append, List.length_cons] at htotal ⊢
    omega
  have hname : ((hyphenate ds).take 9).map Char.toLower ≠ "urn:uuid:".toList := by
    intro hname
    have hninth : (hyphenate ds)[8]? = some '-' := by
      rw [hchars, List.getElem?_append_right (by omega), ha]
      rfl
    have hlast := congrArg (fun cs => cs[8]?) hname
    simp [hninth] at hlast
  have hbrace : ∀ rest, hyphenate ds ≠ '\x7b' :: rest := by
    intro rest hbrace
    obtain ⟨x, a, rfl⟩ := List.exists_cons_of_length_pos (show 0 < a.length by omega)
    obtain rfl : x = '\x7b' := (List.cons.inj (hchars.symm.trans hbrace)).1
    exact absurd (hdigits _ (hgroups ▸ List.mem_append_left _ (List.mem_cons_self ..))) (by decide)
  rw [parseChars?, if_neg hname, if_neg hlength, ofHyphenated_hyphenate h]
  exact hbrace

/-- **A written identifier is read as it was.** -/
theorem parse_render (u : Uuid) : parse? u.render = some u := by
  rw [parse?, render, String.toList_ofList, chars,
    parseChars_hyphenate (length_hexDigits ..) fun _ => isHexDigit_of_mem, ofHex_hexDigits]

end DeployWatch.Uuid
