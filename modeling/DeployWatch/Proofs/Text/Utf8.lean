import DeployWatch.Text.Utf8

/-!
# Writing and reading UTF-8

* `utf8Lead_three`, `utf8Lead_four`: the lead bytes of the longer sequences;
* `utf8Head_encode`: the first character of an encoded text;
* **`decodeUtf8_encodeUtf8`**: reading gives back what was written.
-/

namespace DeployWatch.Text

/-! ## Lead bytes -/

theorem utf8Lead_one {b : Nat} (h : b < 0x80) : utf8Lead b = some (1, 0, 0) := by
  rw [utf8Lead, if_pos h]

theorem utf8Lead_two {b : Nat} (h : 0xC2 ≤ b) (h' : b < 0xE0) : utf8Lead b = some (2, 0x80, 0xBF) := by
  rw [utf8Lead, if_neg (by omega), if_neg (by omega), if_pos h']

theorem utf8Lead_three {b : Nat} (h : 0xE0 ≤ b) (h' : b < 0xF0) :
    utf8Lead b = some (3, if b = 0xE0 then 0xA0 else 0x80, if b = 0xED then 0x9F else 0xBF) := by
  rw [utf8Lead, if_neg (by omega), if_neg (by omega), if_neg (by omega)]
  by_cases h0 : b = 0xE0
  · rw [if_pos h0, if_pos h0, if_neg (by omega)]
  · by_cases hD : b = 0xED
    · rw [if_neg h0, if_neg h0, if_pos hD, if_pos hD]
    · rw [if_neg h0, if_neg h0, if_neg hD, if_neg hD, if_pos h']

theorem utf8Lead_four {b : Nat} (h : 0xF0 ≤ b) (h' : b < 0xF5) :
    utf8Lead b = some (4, if b = 0xF0 then 0x90 else 0x80, if b = 0xF4 then 0x8F else 0xBF) := by
  rw [utf8Lead, if_neg (by omega), if_neg (by omega), if_neg (by omega), if_neg (by omega),
    if_neg (by omega), if_neg (by omega)]
  by_cases h0 : b = 0xF0
  · rw [if_pos h0, if_pos h0, if_neg (by omega)]
  · by_cases h4 : b = 0xF4
    · rw [if_neg h0, if_neg h0, if_neg (by omega), if_pos h4, if_pos h4]
    · rw [if_neg h0, if_neg h0, if_neg h4, if_pos (by omega), if_neg h4]

/-! ## Sequences -/

theorem utf8Head_one {b : UInt8} (h : b.toNat < 0x80) (rest : List UInt8) :
    utf8Head b rest = (some (Char.ofNat b.toNat), 1) := by
  simp only [utf8Head, utf8Lead_one h]

theorem utf8Head_two {b b2 : UInt8} (h : 0xC2 ≤ b.toNat) (h' : b.toNat < 0xE0)
    (h2 : 0x80 ≤ b2.toNat) (h2' : b2.toNat ≤ 0xBF) (rest : List UInt8) :
    utf8Head b (b2 :: rest) =
      (some (Char.ofNat ((b.toNat - 0xC0) * 64 + (b2.toNat - 0x80))), 2) := by
  have hb2 : (b2.toNat < 0x80 || 0xBF < b2.toNat : Bool) = false := by simp; omega
  simp only [utf8Head, utf8Lead_two h h', hb2]
  rfl

theorem isContinuation_of_le {b : UInt8} (h : 0x80 ≤ b.toNat) (h' : b.toNat ≤ 0xBF) :
    isContinuation b = true := by
  simp only [isContinuation, Bool.and_eq_true, decide_eq_true_eq]
  exact ⟨h, h'⟩

theorem utf8Head_three {b b2 b3 : UInt8} (h : 0xE0 ≤ b.toNat) (h' : b.toNat < 0xF0)
    (h2 : (if b.toNat = 0xE0 then 0xA0 else 0x80) ≤ b2.toNat)
    (h2' : b2.toNat ≤ if b.toNat = 0xED then 0x9F else 0xBF) (h3 : isContinuation b3 = true)
    (rest : List UInt8) :
    utf8Head b (b2 :: b3 :: rest) =
      (some (Char.ofNat ((b.toNat - 0xE0) * 4096 + (b2.toNat - 0x80) * 64 + (b3.toNat - 0x80))), 3) := by
  have hb2 : (decide (b2.toNat < if b.toNat = 0xE0 then 0xA0 else 0x80) ||
      decide ((if b.toNat = 0xED then 0x9F else 0xBF) < b2.toNat)) = false := by
    rw [decide_eq_false (Nat.not_lt.mpr h2), decide_eq_false (Nat.not_lt.mpr h2'), Bool.or_false]
  simp only [utf8Head, utf8Lead_three h h', hb2, h3]
  rfl

theorem utf8Head_four {b b2 b3 b4 : UInt8} (h : 0xF0 ≤ b.toNat) (h' : b.toNat < 0xF5)
    (h2 : (if b.toNat = 0xF0 then 0x90 else 0x80) ≤ b2.toNat)
    (h2' : b2.toNat ≤ if b.toNat = 0xF4 then 0x8F else 0xBF) (h3 : isContinuation b3 = true)
    (h4 : isContinuation b4 = true) (rest : List UInt8) :
    utf8Head b (b2 :: b3 :: b4 :: rest) =
      (some (Char.ofNat ((b.toNat - 0xF0) * 262144 + (b2.toNat - 0x80) * 4096 +
        (b3.toNat - 0x80) * 64 + (b4.toNat - 0x80))), 4) := by
  have hb2 : (decide (b2.toNat < if b.toNat = 0xF0 then 0x90 else 0x80) ||
      decide ((if b.toNat = 0xF4 then 0x8F else 0xBF) < b2.toNat)) = false := by
    rw [decide_eq_false (Nat.not_lt.mpr h2), decide_eq_false (Nat.not_lt.mpr h2'), Bool.or_false]
  simp only [utf8Head, utf8Lead_four h h', hb2, h3, h4]
  rfl

/-! ## Characters -/

theorem toNat_ofNat {n : Nat} (h : n < 256) : (UInt8.ofNat n).toNat = n := by
  rw [UInt8.toNat_ofNat', Nat.mod_eq_of_lt h]

/-- The first character of an encoded text, with the number of its bytes. -/
theorem utf8Head_encode (c : Char) (rest : List UInt8) :
    ∃ b bs, String.utf8EncodeChar c = b :: bs ∧ utf8Head b (bs ++ rest) = (some c, bs.length + 1) := by
  have hc : Char.ofNat c.val.toNat = c := Char.ofNat_toNat c
  have hvalid : c.val.toNat < 0xD800 ∨ 0xDFFF < c.val.toNat ∧ c.val.toNat < 0x110000 := c.valid
  unfold String.utf8EncodeChar
  generalize c.val.toNat = v at hc hvalid
  dsimp only
  -- The tail bytes are the same in all sequences.
  have htail : ∀ n, (UInt8.ofNat (n % 0x40 + 0x80)).toNat = n % 0x40 + 0x80 := fun n =>
    toNat_ofNat (by omega)
  have hcontinue : ∀ n, isContinuation (UInt8.ofNat (n % 0x40 + 0x80)) = true := fun n =>
    isContinuation_of_le (by rw [htail]; omega) (by rw [htail]; omega)
  split
  · have h1 : (UInt8.ofNat v).toNat = v := toNat_ofNat (by omega)
    refine ⟨_, _, rfl, ?_⟩
    rw [utf8Head_one (by omega), h1, hc]
    rfl
  · split
    · have h1 : (UInt8.ofNat (v / 64 % 0x20 + 0xc0)).toNat = v / 64 + 0xC0 := by
        rw [toNat_ofNat (by omega)]; omega
      have hv : (v / 64 + 0xC0 - 0xC0) * 64 + (v % 0x40 + 0x80 - 0x80) = v := by omega
      refine ⟨_, _, rfl, (utf8Head_two ?_ ?_ ?_ ?_ rest).trans ?_⟩
      · omega
      · omega
      · rw [htail]; omega
      · rw [htail]; omega
      · rw [h1, htail, hv, hc]
        rfl
    · split
      · have h1 : (UInt8.ofNat (v / 4096 % 0x10 + 0xe0)).toNat = v / 4096 + 0xE0 := by
          rw [toNat_ofNat (by omega)]; omega
        have hv : (v / 4096 + 0xE0 - 0xE0) * 4096 + (v / 64 % 0x40 + 0x80 - 0x80) * 64 +
            (v % 0x40 + 0x80 - 0x80) = v := by omega
        refine ⟨_, _, rfl, (utf8Head_three ?_ ?_ ?_ ?_ (hcontinue _) rest).trans ?_⟩
        · omega
        · omega
        · rw [h1, htail]; split <;> omega
        · rw [h1, htail]; split <;> omega
        · rw [h1, htail, htail, hv, hc]
          rfl
      · have h1 : (UInt8.ofNat (v / 262144 % 0x08 + 0xf0)).toNat = v / 262144 + 0xF0 := by
          rw [toNat_ofNat (by omega)]; omega
        have hv : (v / 262144 + 0xF0 - 0xF0) * 262144 + (v / 4096 % 0x40 + 0x80 - 0x80) * 4096 +
            (v / 64 % 0x40 + 0x80 - 0x80) * 64 + (v % 0x40 + 0x80 - 0x80) = v := by omega
        refine ⟨_, _, rfl, (utf8Head_four ?_ ?_ ?_ ?_ (hcontinue _) (hcontinue _) rest).trans ?_⟩
        · omega
        · omega
        · rw [h1, htail]; split <;> omega
        · rw [h1, htail]; split <;> omega
        · rw [h1, htail, htail, htail, hv, hc]
          rfl

/-! ## Texts -/

theorem encodeUtf8_eq (s : String) : encodeUtf8 s = s.toList.flatMap String.utf8EncodeChar := by
  rw [encodeUtf8, String.toUTF8_eq_toByteArray, ← String.utf8Encode_toList, List.utf8Encode,
    List.toList_data_toByteArray]

theorem utf8Units_encode (cs : List Char) :
    utf8Units (cs.flatMap String.utf8EncodeChar) = cs.map some := by
  induction cs with
  | nil => simp [utf8Units]
  | cons c cs ih =>
    obtain ⟨b, bs, hbytes, hhead⟩ := utf8Head_encode c (cs.flatMap String.utf8EncodeChar)
    have hdrop : (b :: (bs ++ cs.flatMap String.utf8EncodeChar)).drop (max (bs.length + 1) 1) =
        cs.flatMap String.utf8EncodeChar := by
      rw [Nat.max_eq_left (Nat.le_add_left 1 _), List.drop_succ_cons, List.drop_left]
    rw [List.flatMap_cons, hbytes, List.cons_append, utf8Units, hhead]
    dsimp only
    rw [hdrop, ih, List.map_cons]

/-- **Reading UTF-8 gives back the text that was written.** -/
theorem decodeUtf8_encodeUtf8 (s : String) : decodeUtf8 (encodeUtf8 s) = some s := by
  have hsome : ∀ cs : List Char, (cs.map some).mapM id = some cs := fun cs => by
    induction cs with
    | nil => rfl
    | cons c cs ih => simp [ih]
  rw [decodeUtf8, encodeUtf8_eq, utf8Units_encode, hsome, Option.map_some, String.ofList_toList]

end DeployWatch.Text
