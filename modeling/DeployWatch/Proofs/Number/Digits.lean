import DeployWatch.Number.Digits

/-!
# Digits read back

* `digitValue_digitChar`, `readDigits_append`, `readDigits_of_isDigit`, `isDigit_of_readDigits`: reading
  digit after digit;
* `EndsDigits`, `takeWhile_digits`, `dropWhile_digits`: digits up to a text that does not go on with
  one;
* `readDigits_decimal`, `readDigits_decimalPadded`: decimal texts read back, zeros in front or not;
* `length_decimalPadded`: the width is met where the number fits into it.
-/

namespace DeployWatch.Number

/-! ## Digits -/

theorem digitValue_digitChar : ∀ {d : Nat}, d < 16 → digitValue (Nat.digitChar d) = some d := by
  decide

theorem isDigit_iff {c : Char} : isDigit c = true ↔ 48 ≤ c.toNat ∧ c.toNat ≤ 57 := by
  simp [isDigit, Char.le_def, UInt32.le_iff_toNat_le]

/-- A digit is none of the characters that are not. -/
theorem ne_of_isDigit {c d : Char} (hc : isDigit c = true) (hd : isDigit d = false) : c ≠ d := by
  rintro rfl
  exact Bool.false_ne_true (hd.symm.trans hc)

theorem toLower_of_isDigit {c : Char} (hc : isDigit c = true) : c.toLower = c := by
  refine dif_neg fun hupper => ?_
  have hlow : 65 ≤ c.toNat := UInt32.le_iff_toNat_le.mp hupper.1
  have hhigh := (isDigit_iff.mp hc).2
  omega

theorem digitValue_of_isDigit {c : Char} (hc : isDigit c = true) :
    digitValue c = some (c.toNat - 48) := by
  have hrange : '0' ≤ c ∧ c ≤ '9' := by simpa [isDigit] using hc
  rw [digitValue, if_pos hrange]

/-! ## Reading -/

variable {base acc : Nat} {cs ds : List Char}

theorem readDigits_append : readDigits base acc (cs ++ ds) =
    (readDigits base acc cs).bind fun n => readDigits base n ds := by
  induction cs generalizing acc with
  | nil => rfl
  | cons c cs ih =>
    rw [List.cons_append, readDigits, readDigits]
    cases digitValue c with
    | none => rfl
    | some d =>
      dsimp only
      split
      · exact ih
      · rfl

/-- Decimal digits read as the number they stand for. -/
theorem readDigits_of_isDigit (h : ∀ c ∈ cs, isDigit c = true) :
    readDigits 10 acc cs = some (Nat.ofDigitChars 10 cs acc) := by
  induction cs generalizing acc with
  | nil => rfl
  | cons c cs ih =>
    have hc : isDigit c = true := h c (List.mem_cons_self ..)
    have hbelow : c.toNat - 48 < 10 := by
      have := isDigit_iff.mp hc
      omega
    rw [readDigits, digitValue_of_isDigit hc]
    dsimp only
    rw [if_pos hbelow, ih fun d hd => h d (List.mem_cons_of_mem _ hd), Nat.ofDigitChars_eq_foldl,
      Nat.ofDigitChars_eq_foldl, List.foldl_cons, Nat.mul_comm]
    rfl

theorem isDigit_of_digitValue {c : Char} {n : Nat} (h : digitValue c = some n) (hn : n < 10) :
    isDigit c = true := by
  unfold digitValue at h
  split at h
  · rename_i hrange
    simpa [isDigit] using hrange
  · split at h
    · rename_i hletter
      have hlow : 97 ≤ c.toNat := UInt32.le_iff_toNat_le.mp hletter.1
      have := Option.some.inj h
      omega
    · split at h
      · rename_i hletter
        have hlow : 65 ≤ c.toNat := UInt32.le_iff_toNat_le.mp hletter.1
        have := Option.some.inj h
        omega
      · cases h

theorem isDigit_of_readDigits {cs : List Char} {acc n : Nat} (h : readDigits 10 acc cs = some n) :
    ∀ c ∈ cs, isDigit c = true := by
  induction cs generalizing acc with
  | nil => rintro c ⟨⟩
  | cons c cs ih =>
    rw [readDigits] at h
    split at h
    · split at h
      · rintro d hd
        obtain rfl | hd := List.mem_cons.mp hd
        · exact isDigit_of_digitValue ‹_› ‹_›
        · exact ih h d hd
      · cases h
    · cases h

/-- A text that does not go on with a digit. -/
def EndsDigits (rest : List Char) : Prop := ∀ c ∈ rest.head?, isDigit c = false

theorem endsDigits_nil : EndsDigits [] := fun _ hc => by cases hc

theorem endsDigits_cons {c : Char} (hc : isDigit c = false) : EndsDigits (c :: cs) := by
  intro d hd
  obtain rfl : c = d := Option.some.inj hd
  exact hc

theorem takeWhile_digits {rest : List Char} (hds : ∀ c ∈ ds, isDigit c = true)
    (hrest : EndsDigits rest) : (ds ++ rest).takeWhile isDigit = ds := by
  rw [List.takeWhile_append_of_pos hds]
  cases rest with
  | nil => exact List.append_nil ds
  | cons c rest => rw [List.takeWhile_cons_of_neg (by simp [hrest c rfl]), List.append_nil]

theorem dropWhile_digits {rest : List Char} (hds : ∀ c ∈ ds, isDigit c = true)
    (hrest : EndsDigits rest) : (ds ++ rest).dropWhile isDigit = rest := by
  rw [List.dropWhile_append_of_pos hds]
  cases rest with
  | nil => rfl
  | cons c rest => rw [List.dropWhile_cons_of_neg (by simp [hrest c rfl])]

/-! ## Decimal texts -/

variable {n width : Nat}

theorem isDigit_of_mem_decimal {c : Char} (hc : c ∈ decimal n) : isDigit c = true :=
  Nat.isDigit_of_mem_toDigits (by decide) (by decide) hc

theorem decimal_ne_nil : decimal n ≠ [] := Nat.toDigits_ne_nil

/-- A zero in front is the whole text. -/
theorem decimal_of_head_zero (h : decimal n = '0' :: ds) : ds = [] := by
  induction n using Nat.strongRecOn generalizing ds with
  | _ n ih =>
    rw [decimal, Nat.toDigits_eq_if (by decide)] at h
    split at h
    · exact (List.cons.inj h).2.symm
    · rename_i hten
      obtain ⟨d, es, hsplit⟩ := List.exists_cons_of_ne_nil (decimal_ne_nil (n := n / 10))
      have hhead : d = '0' := by
        rw [← decimal, hsplit] at h
        exact (List.cons.inj h).1
      have hzero := ih (n / 10) (by omega) (hhead ▸ hsplit)
      -- A quotient that is written `0` is zero, so the number has one digit.
      have hquotient : n / 10 = 0 := by
        have hread := Nat.ofDigitChars_ten_toDigits (n := n / 10)
        rw [← decimal, hsplit, hhead, hzero] at hread
        exact hread.symm
      omega

theorem readDigits_decimal : readDigits 10 0 (decimal n) = some n := by
  rw [readDigits_of_isDigit fun _ => isDigit_of_mem_decimal, decimal, Nat.ofDigitChars_ten_toDigits]

theorem isDigit_of_mem_decimalPadded {c : Char} (hc : c ∈ decimalPadded width n) :
    isDigit c = true := by
  rw [decimalPadded, List.mem_append, List.mem_replicate] at hc
  obtain ⟨-, rfl⟩ | hc := hc
  · rfl
  · exact isDigit_of_mem_decimal hc

theorem decimalPadded_ne_nil : decimalPadded width n ≠ [] := by
  rw [decimalPadded]
  exact List.append_ne_nil_of_right_ne_nil _ decimal_ne_nil

/-- A number of no more digits than the width fills it. -/
theorem length_decimalPadded (hwidth : 0 < width) (hn : n < Nat.pow 10 width) :
    (decimalPadded width n).length = width := by
  have hdigits : (decimal n).length ≤ width := (Nat.length_toDigits_le_iff (by decide) hwidth).mpr hn
  rw [decimalPadded, List.length_append, List.length_replicate]
  omega

theorem readDigits_decimalPadded : readDigits 10 0 (decimalPadded width n) = some n := by
  have hzeros : readDigits 10 0 (List.replicate (width - (decimal n).length) '0') = some 0 := by
    rw [readDigits_of_isDigit fun c hc => by rw [(List.mem_replicate.mp hc).2]; rfl,
      Nat.ofDigitChars_replicate_zero, Nat.mul_zero]
  rw [decimalPadded, readDigits_append, hzeros]
  exact readDigits_decimal

end DeployWatch.Number
