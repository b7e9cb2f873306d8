import DeployWatch.Json.Basic
import DeployWatch.Json.Doc
import DeployWatch.Proofs.Number.Digits

/-!
# Quoted texts and whole numbers read back

* `skipQuoted_escapeChar`, `readQuoted_escapeChar`: what is written for one character stands for it;
* **`skipQuoted_escaped`**, **`quotedText_escaped`**: a quoted text ends where it was closed and is the
  text that was written;
* `outOfRange_of_lt`: whole numbers of 64 bits are far within the range of floating-point numbers;
* **`readNumber_decimal`**: a whole number is read up to its last digit.
-/

namespace DeployWatch.Json

open DeployWatch.Number

/-! ## Quoted texts -/

/-- The escape of a control character stands for it. -/
theorem fourHex_control {c : Char} (hc : c.toNat < 0x20) :
    fourHex '0' '0' (Nat.digitChar (c.toNat / 16)) (Nat.digitChar (c.toNat % 16)) = some c.toNat := by
  have hhigh : digitValue (Nat.digitChar (c.toNat / 16)) = some (c.toNat / 16) :=
    digitValue_digitChar (by omega)
  have hlow : digitValue (Nat.digitChar (c.toNat % 16)) = some (c.toNat % 16) :=
    digitValue_digitChar (by omega)
  have hzero : digitValue '0' = some 0 := by decide
  simp only [fourHex, readDigits, hhigh, hlow, hzero]
  rw [if_pos (by decide), if_pos (by decide), if_pos (by omega), if_pos (by omega)]
  congr 1
  omega

variable {c : Char} {rest : List Char}

/-- What is written for one character: a short escape, the number of a control, or the character. -/
theorem escapeChar_cases (c : Char) :
    (∃ e, escapeChar c = ['\\', e] ∧ e ≠ 'u' ∧ shortEscape e = some c) ∨
    (escapeChar c = ['\\', 'u', '0', '0', Nat.digitChar (c.toNat / 16), Nat.digitChar (c.toNat % 16)] ∧
      c.toNat < 0x20) ∨
    (escapeChar c = [c] ∧ c ≠ '"' ∧ c ≠ '\\' ∧ 0x20 ≤ c.toNat) := by
  fun_cases escapeChar c with
  | case8 => exact .inr (.inl ⟨rfl, ‹_›⟩)
  | case9 => exact .inr (.inr ⟨rfl, ‹_›, ‹_›, Nat.le_of_not_lt ‹_›⟩)
  | _ =>
    subst c
    exact .inl ⟨_, rfl, by decide, rfl⟩

theorem skipQuoted_escapeChar : skipQuoted (escapeChar c ++ rest) = skipQuoted rest := by
  obtain ⟨e, hc, hu, he⟩ | ⟨hc, hcontrol⟩ | ⟨hc, hquote, hslash, hplain⟩ := escapeChar_cases c
  · simp [hc, skipQuoted, hu, he]
  · simp [hc, skipQuoted, fourHex_control hcontrol]
  · simp [hc, skipQuoted, hslash, Nat.not_lt.mpr hplain]

theorem readQuoted_escapeChar :
    readQuoted (escapeChar c ++ rest) = (c :: ·) <$> readQuoted rest := by
  obtain ⟨e, hc, hu, he⟩ | ⟨hc, hcontrol⟩ | ⟨hc, hquote, hslash, hplain⟩ := escapeChar_cases c
  · simp [hc, readQuoted, hu, he]
  · have hlow : isLowHalf c.toNat = false := by
      rw [isLowHalf, decide_eq_false (by omega), Bool.false_and]
    have hhigh : isHighHalf c.toNat = false := by
      rw [isHighHalf, decide_eq_false (by omega), Bool.false_and]
    simp [hc, readQuoted, fourHex_control hcontrol, hlow, hhigh]
  · simp [hc, readQuoted, hslash, Nat.not_lt.mpr hplain]

/-- A quoted text ends at its closing quote. -/
theorem skipQuoted_escaped (cs : List Char) :
    skipQuoted (cs.flatMap escapeChar ++ '"' :: rest) = .ok rest := by
  induction cs with
  | nil => rw [List.flatMap_nil, List.nil_append, skipQuoted]
  | cons c cs ih => rw [List.flatMap_cons, List.append_assoc, skipQuoted_escapeChar, ih]

theorem readQuoted_escaped (cs : List Char) :
    readQuoted (cs.flatMap escapeChar ++ '"' :: rest) = .ok cs := by
  induction cs with
  | nil => rw [List.flatMap_nil, List.nil_append, readQuoted]
  | cons c cs ih =>
    rw [List.flatMap_cons, List.append_assoc, readQuoted_escapeChar, ih]
    rfl

/-- **A quoted text is the text that was written.** -/
theorem quotedText_escaped (s : String) :
    quotedText (s.toList.flatMap escapeChar ++ '"' :: rest) = .ok s := by
  rw [quotedText, readQuoted_escaped]
  exact congrArg Except.ok String.ofList_toList

/-! ## The range of numbers -/

/-- Few binary places are added to a whole number of 64 bits. -/
theorem scaled_le (n : Nat) {e : Int} (he : -53 ≤ e) : (Binary64.scaled n 1 e).1 ≤ n * Nat.pow 2 53 := by
  rw [Binary64.scaled]
  dsimp only
  split
  · rw [Nat.div_one]
    exact Nat.mul_le_mul_left n (Nat.pow_le_pow_right (by decide) (by omega))
  · exact Nat.le_trans (Nat.div_le_self ..) (Nat.le_mul_of_pos_right n (by decide))

/-- The nearest floating-point number to a whole number of 64 bits, with bounds far from exact. -/
theorem ofFraction_of_lt {n : Nat} (hpos : 0 < n) (hn : n < Nat.pow 2 64) :
    ∃ mantissa exponent, Binary64.ofFraction false n 1 = .finite false mantissa exponent ∧
      mantissa ≤ Nat.pow 2 117 ∧ exponent ≤ 13 := by
  have hbits : Nat.log2 n < 64 := (Nat.log2_lt (by omega)).mpr hn
  have hguess : -53 ≤ Binary64.topBit n - Binary64.topBit 1 - 53 ∧
      Binary64.topBit n - Binary64.topBit 1 - 53 ≤ 10 := by
    have hone : Binary64.topBit 1 = 0 := by decide +kernel
    rw [hone, Binary64.topBit]
    omega
  rw [Binary64.ofFraction, if_neg (by omega)]
  generalize Binary64.topBit n - Binary64.topBit 1 - 53 = guess at hguess ⊢
  dsimp only
  generalize hfit : (if Nat.pow 2 54 ≤ (Binary64.scaled n 1 guess).1 then guess + 2
    else if Nat.pow 2 53 ≤ (Binary64.scaled n 1 guess).1 then guess + 1 else guess) = fit
  have hfit' : -53 ≤ fit ∧ fit ≤ 12 := by
    rw [← hfit]
    split
    · omega
    · split <;> omega
  rw [show max fit (-1074) = fit by omega]
  have hscaled : (Binary64.scaled n 1 fit).1 < Nat.pow 2 117 :=
    Nat.lt_of_le_of_lt (scaled_le n hfit'.1) (Nat.mul_lt_mul_of_pos_right hn (by decide))
  generalize Binary64.scaled n 1 fit = parts at hscaled ⊢
  obtain ⟨q, r, d⟩ := parts
  dsimp only at hscaled ⊢
  generalize hrounded : (if d < 2 * r ∨ 2 * r = d ∧ q % 2 = 1 then q + 1 else q) = rounded
  have hrounded' : rounded ≤ Nat.pow 2 117 := by
    rw [← hrounded]
    split
    · exact hscaled
    · exact Nat.le_of_lt hscaled
  by_cases hcarry : rounded = Nat.pow 2 53
  · rw [if_pos hcarry, if_neg (by dsimp only; omega)]
    exact ⟨_, _, rfl, by dsimp only; decide, by dsimp only; omega⟩
  · rw [if_neg hcarry, if_neg (by dsimp only; omega)]
    exact ⟨_, _, rfl, hrounded', by dsimp only; omega⟩

theorem pow_lt_sub_pow {i j k : Nat} (hij : i < j) (hjk : j < k) :
    Nat.pow 2 i < Nat.pow 2 k - Nat.pow 2 j := by
  have hlow : 2 ^ i < 2 ^ j := Nat.pow_lt_pow_right (by decide) hij
  have hhigh : 2 ^ (j + 1) ≤ 2 ^ k := Nat.pow_le_pow_right (by decide) hjk
  rw [Nat.pow_succ] at hhigh
  simp only [Nat.pow_eq]
  omega

theorem outOfRange_of_lt {n : Nat} (hn : n < Nat.pow 2 64) : outOfRange n 0 = false := by
  rw [outOfRange]
  split
  · rfl
  · rename_i hzero
    obtain ⟨m, i, hm, hmle, hile⟩ := ofFraction_of_lt (show 0 < n by omega) hn
    have hone : Binary64.ofDecimal false 1 0 = .finite false (2 ^ 52) (-52) := by decide +kernel
    rw [if_neg (by decide), hm, hone]
    dsimp only
    rw [Binary64.fraction, if_pos (show i + -52 < 0 by omega)]
    -- The limit is too large to be computed; all that counts is its leading power of two.
    generalize hj : 970 = j
    generalize hk : 1024 = k
    have hlimit := pow_lt_sub_pow (i := 169) (show 169 < j by omega) (show j < k by omega)
    have hproduct : m * 2 ^ 52 ≤ Nat.pow 2 169 := Nat.mul_le_mul_right (2 ^ 52) hmle
    have hden := Nat.le_mul_of_pos_right (Nat.pow 2 k - Nat.pow 2 j)
      (Nat.two_pow_pos (-(i + -52)).toNat)
    exact decide_eq_false (Nat.not_le.mpr
      (Nat.lt_of_lt_of_le (Nat.lt_of_le_of_lt hproduct hlimit) hden))

/-! ## Whole numbers -/

/-- A text after which a number is over. -/
def EndsNumber (rest : List Char) : Prop :=
  ∀ c ∈ rest.head?, isDigit c = false ∧ c ≠ '.' ∧ c ≠ 'e' ∧ c ≠ 'E'

theorem le_of_readDigits {acc n : Nat} {ds : List Char} (h : readDigits 10 acc ds = some n) :
    acc ≤ n := by
  induction ds generalizing acc with
  | nil => exact Nat.le_of_eq (Option.some.inj h)
  | cons d ds ih =>
    rw [readDigits] at h
    split at h
    · split at h
      · have := ih h
        omega
      · cases h
    · cases h

/-- All digits of a number of 64 bits are kept. -/
theorem fitDigits_of_lt {acc n : Nat} {ds : List Char} (h : readDigits 10 acc ds = some n)
    (hn : n < Nat.pow 2 64) : fitDigits acc ds = (n, []) := by
  induction ds generalizing acc with
  | nil => rw [fitDigits, Option.some.inj h]
  | cons d ds ih =>
    rw [readDigits] at h
    split at h
    · rename_i v hv
      split at h
      · have hfits : acc * 10 + v < Nat.pow 2 64 := Nat.lt_of_le_of_lt (le_of_readDigits h) hn
        rw [fitDigits, hv, Option.getD_some, if_pos hfits]
        exact ih h
      · cases h
    · cases h

theorem wholeNumber_decimal {negative : Bool} {n : Nat} (hn : n < Nat.pow 2 64)
    (hsign : negative = true → n ≠ 0) :
    wholeNumber negative (decimal n) = .number (.ok (.whole (if negative then -n else n))) := by
  have hzero : (negative && n == 0) = false := by
    cases negative with
    | false => rfl
    | true => simpa using hsign rfl
  rw [wholeNumber, readDigits_decimal, significand, fitDigits_of_lt readDigits_decimal hn]
  simp [hzero, fitDigits, outOfRange_of_lt hn]

/-- **A whole number is read up to its last digit.** -/
theorem readNumber_decimal (negative : Bool) {n : Nat} (hn : n < Nat.pow 2 64)
    (hsign : negative = true → n ≠ 0) (hrest : EndsNumber rest) :
    readNumber negative (decimal n ++ rest) =
      (.number (.ok (.whole (if negative then -n else n))), rest) := by
  have hdigits : ∀ c ∈ decimal n, isDigit c = true := fun _ => isDigit_of_mem_decimal
  have hends : EndsDigits rest := fun c hc => (hrest c hc).1
  rw [readNumber, takeWhile_digits hdigits hends, dropWhile_digits hdigits hends,
    ← wholeNumber_decimal hn hsign]
  dsimp only
  split
  · exact absurd ‹_› decimal_ne_nil
  · exact (List.cons_ne_nil _ _ (decimal_of_head_zero ‹_›)).elim
  · split
    · exact absurd rfl (hrest _ rfl).2.1
    · rename_i c _ _
      have hc := hrest c rfl
      rw [if_neg (by simp [hc.2.2])]
    · rfl

end DeployWatch.Json
