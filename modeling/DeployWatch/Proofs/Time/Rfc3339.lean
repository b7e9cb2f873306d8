import DeployWatch.Proofs.Number.Digits
import DeployWatch.Proofs.Time.Calendar
import DeployWatch.Proofs.Time.Order
import DeployWatch.Time.Rfc3339

/-!
# Instants read back

* `Instant.Civil`: the instants of the calendar whose leap seconds are the second 60 of a minute;
* `readNumber_append`, `readPart_padded`, `readYear_renderYear`, `readFraction_renderFraction`: the
  parts of a written instant;
* **`Instant.parse_render`**: a written instant is read as it was.
-/

namespace DeployWatch.Time

open DeployWatch.Number
open DeployWatch.Text (trimStart isBlank)

/-- An instant of the calendar as a clock shows it: a leap second is the last of its minute. -/
structure Instant.Civil (t : Instant) : Prop extends t.Representable where
  ends_minute : t.inLeapSecond = true → t.secs % 60 = 59

instance (t : Instant) : Decidable t.Civil :=
  decidable_of_iff (t.Representable ∧ (t.inLeapSecond = true → t.secs % 60 = 59))
    ⟨fun h => ⟨h.1, h.2⟩, fun h => ⟨h.toRepresentable, h.ends_minute⟩⟩

/-! ## Numbers -/

theorem trimStart_cons {c : Char} {cs : List Char} (hc : isBlank c = false) :
    trimStart (c :: cs) = c :: cs :=
  List.dropWhile_cons_of_neg (by simp [hc])

theorem isBlank_of_isDigit {c : Char} (hc : isDigit c = true) : isBlank c = false := by
  have hrange := isDigit_iff.mp hc
  simp [isBlank]
  omega

variable {width n : Nat} {ds rest : List Char}

theorem trimStart_digits (hdigits : ∀ c ∈ ds, isDigit c = true) (hne : ds ≠ []) :
    trimStart (ds ++ rest) = ds ++ rest := by
  obtain ⟨c, cs, rfl⟩ := List.exists_cons_of_ne_nil hne
  exact trimStart_cons (isBlank_of_isDigit (hdigits c (List.mem_cons_self ..)))

/-- Digits are read up to the width or up to the end of them. -/
theorem readNumber_append (hdigits : ∀ c ∈ ds, isDigit c = true) (hne : ds ≠ [])
    (hwidth : ds.length = width ∨ (ds.length ≤ width ∧ EndsDigits rest))
    (hread : readDigits 10 0 ds = some n) : readNumber width (ds ++ rest) = some (n, rest) := by
  have hends : EndsDigits (rest.take (width - ds.length)) := by
    obtain hfull | ⟨-, hends⟩ := hwidth
    · rw [hfull, Nat.sub_self, List.take_zero]
      exact endsDigits_nil
    · intro c hc
      rw [List.head?_take] at hc
      split at hc
      · cases hc
      · exact hends c hc
  have htaken : ((ds ++ rest).take width).takeWhile isDigit = ds := by
    rw [List.take_append, List.take_of_length_le (by omega), takeWhile_digits hdigits hends]
  rw [readNumber, htaken, if_neg (by simpa using hne), hread, List.drop_left]
  rfl

/-- A number that fills its width is read, whatever follows. -/
theorem readNumber_padded (hwidth : 0 < width) (hn : n < Nat.pow 10 width) :
    readNumber width (decimalPadded width n ++ rest) = some (n, rest) :=
  readNumber_append (fun _ => isDigit_of_mem_decimalPadded) decimalPadded_ne_nil
    (.inl (length_decimalPadded hwidth hn)) readDigits_decimalPadded

theorem readPart_padded (hwidth : 0 < width) (hn : n < Nat.pow 10 width) :
    readPart width (decimalPadded width n ++ rest) = some (n, rest) := by
  rw [readPart, trimStart_digits (fun _ => isDigit_of_mem_decimalPadded) decimalPadded_ne_nil,
    readNumber_padded hwidth hn]

theorem readMark_cons {mark : Char} (hmark : isBlank mark = false) :
    readMark mark (mark :: rest) = some rest := by
  rw [readMark, trimStart_cons hmark]
  exact if_pos rfl

/-! ## Years -/

/-- The digits of a year after its sign are read to their end. -/
theorem readNumber_unlimited (hrest : EndsDigits rest) :
    readNumber (decimalPadded 4 n ++ rest).length (decimalPadded 4 n ++ rest) = some (n, rest) :=
  readNumber_append (fun _ => isDigit_of_mem_decimalPadded) decimalPadded_ne_nil
    (.inr ⟨by simp, hrest⟩) readDigits_decimalPadded

/-- A year without a sign has four digits. -/
theorem readYear_digits {c : Char} {cs : List Char} (hc : isDigit c = true) :
    readYear (c :: cs) = (readNumber 4 (c :: cs)).map fun (n, r) => ((n : Int), r) := by
  rw [readYear, trimStart_cons (isBlank_of_isDigit hc)]
  split
  · obtain ⟨rfl, -⟩ := List.cons.inj ‹_›
    cases hc
  · obtain ⟨rfl, -⟩ := List.cons.inj ‹_›
    cases hc
  · rfl

theorem readYear_minus : readYear ('-' :: rest) =
    (readNumber rest.length rest).map fun (n, r) => (-(n : Int), r) := by
  rw [readYear, trimStart_cons rfl]
  rfl

theorem readYear_plus : readYear ('+' :: rest) =
    (readNumber rest.length rest).map fun (n, r) => ((n : Int), r) := by
  rw [readYear, trimStart_cons rfl]
  rfl

theorem readYear_renderYear (y : Int) (hrest : EndsDigits rest) :
    readYear (renderYear y ++ rest) = some (y, rest) := by
  rw [renderYear]
  split
  · rename_i hplain
    have hne : decimalPadded 4 y.toNat ≠ [] := decimalPadded_ne_nil
    obtain ⟨c, cs, h⟩ := List.exists_cons_of_ne_nil hne
    have hc : isDigit c = true := isDigit_of_mem_decimalPadded (h ▸ List.mem_cons_self ..)
    have hread : readNumber 4 (decimalPadded 4 y.toNat ++ rest) = some (y.toNat, rest) :=
      readNumber_padded (by decide) (show y.toNat < 10000 by omega)
    rw [h, List.cons_append, readYear_digits hc, ← List.cons_append, ← h, hread, Option.map_some]
    dsimp only
    rw [Int.toNat_of_nonneg hplain.1]
  · rw [List.cons_append]
    by_cases hneg : y < 0
    · rw [if_pos hneg, readYear_minus, readNumber_unlimited hrest, Option.map_some]
      dsimp only
      rw [show -((y.natAbs : Nat) : Int) = y by omega]
    · rw [if_neg hneg, readYear_plus, readNumber_unlimited hrest, Option.map_some]
      dsimp only
      rw [show ((y.natAbs : Nat) : Int) = y by omega]

/-! ## Fractions -/

/-- Decimal places count from the point. -/
theorem readFraction_places (hwidth : 0 < width) (hwidth' : width ≤ 9) (hn : n < Nat.pow 10 width) :
    readFraction ('.' :: decimalPadded width n ++ ['Z']) = some (n * Nat.pow 10 (9 - width), ['Z']) := by
  have hlength := length_decimalPadded hwidth hn
  have hread : readNumber 9 (decimalPadded width n ++ ['Z']) = some (n, ['Z']) :=
    readNumber_append (fun _ => isDigit_of_mem_decimalPadded) decimalPadded_ne_nil
      (.inr ⟨by omega, endsDigits_cons rfl⟩) readDigits_decimalPadded
  have hplaces : (decimalPadded width n ++ ['Z']).length - ['Z'].length = width := by
    rw [List.length_append, hlength]
    exact Nat.add_sub_cancel ..
  rw [List.cons_append, readFraction, hread]
  dsimp only [bind, Option.bind]
  rw [hplaces]
  rfl

/-- The places that are written are enough. -/
theorem readFraction_renderFraction {nanos : Nat} (h : nanos < 1000000000) :
    readFraction (renderFraction nanos ++ ['Z']) = some (nanos, ['Z']) := by
  rw [renderFraction]
  split
  · subst nanos
    rfl
  · split
    · have hexact : nanos / 1000000 * Nat.pow 10 (9 - 3) = nanos := by
        rw [show Nat.pow 10 (9 - 3) = 1000000 by rfl]
        omega
      rw [readFraction_places (by decide) (by decide) (show nanos / 1000000 < 1000 by omega), hexact]
    · split
      · have hexact : nanos / 1000 * Nat.pow 10 (9 - 6) = nanos := by
          rw [show Nat.pow 10 (9 - 6) = 1000 by rfl]
          omega
        rw [readFraction_places (by decide) (by decide) (show nanos / 1000 < 1000000 by omega), hexact]
      · rw [readFraction_places (by decide) (by decide) h]
        exact congrArg (fun n => some (n, ['Z'])) (Nat.mul_one nanos)

/-! ## Instants -/

theorem lt_of_valid {date : Date} (h : date.valid = true) : date.month < 100 ∧ date.day < 100 := by
  have hdays : daysInMonth date.year date.month ≤ 31 := by
    rw [daysInMonth]
    split
    · split <;> decide
    · split <;> decide
  simp only [Date.valid, Bool.and_eq_true, decide_eq_true_eq] at h
  omega

/-- A date and a time of day in writing. -/
theorem readLocal_parts {date : Date} {hour minute second nanos : Nat} (hdate : date.valid = true)
    (hhour : hour < 24) (hminute : minute < 60) (hsecond : second < 61) (hnanos : nanos < 1000000000) :
    readLocal (renderYear date.year ++ '-' :: decimalPadded 2 date.month ++
      '-' :: decimalPadded 2 date.day ++ 'T' :: decimalPadded 2 hour ++ ':' :: decimalPadded 2 minute ++
      ':' :: decimalPadded 2 second ++ renderFraction nanos ++ ['Z']) =
    some (date, (hour : Int) * 3600 + minute * 60 + min second 59,
      if second = 60 then nanos + 1000000000 else nanos, ['Z']) := by
  obtain ⟨hmonth, hday⟩ := lt_of_valid hdate
  have hdash : isBlank '-' = false := by decide
  have hcolon : isBlank ':' = false := by decide
  have hrange : (!date.valid || decide (24 ≤ hour) || decide (60 ≤ minute) || decide (61 ≤ second)) =
      false := by
    simp [hdate]
    omega
  have hpart : ∀ {n : Nat} {rest : List Char}, n < 100 →
      readPart 2 (decimalPadded 2 n ++ rest) = some (n, rest) :=
    fun h => readPart_padded (by decide) h
  have hyear : ∀ rest, readYear (renderYear date.year ++ '-' :: rest) = some (date.year, '-' :: rest) :=
    fun _ => readYear_renderYear _ (endsDigits_cons rfl)
  simp only [List.append_assoc, List.cons_append, readLocal, Option.bind_eq_bind, Option.bind_some,
    hyear, readMark_cons hdash, readMark_cons hcolon, hpart hmonth, hpart hday,
    hpart (show hour < 100 by omega), hpart (show minute < 100 by omega),
    hpart (show second < 100 by omega), readFraction_renderFraction hnanos, hrange]
  rfl

/-- A written instant is the date of its day and its time of day; second 60 stands for the leap
second. -/
theorem readLocal_chars {t : Instant} (ht : t.Civil) : readLocal t.chars =
    some (Date.ofDays (t.secs / secondsPerDay), t.secs % secondsPerDay, t.nanos, ['Z']) := by
  have hnanos := ht.nanos_lt
  have hminute := ht.ends_minute
  have hdate := Date.valid_ofDays (t.secs / secondsPerDay)
  obtain ⟨d, hd⟩ : ∃ d : Nat, t.secs % secondsPerDay = d :=
    Int.eq_ofNat_of_zero_le (Int.emod_nonneg _ (by decide))
  have hday : d < 86400 ∧ (t.secs % 60 = 59 → d % 60 = 59) := by
    rw [secondsPerDay] at hd
    omega
  rw [Instant.chars, hd, Int.toNat_natCast]
  cases hleap : t.inLeapSecond with
  | false =>
    have hregular := Instant.inLeapSecond_eq_false.mp hleap
    have hread := readLocal_parts hdate (show d / 3600 < 24 by omega)
      (show d / 60 % 60 < 60 by omega) (show d % 60 + 0 < 61 by omega) hregular
    have htime : ((d / 3600 : Nat) : Int) * 3600 + ((d / 60 % 60 : Nat) : Int) * 60 +
        ((min (d % 60 + 0) 59 : Nat) : Int) = d := by
      omega
    rw [htime, if_neg (by omega)] at hread
    simp only [Bool.false_eq_true, if_false]
    exact hread
  | true =>
    have hlast := hday.2 (hminute hleap)
    have hlate : 1000000000 ≤ t.nanos := by simpa [Instant.inLeapSecond] using hleap
    have hread := readLocal_parts hdate (show d / 3600 < 24 by omega)
      (show d / 60 % 60 < 60 by omega) (show d % 60 + 1 < 61 by omega)
      (show t.nanos - 1000000000 < 1000000000 by omega)
    have htime : ((d / 3600 : Nat) : Int) * 3600 + ((d / 60 % 60 : Nat) : Int) * 60 +
        ((min (d % 60 + 1) 59 : Nat) : Int) = d := by
      omega
    rw [htime, if_pos (by omega), Nat.sub_add_cancel hlate] at hread
    simp only [if_true]
    exact hread

/-- **A written instant is read as it was**, in every year of the calendar, with every fraction of the
second, and in leap seconds. -/
theorem Instant.parse_render {t : Instant} (ht : t.Civil) : Instant.parse? t.render = some t := by
  have hsecs : (Date.ofDays (t.secs / secondsPerDay)).toDays * secondsPerDay + t.secs % secondsPerDay =
      t.secs := by
    rw [Date.toDays_ofDays, Int.mul_comm, Int.mul_ediv_add_emod]
  have hrange : ∀ nanos, (⟨t.secs, nanos⟩ : Instant).inRange = true := by
    intro nanos
    simp [Instant.inRange, ht.least_le, ht.le_greatest]
  have hoffset : readOffset (trimStart ['Z']) = some (0, []) := rfl
  rw [Instant.parse?, Instant.render, String.toList_ofList, Instant.parseChars?, readLocal_chars ht]
  dsimp only [bind, Option.bind]
  rw [hoffset]
  dsimp only
  rw [hsecs, Int.sub_zero, hrange, hrange]
  rfl

example : Instant.render ⟨915148799, 1000000001⟩ = "1998-12-31T23:59:60.000000001Z" := by
  decide +kernel

end DeployWatch.Time
