import DeployWatch.Time.Calendar

/-!
# Dates and day numbers

The years of an era of 400 start in March, so that a leap day is the last of its year.

* `exists_century`, `day_of_year`: where a day lies in its era;
* `ofDays_eq`: what the date of a day number is made of;
* **`toDays_ofDays`**, **`valid_ofDays`**: each day number is that of its date, and the date exists.
-/

namespace DeployWatch.Time

/-! ## Days of an era -/

/-- A day of an era lies in one of its four centuries, of which the last is a day longer. -/
theorem exists_century {day : Int} (hlow : 0 ≤ day) (hhigh : day ≤ 146096) : ∃ c r : Int,
    0 ≤ c ∧ c ≤ 3 ∧ 0 ≤ r ∧ r ≤ 36524 ∧ (r = 36524 → c = 3) ∧ day = 36524 * c + r ∧
      (day - day / 1460 + day / 36524 - day / 146096) / 365 =
        100 * c + (r - (24 * c + r) / 1460) / 365 := by
  by_cases hlast : day = 146096
  · exact ⟨3, 36524, by omega⟩
  · exact ⟨day / 36524, day % 36524, by omega⟩

/-- A day of a century lies in one of its years. Only the last of four years has a day of number 365,
and the last year of a century only if the century has the additional day. -/
theorem day_of_year {c r s y : Int} (hc : c = 0 ∨ c = 1 ∨ c = 2 ∨ c = 3) (hlow : 0 ≤ r)
    (hhigh : r ≤ 36524) (hs : s = (24 * c + r) / 1460) (hy : y = (r - s) / 365) :
    0 ≤ y ∧ y ≤ 99 ∧ 0 ≤ r - (365 * y + y / 4) ∧ r - (365 * y + y / 4) ≤ 365 ∧
      (r - (365 * y + y / 4) = 365 → y % 4 = 3 ∧ (y = 99 → r = 36524)) := by
  have hfirst : 0 ≤ y := by omega
  have hlast : y ≤ 99 := by omega
  -- The estimate of the leap days before the day is at most one too high.
  have hs_low : y / 4 ≤ s := by omega
  have hs_high : s ≤ y / 4 + 1 := by omega
  refine ⟨hfirst, hlast, by omega, ?_, ?_⟩
  · by_cases hexact : s = y / 4 <;> omega
  · intro hleap
    refine ⟨?_, by omega⟩
    by_cases hexact : s = y / 4 <;> omega

theorem isLeapYear_iff {y : Int} :
    isLeapYear y = true ↔ y % 4 = 0 ∧ (y % 100 ≠ 0 ∨ y % 400 = 0) := by
  simp [isLeapYear]

/-- The year and the day of the year of a day of an era, both counted from zero. -/
theorem exists_year (day : Int) (hlow : 0 ≤ day) (hhigh : day ≤ 146096) : ∃ y d : Int,
    (0 ≤ y ∧ y ≤ 399) ∧ (0 ≤ d ∧ d ≤ 365) ∧ (day - day / 1460 + day / 36524 - day / 146096) / 365 = y ∧
      day = 365 * y + y / 4 - y / 100 + d ∧
      (d = 365 → ∀ era, isLeapYear (y + era * 400 + 1) = true) := by
  obtain ⟨c, r, hc, hc', hr, hr', hlong, hday, hyear⟩ := exists_century hlow hhigh
  generalize hs : (24 * c + r) / 1460 = s at hyear
  generalize hy : (r - s) / 365 = y at hyear
  obtain ⟨hfirst, hlast, hd, hd', hleap⟩ :=
    day_of_year (show c = 0 ∨ c = 1 ∨ c = 2 ∨ c = 3 by omega) hr hr' hs.symm hy.symm
  clear hs hy
  have hera : (100 * c + y) / 4 = 25 * c + y / 4 ∧ (100 * c + y) / 100 = c ∧ 0 ≤ 100 * c + y ∧
      100 * c + y ≤ 399 := by
    clear hyear hday hr hr' hlong hd hd' hleap
    omega
  obtain ⟨hfour, hhundred, hera, hera'⟩ := hera
  refine ⟨100 * c + y, r - (365 * y + y / 4), ⟨hera, hera'⟩, ⟨hd, hd'⟩, hyear, ?_, ?_⟩
  · rw [hfour, hhundred, hday]
    clear hyear hday hd hd' hleap
    omega
  intro hlongest era
  obtain ⟨hfourth, hcentury⟩ := hleap hlongest
  rw [isLeapYear_iff]
  refine ⟨by omega, ?_⟩
  by_cases h99 : y = 99
  · have hthree := hlong (hcentury h99)
    omega
  · omega

namespace Date

/-- The parts of the date of a day number: the year of the era, the day of the year and the month, all
counted from March. -/
theorem ofDays_eq (days : Int) : ∃ era y d m : Int, (0 ≤ y ∧ y ≤ 399) ∧ (0 ≤ d ∧ d ≤ 365) ∧
    m = (5 * d + 2) / 153 ∧ (d = 365 → isLeapYear (y + era * 400 + 1) = true) ∧
    days + 719468 = 146097 * era + (365 * y + y / 4 - y / 100 + d) ∧
    ofDays days = if m < 10 then ⟨y + era * 400, (m + 3).toNat, (d - (153 * m + 2) / 5 + 1).toNat⟩
      else ⟨y + era * 400 + 1, (m - 9).toNat, (d - (153 * m + 2) / 5 + 1).toNat⟩ := by
  obtain ⟨y, d, hy, hd, hyear, hday, hleap⟩ :=
    exists_year ((days + 719468) % 146097) (by omega) (by omega)
  have hdayOfYear : (days + 719468) % 146097 - (365 * y + y / 4 - y / 100) = d := by omega
  refine ⟨(days + 719468) / 146097, y, d, _, hy, hd, rfl, fun h => hleap h _, by omega, ?_⟩
  rw [ofDays, hyear, hdayOfYear]

/-- **A day number is that of its date.** -/
theorem toDays_ofDays (days : Int) : (ofDays days).toDays = days := by
  obtain ⟨era, y, day, m, hy, hday, hm, -, hdays, heq⟩ := ofDays_eq days
  rw [heq]
  split
  · rw [toDays]
    dsimp only
    rw [if_neg (by omega), if_neg (by omega)]
    omega
  · rw [toDays]
    dsimp only
    rw [if_pos (by omega), if_pos (by omega)]
    omega

/-- The days of the months counted from March, the last of which ends with the leap day. -/
theorem day_of_month {d m k : Int} (hlow : 0 ≤ d) (hhigh : d ≤ 365) (hm : m = (5 * d + 2) / 153)
    (hk : k = d - (153 * m + 2) / 5 + 1) :
    1 ≤ k ∧ k ≤ 31 ∧ (m = 1 ∨ m = 3 ∨ m = 6 ∨ m = 8 → k ≤ 30) ∧
      (m = 11 → k ≤ 29 ∧ (k = 29 → d = 365)) := by
  omega

/-- **The date of a day number exists.** -/
theorem valid_ofDays (days : Int) : (ofDays days).valid = true := by
  obtain ⟨era, y, d, m, -, hd, hm, hleap, -, heq⟩ := ofDays_eq days
  obtain ⟨hfirst, hlast, hthirty, hfebruary⟩ := day_of_month hd.1 hd.2 hm rfl
  generalize d - (153 * m + 2) / 5 + 1 = k at hfirst hlast hthirty hfebruary heq
  have hm' : 0 ≤ m ∧ m ≤ 11 := by omega
  clear hm
  rw [heq]
  split
  · simp only [valid, Bool.and_eq_true, decide_eq_true_eq, daysInMonth]
    refine ⟨⟨⟨by omega, by omega⟩, by omega⟩, ?_⟩
    rw [if_neg (by omega)]
    split <;> omega
  · simp only [valid, Bool.and_eq_true, decide_eq_true_eq, daysInMonth]
    refine ⟨⟨⟨by omega, by omega⟩, by omega⟩, ?_⟩
    split
    · obtain ⟨hlong, hlongest⟩ := hfebruary (by omega)
      split
      · omega
      · rename_i hcommon
        have hshort : k ≠ 29 := fun h => hcommon (hleap (hlongest h))
        omega
    · rw [if_neg (by omega)]
      omega

end Date

end DeployWatch.Time
