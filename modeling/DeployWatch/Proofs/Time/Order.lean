import DeployWatch.Time.Instant
import Mathlib.Order.Defs.LinearOrder

/-!
# Instants in order

* `Instant` is linearly ordered;
* `Instant.Representable`, `Instant.toNanos`: the range of the calendar, and the way back from
  `Instant.ofNanos`;
* `add_of_regular`, `sub_of_leap`: addition as arithmetic on nanoseconds;
* **`lt_before_iff`**, `before_anti`, `not_lt_before`: what lies before an earlier instant, at the end of
  the range too.
-/

namespace DeployWatch.Time.Instant

variable {t u : Instant}

theorem le_def : t ≤ u ↔ t.secs < u.secs ∨ (t.secs = u.secs ∧ t.nanos ≤ u.nanos) := Iff.rfl

theorem lt_def : t < u ↔ t.secs < u.secs ∨ (t.secs = u.secs ∧ t.nanos < u.nanos) := Iff.rfl

instance : LinearOrder Instant where
  le_refl t := by rw [le_def]; omega
  le_trans t u v htu huv := by
    rw [le_def] at htu huv ⊢
    omega
  le_antisymm t u htu hut := by
    rw [le_def] at htu hut
    obtain ⟨secs, nanos⟩ := t
    obtain ⟨secs', nanos'⟩ := u
    obtain rfl : secs = secs' := by dsimp only at htu hut; omega
    obtain rfl : nanos = nanos' := by dsimp only at htu hut; omega
    rfl
  le_total t u := by
    rw [le_def, le_def]
    omega
  lt_iff_le_not_ge t u := by
    rw [lt_def, le_def, le_def]
    omega
  toDecidableLE := inferInstance
  toDecidableEq := inferInstance
  toDecidableLT := inferInstance

/-! ## Nanoseconds -/

/-- The nanoseconds since the epoch. -/
def toNanos (t : Instant) : Int := t.secs * 1000000000 + t.nanos

/-- An instant of the calendar, possibly in a leap second. -/
structure Representable (t : Instant) : Prop where
  least_le : least.secs ≤ t.secs
  le_greatest : t.secs ≤ greatest.secs
  nanos_lt : t.nanos < 2000000000

instance (t : Instant) : Decidable t.Representable :=
  decidable_of_iff (least.secs ≤ t.secs ∧ t.secs ≤ greatest.secs ∧ t.nanos < 2000000000)
    ⟨fun h => ⟨h.1, h.2.1, h.2.2⟩, fun h => ⟨h.least_le, h.le_greatest, h.nanos_lt⟩⟩

theorem inLeapSecond_eq_false : t.inLeapSecond = false ↔ t.nanos < 1000000000 := by
  simp [inLeapSecond]

theorem ofNanos_le_ofNanos {m n : Int} (h : m ≤ n) : ofNanos m ≤ ofNanos n := by
  rw [le_def]
  dsimp only [ofNanos]
  omega

/-- Outside leap seconds, time is a number of nanoseconds. -/
theorem add_of_regular (ht : t.inLeapSecond = false) (delta : Int) :
    t.add delta = ofNanos (t.toNanos + delta) := by
  have hdelta := Int.mul_tdiv_add_tmod delta 1000000000
  rw [add, ht, if_neg Bool.false_ne_true, ofNanos, toNanos]
  generalize delta.tdiv 1000000000 = whole at hdelta ⊢
  generalize delta.tmod 1000000000 = part at hdelta ⊢
  simp only [mk.injEq]
  omega

/-- Out of a leap second, time goes back through the leap second first. -/
theorem sub_of_leap (ht : t.inLeapSecond = true) (n : Nat) : t.add (-(n : Int)) =
    if n < 1000000000 then ⟨t.secs, t.nanos - n⟩ else ofNanos (t.toNanos - n) := by
  have hnanos : 1000000000 ≤ t.nanos := by simpa [inLeapSecond] using ht
  have hsplit := Nat.div_add_mod n 1000000000
  have hmod := Nat.mod_lt n (show 1000000000 > 0 by decide)
  have hwhole : (-(n : Int)).tdiv 1000000000 = -((n / 1000000000 : Nat) : Int) := by
    rw [Int.neg_tdiv, Int.tdiv_eq_ediv_of_nonneg (Int.natCast_nonneg n)]
    rfl
  have hpart : (-(n : Int)).tmod 1000000000 = -((n % 1000000000 : Nat) : Int) := by
    rw [Int.neg_tmod, Int.tmod_eq_emod_of_nonneg (Int.natCast_nonneg n)]
    rfl
  rw [add, ht, if_pos rfl, hwhole, hpart, ofNanos, toNanos]
  generalize n / 1000000000 = whole at hsplit ⊢
  generalize n % 1000000000 = part at hsplit hmod ⊢
  by_cases hn : n < 1000000000
  · rw [if_pos hn, if_neg (by omega), if_neg (by omega), mk.injEq]
    omega
  · rw [if_neg hn, if_neg (by omega), if_pos (by omega), mk.injEq]
    omega

/-! ## Earlier instants -/

/-- The longer ago, the earlier. -/
theorem sub_anti (ht : t.Representable) {n m : Nat} (h : n ≤ m) :
    t.add (-(m : Int)) ≤ t.add (-(n : Int)) := by
  cases hleap : t.inLeapSecond with
  | false =>
    rw [add_of_regular hleap, add_of_regular hleap]
    exact ofNanos_le_ofNanos (by omega)
  | true =>
    have hnanos := ht.nanos_lt
    have hge : 1000000000 ≤ t.nanos := by simpa [inLeapSecond] using hleap
    rw [sub_of_leap hleap, sub_of_leap hleap]
    split
    · rw [if_pos (by omega), le_def]
      exact .inr ⟨rfl, by dsimp only; omega⟩
    · split
      · rw [le_def, ofNanos, toNanos]
        dsimp only
        omega
      · exact ofNanos_le_ofNanos (by omega)

theorem sub_zero (t : Instant) (ht : t.Representable) : t.add (-((0 : Nat) : Int)) = t := by
  cases hleap : t.inLeapSecond with
  | false =>
    have hnanos := inLeapSecond_eq_false.mp hleap
    rw [add_of_regular hleap, ofNanos, toNanos]
    obtain ⟨secs, nanos⟩ := t
    dsimp only at hnanos ⊢
    rw [mk.injEq]
    omega
  | true =>
    rw [sub_of_leap hleap, if_pos (by decide)]
    rfl

/-- **What lies before an earlier instant.** If there is no such instant in the range, nothing of the
calendar does. -/
theorem lt_before_iff (ht : t.Representable) (hu : u.Representable) (n : Nat) :
    u < t.before n ↔ u < t.add (-(n : Int)) := by
  have hle := sub_anti ht (Nat.zero_le n)
  rw [sub_zero t ht, le_def] at hle
  have hgreatest := ht.le_greatest
  have hleast := hu.least_le
  rw [before]
  split
  · rfl
  · rename_i hrange
    have hbelow : (t.add (-(n : Int))).secs < least.secs := by
      simp only [inRange, Bool.and_eq_true, decide_eq_true_eq, not_and] at hrange
      omega
    have hnanos : least.nanos = 0 := rfl
    rw [lt_def, lt_def]
    omega

theorem before_anti (ht : t.Representable) (hu : u.Representable) {n m : Nat} (h : n ≤ m)
    (hlt : u < t.before m) : u < t.before n := by
  rw [lt_before_iff ht hu] at hlt ⊢
  exact lt_of_lt_of_le hlt (sub_anti ht h)

/-- Before an instant that would be earlier than all of the calendar lies nothing. -/
theorem not_lt_before (ht : t.Representable) (hu : u.Representable) {n : Nat}
    (h : t.toNanos - n < least.toNanos) : ¬ u < t.before n := by
  have hleast := ht.least_le
  have hbound := hu.least_le
  have hsecs : least.secs = -8334601228800 := rfl
  have hnanos : least.nanos = 0 := rfl
  rw [toNanos, toNanos, hnanos] at h
  have hearly : (t.add (-(n : Int))).secs < least.secs := by
    cases hleap : t.inLeapSecond with
    | false =>
      rw [add_of_regular hleap, ofNanos, toNanos]
      dsimp only
      omega
    | true =>
      have hge : 1000000000 ≤ t.nanos := by simpa [inLeapSecond] using hleap
      rw [sub_of_leap hleap, if_neg (by omega), ofNanos, toNanos]
      dsimp only
      omega
  rw [lt_before_iff ht hu, lt_def]
  omega

end DeployWatch.Time.Instant
