import DeployWatch.Number.Clamped
import DeployWatch.Rollout.Schedule

/-!
# The delays between attempts

The delay after an attempt doubles from attempt to attempt up to a greatest one, and a jitter taken from
the clock adds less than a quarter. It can be computed in words of 64 bits.

* `Backoff.capped_eq`: the delay without jitter, over the natural numbers;
* `Backoff.powerInWords`, `Backoff.cappedInWords`, `Backoff.delayInWords`: the computation in words;
* `Backoff.ExactInWords`, `Backoff.exactInWords`: what its steps stand for;
* `Backoff.delay_le_next`: the next delay is no shorter, whatever the clock says;
* **`Backoff.delay_bounded`**: all of it together.
-/

namespace DeployWatch.Backoff

open Number

variable (b : Backoff) (attempt : UInt32)

/-- The delay without jitter, as if there were no end to the numbers. -/
def doubled : Nat := min (b.baseDelay.toNat * 2 ^ attempt.toNat) 30000

theorem capped_eq : b.capped attempt = b.doubled attempt := by
  unfold capped doubled maxDelay
  dsimp only
  split
  · rename_i hzero
    rw [hzero, Nat.zero_mul]
    rfl
  · rename_i hpositive
    split
    · rename_i hmany
      have hpower : 2 ^ 16 ≤ 2 ^ attempt.toNat := Nat.pow_le_pow_right (by decide) hmany
      have hproduct : 1 * 2 ^ attempt.toNat ≤ b.baseDelay.toNat * 2 ^ attempt.toNat :=
        Nat.mul_le_mul_right _ (Nat.pos_of_ne_zero hpositive)
      omega
    · rfl

/-! ## In words of 64 bits -/

/-- A one moved left, or the greatest word if that would move it out. -/
def powerInWords : UInt64 :=
  if attempt < 64 then 1 <<< attempt.toUInt64 else .ofNat (UInt64.size - 1)

def cappedInWords : UInt64 := min (Clamped.mul b.baseDelay (powerInWords attempt)) 30000

/-- The last three digits of a number of nanoseconds. -/
def factorInWords (nanos : UInt32) : UInt64 := (nanos % 1000).toUInt64

def delayInWords (nanos : UInt32) : UInt64 :=
  Clamped.add (b.cappedInWords attempt)
    (Clamped.mul (b.cappedInWords attempt) (factorInWords nanos) / 4000)

/-- What the steps of the computation in words stand for: only the product with the power of two stops
at the greatest word, far above the greatest delay. -/
structure ExactInWords (nanos : UInt32) : Prop where
  power : attempt < 64 → (powerInWords attempt).toNat = 2 ^ attempt.toNat
  product : (Clamped.mul b.baseDelay (powerInWords attempt)).toNat =
    min (b.baseDelay.toNat * 2 ^ attempt.toNat) (2 ^ 64 - 1)
  capped : (b.cappedInWords attempt).toNat = b.doubled attempt
  scaled : (Clamped.mul (b.cappedInWords attempt) (factorInWords nanos)).toNat =
    b.doubled attempt * (nanos.toNat % 1000)
  delay : (b.delayInWords attempt nanos).toNat = b.delay attempt nanos.toNat

theorem toNat_powerInWords (h : attempt < 64) :
    (powerInWords attempt).toNat = 2 ^ attempt.toNat := by
  have hlt : attempt.toNat < 64 := UInt32.lt_iff_toNat_lt.mp h
  have hpower : 2 ^ attempt.toNat < 2 ^ 64 := Nat.pow_lt_pow_right (by decide) hlt
  rw [powerInWords, if_pos h, UInt64.toNat_shiftLeft, UInt32.toNat_toUInt64, Nat.mod_eq_of_lt hlt,
    show (1 : UInt64).toNat = 1 from rfl, Nat.one_shiftLeft, Nat.mod_eq_of_lt hpower]

/-- Where the power of two does not fit, neither does its product with a base, unless that is zero. -/
theorem toNat_productInWords : (Clamped.mul b.baseDelay (powerInWords attempt)).toNat =
    min (b.baseDelay.toNat * 2 ^ attempt.toNat) (2 ^ 64 - 1) := by
  rw [Clamped.toNat_mul]
  by_cases h : attempt < 64
  · rw [toNat_powerInWords attempt h]
  · have hle : 64 ≤ attempt.toNat := Nat.le_of_not_lt fun hlt => h (UInt32.lt_iff_toNat_lt.mpr hlt)
    have hpower : 2 ^ 64 ≤ 2 ^ attempt.toNat := Nat.pow_le_pow_right (by decide) hle
    have hgreatest : (powerInWords attempt).toNat = 2 ^ 64 - 1 := by
      rw [powerInWords, if_neg h]
      rfl
    rw [hgreatest]
    rcases Nat.eq_zero_or_pos b.baseDelay.toNat with hzero | hpositive
    · rw [hzero, Nat.zero_mul, Nat.zero_mul]
    · have hproduct : 1 * 2 ^ attempt.toNat ≤ b.baseDelay.toNat * 2 ^ attempt.toNat :=
        Nat.mul_le_mul_right _ hpositive
      omega

/-- The computation in words gives the same delay, and only the product with the power of two can be
stopped. -/
theorem exactInWords (nanos : UInt32) : b.ExactInWords attempt nanos := by
  have hproduct := b.toNat_productInWords attempt
  have hcapped : (b.cappedInWords attempt).toNat = b.doubled attempt := by
    rw [cappedInWords, Clamped.toNat_min, hproduct, doubled,
      show (30000 : UInt64).toNat = 30000 from rfl]
    omega
  have hfactor : (factorInWords nanos).toNat = nanos.toNat % 1000 := by
    rw [factorInWords, UInt32.toNat_toUInt64, UInt32.toNat_mod]
    rfl
  have hlargest : b.doubled attempt ≤ 30000 := Nat.min_le_right _ _
  have hscaled : b.doubled attempt * (nanos.toNat % 1000) ≤ 30000 * 999 :=
    Nat.mul_le_mul hlargest (Nat.le_of_lt_succ (Nat.mod_lt _ (by decide)))
  have hscaledInWords : (Clamped.mul (b.cappedInWords attempt) (factorInWords nanos)).toNat =
      b.doubled attempt * (nanos.toNat % 1000) := by
    rw [Clamped.toNat_mul, hcapped, hfactor]
    omega
  refine ⟨toNat_powerInWords attempt, hproduct, hcapped, hscaledInWords, ?_⟩
  rw [delayInWords, Clamped.toNat_add, UInt64.toNat_div, hscaledInWords, hcapped, delay, capped_eq,
    show (4000 : UInt64).toNat = 4000 from rfl]
  omega

/-! ## Bounds -/

/-- What the clock adds to a delay. -/
def jitter (nanos : Nat) : Nat := b.doubled attempt * (nanos % 1000) / 4000

theorem delay_eq (nanos : Nat) :
    b.delay attempt nanos = b.doubled attempt + b.jitter attempt nanos := by
  rw [delay, capped_eq, jitter]

/-- A jitter is less than a quarter of the delay, if there is one. -/
theorem jitter_lt (nanos : Nat) :
    if b.doubled attempt = 0 then b.jitter attempt nanos = 0
    else 4 * b.jitter attempt nanos < b.doubled attempt := by
  unfold jitter
  split
  · rename_i hzero
    rw [hzero, Nat.zero_mul, Nat.zero_div]
  · rename_i hpositive
    have hdigits : nanos % 1000 ≤ 999 := Nat.le_of_lt_succ (Nat.mod_lt _ (by decide))
    have hscaled : b.doubled attempt * (nanos % 1000) ≤ b.doubled attempt * 999 :=
      Nat.mul_le_mul_left _ hdigits
    omega

theorem doubled_next (h : attempt.toNat + 1 < 2 ^ 32) :
    b.doubled (attempt + 1) = min (2 * (b.baseDelay.toNat * 2 ^ attempt.toNat)) 30000 := by
  have hnext : (attempt + 1).toNat = attempt.toNat + 1 := by
    rw [UInt32.toNat_add, show (1 : UInt32).toNat = 1 from rfl]
    exact Nat.mod_eq_of_lt h
  rw [doubled, hnext, Nat.pow_succ, ← Nat.mul_assoc, Nat.mul_comm _ 2]

/-- Four fifths of the greatest delay, with a quarter of it, are not more than that one. -/
theorem delay_le_next (h : attempt.toNat + 1 < 2 ^ 32)
    (hlow : b.baseDelay.toNat * 2 ^ attempt.toNat ≤ 24000) (nanos nanos' : Nat) :
    b.delay attempt nanos ≤ b.delay (attempt + 1) nanos' := by
  have hjitter := b.jitter_lt attempt nanos
  have hnext := b.doubled_next attempt h
  have hdoubled : b.doubled attempt = b.baseDelay.toNat * 2 ^ attempt.toNat :=
    Nat.min_eq_left (by omega)
  rw [delay_eq, delay_eq]
  split at hjitter <;> omega

/-! ## The delay after an attempt -/

theorem jitterSource_lt (now : Int) : jitterSource now < 1000000000 := by
  unfold jitterSource
  split <;> omega

/-- **The delay after an attempt** is the base doubled as many times, at most thirty seconds, with a
jitter of less than a quarter of it, whatever the clock says; so it is at most 37.5 seconds. Computed in
words, it is the same, and no step wraps. The delay after the next attempt is no shorter, whatever the
clock says, as long as the base doubled is at most twenty-four seconds. -/
theorem delay_bounded :
    b.doubled attempt = min (b.baseDelay.toNat * 2 ^ attempt.toNat) 30000 ∧
    (∀ now : Int, (∃ jitter, b.delay attempt (jitterSource now) = b.doubled attempt + jitter ∧
        if b.doubled attempt = 0 then jitter = 0 else 4 * jitter < b.doubled attempt) ∧
      b.delay attempt (jitterSource now) ≤ 37500 ∧
      b.ExactInWords attempt (.ofNat (jitterSource now)) ∧
      (b.delayInWords attempt (.ofNat (jitterSource now))).toNat =
        b.delay attempt (jitterSource now)) ∧
    (attempt.toNat < 2 ^ 32 - 1 → b.baseDelay.toNat * 2 ^ attempt.toNat ≤ 24000 → ∀ now now' : Int,
      b.delay attempt (jitterSource now) ≤ b.delay (attempt + 1) (jitterSource now')) := by
  refine ⟨rfl, fun now => ⟨⟨_, b.delay_eq attempt _, b.jitter_lt attempt _⟩, ?_,
    b.exactInWords attempt _, ?_⟩, fun h hlow now now' => b.delay_le_next attempt (by omega) hlow _ _⟩
  · have hjitter := b.jitter_lt attempt (jitterSource now)
    have hlargest : b.doubled attempt ≤ 30000 := Nat.min_le_right _ _
    rw [delay_eq]
    split at hjitter <;> omega
  · have hsize : UInt32.size = 4294967296 := rfl
    have hnanos := jitterSource_lt now
    rw [(b.exactInWords attempt _).delay, UInt32.toNat_ofNat_of_lt' (by omega)]

/-- With a clock late in its second at first and before its epoch then, and with the greatest base doubled
as often as can be. -/
theorem delay_bounded_unsteady_clock :
    ({} : Backoff).delay 4 (jitterSource 999999999) ≤ ({} : Backoff).delay 5 (jitterSource (-1)) ∧
      (⟨1, .ofNat (2 ^ 64 - 1)⟩ : Backoff).delay (.ofNat (2 ^ 32 - 1)) (jitterSource 999999999) ≤
        37500 :=
  ⟨(delay_bounded {} 4).2.2 (by decide) (by decide) 999999999 (-1),
    ((delay_bounded ⟨1, .ofNat (2 ^ 64 - 1)⟩ (.ofNat (2 ^ 32 - 1))).2.1 999999999).2.1⟩

end DeployWatch.Backoff
