import DeployWatch.Number.Clamped
import DeployWatch.Rollout.Schedule
import Mathlib.Data.Rat.Floor

/-!
# The number of polls of a timeout

A timeout gives one poll more than it has parts of fifteen seconds, rounded up as an exact quotient is.
The number can be computed in words of 64 bits, with quotients cut off towards zero.

* `PollPolicy.polls`: the number over the rationals, and `PollPolicy.divUp_eq_ceil`;
* `PollPolicy.roundedInWords`, `PollPolicy.wantedInWords`, `PollPolicy.forTimeoutInWords`: the
  computation in words;
* `PollPolicy.ExactInWords`, `PollPolicy.exactInWords`: what its steps stand for, and that no step leaves
  the range of the words;
* `PollPolicy.attempts_mono`: a longer timeout does not give fewer polls;
* **`PollPolicy.forTimeout_exact`**: all of it together.
-/

namespace DeployWatch.PollPolicy

open Number

/-- One more than the quotient of a timeout and fifteen, rounded up. -/
def polls (timeout : Int64) : ℤ := ⌈(timeout.toInt : ℚ) / 15⌉ + 1

theorem divUp_eq_ceil (n : ℤ) : divUp n secondsPerAttempt = ⌈(n : ℚ) / 15⌉ :=
  (Rat.ceil_intCast_div_natCast n 15).symm

theorem polls_eq (timeout : Int64) : polls timeout = divUp timeout.toInt secondsPerAttempt + 1 := by
  rw [polls, divUp_eq_ceil]

/-! ## In words of 64 bits -/

/-- The quotient by fifteen, cut off towards zero, and one more if something is left over. -/
def roundedInWords (timeout : Int64) : Int64 :=
  if 0 < timeout % 15 then timeout / 15 + 1 else timeout / 15

def wantedInWords (timeout : Int64) : Int64 := Clamped.addSigned (roundedInWords timeout) 1

/-- The policy for a timeout, computed in words. -/
def forTimeoutInWords (p : PollPolicy) (timeout : Int64) : PollPolicy :=
  if timeout = 0 then p
  else
    { p with
      attempts := if 0 < wantedInWords timeout then Clamped.narrow (wantedInWords timeout)
        else leastAttempts }

/-- Every step of the computation in words stands for the exact number. -/
structure ExactInWords (timeout : Int64) : Prop where
  quotient : (timeout / 15).toInt = timeout.toInt.tdiv 15
  remainder : (timeout % 15).toInt = timeout.toInt.tmod 15
  increased : (timeout / 15 + 1).toInt = timeout.toInt.tdiv 15 + 1
  rounded : (roundedInWords timeout).toInt = ⌈(timeout.toInt : ℚ) / 15⌉
  wanted : (wantedInWords timeout).toInt = polls timeout
  narrowed : 0 < polls timeout →
    ((Clamped.narrow (wantedInWords timeout)).toNat : ℤ) = min (polls timeout) (2 ^ 32 - 1)

/-- A quotient cut off towards zero, and one more if something is left over, is rounded up. -/
theorem divUp_eq_tdiv (n : ℤ) : divUp n secondsPerAttempt =
    if 0 < n.tmod 15 then n.tdiv 15 + 1 else n.tdiv 15 := by
  have hsplit : 15 * n.tdiv 15 + n.tmod 15 = n := Int.mul_tdiv_add_tmod n 15
  have hbelow : n.tmod 15 < 15 := Int.tmod_lt_of_pos n (by decide)
  have habove : -15 < n.tmod 15 := Int.lt_tmod_of_pos n (by decide)
  unfold divUp secondsPerAttempt
  split <;> omega

/-- No step leaves the range of the words, at either end of it. -/
theorem exactInWords (timeout : Int64) : ExactInWords timeout := by
  have hlow : -2 ^ 63 ≤ timeout.toInt := timeout.le_toInt
  have hhigh : timeout.toInt < 2 ^ 63 := timeout.toInt_lt
  have hfifteen : (15 : Int64).toInt = 15 := rfl
  have hsplit : 15 * timeout.toInt.tdiv 15 + timeout.toInt.tmod 15 = timeout.toInt :=
    Int.mul_tdiv_add_tmod _ _
  have hbelow : timeout.toInt.tmod 15 < 15 := Int.tmod_lt_of_pos _ (by decide)
  have habove : -15 < timeout.toInt.tmod 15 := Int.lt_tmod_of_pos _ (by decide)
  have hquotient : (timeout / 15).toInt = timeout.toInt.tdiv 15 :=
    Int64.toInt_div_of_ne_right _ _ (by decide)
  have hremainder : (timeout % 15).toInt = timeout.toInt.tmod 15 := Int64.toInt_mod _ _
  have hincreased : (timeout / 15 + 1).toInt = timeout.toInt.tdiv 15 + 1 := by
    rw [Int64.toInt_add, hquotient, show (1 : Int64).toInt = 1 from rfl]
    exact Int.bmod_eq_of_le (by omega) (by omega)
  have hrounded : (roundedInWords timeout).toInt = divUp timeout.toInt secondsPerAttempt := by
    have hpositive : 0 < timeout % 15 ↔ 0 < timeout.toInt.tmod 15 := by
      rw [Int64.lt_iff_toInt_lt, hremainder, Int64.toInt_zero]
    rw [divUp_eq_tdiv, roundedInWords]
    simp only [hpositive]
    split
    · exact hincreased
    · exact hquotient
  have hwanted : (wantedInWords timeout).toInt = polls timeout := by
    have hbounds : -2 ^ 63 < divUp timeout.toInt secondsPerAttempt ∧
        divUp timeout.toInt secondsPerAttempt + 1 < 2 ^ 63 := by
      unfold divUp secondsPerAttempt
      omega
    rw [wantedInWords, Clamped.toInt_addSigned, hrounded, polls_eq]
    · rfl
    · rw [hrounded]
      exact Int.le_add_one (Int.le_of_lt hbounds.1)
    · rw [hrounded]
      exact hbounds.2
  refine ⟨hquotient, hremainder, hincreased, hrounded.trans (divUp_eq_ceil _), hwanted, fun h => ?_⟩
  rw [← hwanted] at h ⊢
  rw [Clamped.toNat_narrow (Int.le_of_lt h)]
  omega

/-! ## The policy of a timeout -/

variable (p : PollPolicy) {timeout : Int64}

theorem forTimeout_of_pos (hne : timeout ≠ 0) (h : 0 < polls timeout) :
    p.forTimeout timeout =
      { p with attempts := .ofNat (min (polls timeout).toNat 4294967295) } := by
  rw [polls_eq] at h ⊢
  rw [forTimeout, if_neg hne]
  exact if_pos h

theorem forTimeout_of_nonpos (hne : timeout ≠ 0) (h : ¬ 0 < polls timeout) :
    p.forTimeout timeout = { p with attempts := leastAttempts } := by
  rw [polls_eq] at h
  rw [forTimeout, if_neg hne]
  exact if_neg h

theorem toNat_attempts (hne : timeout ≠ 0) : ((p.forTimeout timeout).attempts.toNat : ℤ) =
    if 0 < polls timeout then min (polls timeout) (2 ^ 32 - 1) else 15 := by
  have hsize : UInt32.size = 4294967296 := rfl
  split
  · rename_i h
    rw [p.forTimeout_of_pos hne h]
    dsimp only
    rw [UInt32.toNat_ofNat_of_lt' (by omega)]
    omega
  · rename_i h
    rw [p.forTimeout_of_nonpos hne h]
    rfl

/-- The computation in words gives the same policy. -/
theorem forTimeoutInWords_eq (timeout : Int64) :
    p.forTimeoutInWords timeout = p.forTimeout timeout := by
  by_cases hne : timeout = 0
  · rw [hne]
    rfl
  have hexact := exactInWords timeout
  have hpositive : 0 < wantedInWords timeout ↔ 0 < polls timeout := by
    rw [Int64.lt_iff_toInt_lt, hexact.wanted, Int64.toInt_zero]
  rw [forTimeoutInWords, if_neg hne]
  by_cases h : 0 < polls timeout
  · have hsize : UInt32.size = 4294967296 := rfl
    have hattempts : Clamped.narrow (wantedInWords timeout) =
        .ofNat (min (polls timeout).toNat 4294967295) := by
      have hnarrowed := hexact.narrowed h
      rw [← UInt32.toNat_inj, UInt32.toNat_ofNat_of_lt' (by omega)]
      omega
    rw [if_pos (hpositive.mpr h), p.forTimeout_of_pos hne h, hattempts]
  · rw [if_neg (mt hpositive.mp h), p.forTimeout_of_nonpos hne h]

theorem polls_mono {timeout' : Int64} (h : timeout ≤ timeout') : polls timeout ≤ polls timeout' := by
  have hle : timeout.toInt ≤ timeout'.toInt := Int64.le_iff_toInt_le.mp h
  rw [polls_eq, polls_eq]
  unfold divUp secondsPerAttempt
  omega

theorem polls_pos (h : 0 < timeout) : 0 < polls timeout := by
  have hpositive : 0 < timeout.toInt := Int64.lt_iff_toInt_lt.mp h
  rw [polls_eq]
  unfold divUp secondsPerAttempt
  omega

/-- A longer timeout does not give fewer polls. -/
theorem attempts_mono {timeout' : Int64} (h : 0 < timeout) (hle : timeout ≤ timeout') :
    (p.forTimeout timeout).attempts ≤ (p.forTimeout timeout').attempts := by
  have h' : 0 < timeout' := Int64.lt_of_lt_of_le h hle
  have hattempts := p.toNat_attempts (Int64.ne_of_lt h).symm
  have hattempts' := p.toNat_attempts (Int64.ne_of_lt h').symm
  have hmono := polls_mono hle
  rw [if_pos (polls_pos h)] at hattempts
  rw [if_pos (polls_pos h')] at hattempts'
  rw [UInt32.le_iff_toNat_le]
  omega

/-- **The number of polls of a timeout.** Without a timeout the policy stays as it is. Any other timeout
leaves the delay, and gives one poll more than the exact quotient by fifteen, rounded up, at most
`2 ^ 32 - 1` and, if that is not positive, fifteen. Computed in words of 64 bits, every step stands for
the exact number and the policy is the same. A longer positive timeout does not give fewer polls. -/
theorem forTimeout_exact :
    p.forTimeout 0 = p ∧
    (∀ timeout : Int64, timeout ≠ 0 → (p.forTimeout timeout).delay = p.delay ∧
      ((p.forTimeout timeout).attempts.toNat : ℤ) =
        if 0 < ⌈(timeout.toInt : ℚ) / 15⌉ + 1 then min (⌈(timeout.toInt : ℚ) / 15⌉ + 1) (2 ^ 32 - 1)
        else 15) ∧
    (∀ timeout : Int64, ExactInWords timeout ∧ p.forTimeoutInWords timeout = p.forTimeout timeout) ∧
    ∀ timeout timeout' : Int64, 0 < timeout → timeout ≤ timeout' →
      (p.forTimeout timeout).attempts ≤ (p.forTimeout timeout').attempts := by
  refine ⟨rfl, fun timeout hne => ⟨?_, p.toNat_attempts hne⟩,
    fun timeout => ⟨exactInWords timeout, p.forTimeoutInWords_eq timeout⟩,
    fun timeout timeout' h hle => p.attempts_mono h hle⟩
  by_cases h : 0 < polls timeout
  · rw [p.forTimeout_of_pos hne h]
  · rw [p.forTimeout_of_nonpos hne h]

/-- At both ends of the range, and where a negative timeout still gives one poll. -/
theorem forTimeout_exact_extremes :
    let p : PollPolicy := ⟨7, 3000⟩
    ((p.forTimeout Int64.maxValue).attempts.toNat : ℤ) = 2 ^ 32 - 1 ∧
      ((p.forTimeout Int64.minValue).attempts.toNat : ℤ) = 15 ∧
      ((p.forTimeout (-10)).attempts.toNat : ℤ) = 1 ∧
      (p.forTimeout 64424509425).attempts ≤ (p.forTimeout 64424509426).attempts := by
  intro p
  obtain ⟨-, hother, -, hmono⟩ := p.forTimeout_exact
  refine ⟨(hother _ (by decide)).2.trans ?_, (hother _ (by decide)).2.trans ?_,
    (hother _ (by decide)).2.trans ?_, hmono _ _ (by decide) (by decide)⟩
  all_goals
    rw [← divUp_eq_ceil]
    decide

end DeployWatch.PollPolicy
