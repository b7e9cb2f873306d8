import Mathlib.Algebra.Order.Ring.Int

/-!
# Words that stop at the ends of their range

Sums and products of machine words whose result is the end of the range where the exact one lies beyond
it.

* `addSigned`, `add`, `mul`: sums of signed words, sums and products of unsigned ones;
* `narrow`: a signed word in half its width;
* `toInt_addSigned`, `toNat_add`, `toNat_mul`, `toNat_min`, `toNat_narrow`: the numbers they stand for.
-/

namespace DeployWatch.Number.Clamped

def addSigned (a b : Int64) : Int64 := .ofIntClamp (a.toInt + b.toInt)

def add (a b : UInt64) : UInt64 := .ofNatClamp (a.toNat + b.toNat)

def mul (a b : UInt64) : UInt64 := .ofNatClamp (a.toNat * b.toNat)

/-- A word in half its width, or the greatest such word if it does not fit. -/
def narrow (n : Int64) : UInt32 :=
  if 0 ≤ n ∧ n.toInt < UInt32.size then .ofNat n.toInt.toNat else .ofNat (UInt32.size - 1)

/-! ## Laws -/

/-- A sum within the range is the exact one. -/
theorem toInt_addSigned {a b : Int64} (hlow : -2 ^ 63 ≤ a.toInt + b.toInt)
    (hhigh : a.toInt + b.toInt < 2 ^ 63) : (addSigned a b).toInt = a.toInt + b.toInt := by
  refine Int64.toInt_ofIntClamp ?_ ?_
  · rw [Int64.toInt_minValue]
    exact hlow
  · rw [Int64.toInt_maxValue]
    omega

theorem toNat_ofNatClamp (n : Nat) : (UInt64.ofNatClamp n).toNat = min n (2 ^ 64 - 1) := by
  have hsize : UInt64.size = 2 ^ 64 := rfl
  unfold UInt64.ofNatClamp
  split <;> rw [UInt64.toNat_ofNatLT] <;> omega

theorem toNat_add (a b : UInt64) : (add a b).toNat = min (a.toNat + b.toNat) (2 ^ 64 - 1) :=
  toNat_ofNatClamp _

theorem toNat_mul (a b : UInt64) : (mul a b).toNat = min (a.toNat * b.toNat) (2 ^ 64 - 1) :=
  toNat_ofNatClamp _

theorem toNat_min (a b : UInt64) : (min a b).toNat = min a.toNat b.toNat := by
  show (if a ≤ b then a else b).toNat = _
  simp only [UInt64.le_iff_toNat_le]
  split <;> omega

theorem toNat_narrow {n : Int64} (h : 0 ≤ n.toInt) :
    (narrow n).toNat = min n.toInt.toNat (2 ^ 32 - 1) := by
  have hsize : UInt32.size = 2 ^ 32 := rfl
  have hn : 0 ≤ n := Int64.le_iff_toInt_le.mpr h
  unfold narrow
  split
  · rename_i hfits
    rw [UInt32.toNat_ofNat_of_lt' (by omega)]
    omega
  · rename_i hfits
    have hlarge : ¬ n.toInt < UInt32.size := fun hlt => hfits ⟨hn, hlt⟩
    rw [UInt32.toNat_ofNat_of_lt' (by omega)]
    omega

end DeployWatch.Number.Clamped
