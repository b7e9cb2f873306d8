/-!
# Sets of characters given by ranges

A character class of a standard is a list of closed ranges of code points.

* `Ranges`, `Ranges.contains`: the class and its membership test;
* `contains_iff`: membership means lying in one of the ranges.
-/

namespace DeployWatch.Text

/-- Closed ranges of code points, in increasing order. -/
abbrev Ranges := List (Nat × Nat)

/-- Whether code point `n` lies in one of the ranges. -/
def Ranges.contains (table : Ranges) (n : Nat) : Bool :=
  table.any fun r => r.1 ≤ n && n ≤ r.2

theorem Ranges.contains_iff {table : Ranges} {n : Nat} :
    table.contains n = true ↔ ∃ r ∈ table, r.1 ≤ n ∧ n ≤ r.2 := by
  simp [Ranges.contains]

end DeployWatch.Text
