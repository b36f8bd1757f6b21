/-! # Sets of code points

The tables of character properties are sets of code points, given as disjoint ranges in increasing
order.
-/
set_option autoImplicit false

namespace TableScope.Text

/-- A set of code points: the first and the last of each range, in increasing order. -/
abbrev CodeRanges := List (Nat × Nat)

namespace CodeRanges

def holds (ranges : CodeRanges) (code : Nat) : Bool :=
  ranges.any fun (first, last) => first ≤ code && code ≤ last

theorem holds_iff (ranges : CodeRanges) (code : Nat) :
    ranges.holds code = true ↔ ∃ r ∈ ranges, r.1 ≤ code ∧ code ≤ r.2 := by
  simp [holds]

end CodeRanges

end TableScope.Text
