/-!
# Tables of code points

A property of characters is given as a list of closed ranges of code points.
-/

set_option autoImplicit false

namespace Lox.Text

/-- Whether a code point lies in one of the listed closed ranges. -/
def inRanges (ranges : List (Nat × Nat)) (code : Nat) : Bool :=
  ranges.any fun range => range.1 ≤ code && code ≤ range.2

/-- Membership in a table is membership in one of its ranges. -/
theorem inRanges_eq_true_iff (ranges : List (Nat × Nat)) (code : Nat) :
    inRanges ranges code = true ↔ ∃ range ∈ ranges, range.1 ≤ code ∧ code ≤ range.2 := by
  simp [inRanges]

end Lox.Text
