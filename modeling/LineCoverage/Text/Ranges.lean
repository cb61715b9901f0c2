/-! Sets of characters given as ranges of code points.

The tables of Unicode properties are lists of inclusive ranges, in increasing order; a
character has the property when its code point lies in one of them.
-/

set_option autoImplicit false

namespace LineCoverage.Text

def inRanges (rs : List (Nat × Nat)) (n : Nat) : Bool := rs.any fun r => r.1 ≤ n && n ≤ r.2

theorem inRanges_iff (rs : List (Nat × Nat)) (n : Nat) :
    inRanges rs n = true ↔ ∃ r ∈ rs, r.1 ≤ n ∧ n ≤ r.2 := by
  simp [inRanges]

end LineCoverage.Text
