/-!
Sets of code points as lists of ranges.
-/

namespace ApiCall

/-- Ranges of code points, each with its first and its last one. -/
abbrev CodePoints := List (Nat × Nat)

/-- The code point lies in one of the ranges. -/
def CodePoints.covers (ranges : CodePoints) (n : Nat) : Bool :=
  ranges.any fun (first, last) => decide (first ≤ n ∧ n ≤ last)

end ApiCall
