/-!
# RoutePaths.Text.CodeTable

Sets of characters given by ranges of code points:

1. a table is a list of inclusive ranges, disjoint and in increasing order;
2. membership stops at the first range that begins above the code point, so
   a character early in the alphabet costs a few comparisons only.
-/

namespace RoutePaths.Text

/-- Inclusive code point ranges in increasing order. -/
abbrev CodeTable := List (Nat × Nat)

namespace CodeTable

/-- Whether a code point lies in one of the ranges. -/
def mem : CodeTable → Nat → Bool
  | [], _ => false
  | (lo, hi) :: rest, n => if n < lo then false else if n ≤ hi then true else mem rest n

end CodeTable

end RoutePaths.Text
