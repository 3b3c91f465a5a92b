/-!
# Ranges of code points

Character classes are kept as sorted lists of disjoint ranges.
-/

namespace Outline.Text

/-- Whether a code point lies in one of the ranges, which are in rising order. -/
def inRanges : List (Nat × Nat) → Nat → Bool
  | [], _               => false
  | (lo, hi) :: rest, n => lo ≤ n && (n ≤ hi || inRanges rest n)

end Outline.Text
