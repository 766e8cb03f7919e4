/-!
# Ranges of code points

Properties of characters are kept as lists of ranges, both ends included.

- `inRanges`: whether a code point is in one of them.
-/

namespace TunnelHost.Text

/-- Whether a code point is in one of the ranges. -/
def inRanges (ranges : List (Nat × Nat)) (n : Nat) : Bool :=
  ranges.any fun r => r.1 ≤ n && n ≤ r.2

end TunnelHost.Text
