/-!
# Sets of code points

A property of characters is a list of ranges with both ends in it.
-/

namespace TwoPass

/-- Code points given by ranges, each with its first and its last. -/
abbrev CodeRanges := List (Nat × Nat)

/-- Whether a code point is in one of the ranges. -/
def CodeRanges.has (ranges : CodeRanges) (code : Nat) : Bool :=
  ranges.any fun (first, last) => first ≤ code && code ≤ last

end TwoPass
