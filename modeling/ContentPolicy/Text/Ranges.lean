/-!
# Ranges of code points

A property of characters is given by ranges of code points, each by its first and its last one, in
increasing order.
-/

namespace ContentPolicy

namespace Text

/-- Whether a code point lies in one of the given ranges. -/
def inRanges (ranges : List (Nat × Nat)) (code : Nat) : Bool :=
  ranges.any fun range => range.1 ≤ code && code ≤ range.2

end Text

end ContentPolicy
