/-!
# Ranges of Characters

Sets of characters given by the ranges of their code points. The character
classes of Unicode are written down this way, and so are the bracketed
classes of patterns.

## Main definitions

* `inRanges`: Whether a code point lies in one of some ranges.
-/

namespace Concordance

namespace Text

/-- Whether a code point lies in one of the ranges, ends included. -/
def inRanges (ranges : List (Nat × Nat)) (n : Nat) : Bool :=
  ranges.any fun r => r.1 ≤ n && n ≤ r.2

end Text

end Concordance
