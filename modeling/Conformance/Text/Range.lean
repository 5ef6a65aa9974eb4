/-!
# Character classes given by ranges

A class of the character database is a table of closed ranges of code points.
-/

namespace Conformance.Text

/-- Whether the code point of a character lies in one of the closed ranges. -/
def inRanges (ranges : List (Nat × Nat)) (c : Char) : Bool :=
  ranges.any fun range => range.1 ≤ c.toNat && c.toNat ≤ range.2

end Conformance.Text
