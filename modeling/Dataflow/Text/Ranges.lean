/-!
# Character classes

A class of characters as a list of inclusive ranges of code points.
-/

namespace Dataflow.Text

/-- Whether a character lies in one of the ranges. -/
def inRanges (ranges : List (Nat × Nat)) (c : Char) : Bool :=
  ranges.any fun range => range.1 ≤ c.toNat && c.toNat ≤ range.2

end Dataflow.Text
