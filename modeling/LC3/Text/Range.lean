/-!
# Ranges of code points

Properties of characters are given as lists of ranges of code points, in
ascending order and with both ends included.
-/

namespace LC3.Text

/-- Whether a code point lies in one of the ranges. -/
def within (ranges : List (Nat × Nat)) (c : Nat) : Bool :=
  ranges.any fun (low, high) => low ≤ c && c ≤ high

end LC3.Text
