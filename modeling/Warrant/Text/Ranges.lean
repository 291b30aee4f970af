-- Characters in lists of ranges.

namespace Warrant.Text

/-- The number of the character is in one of the ranges, ends included. -/
def inRanges (ranges : List (Nat × Nat)) (c : Char) : Bool :=
  ranges.any fun r => r.1 ≤ c.toNat && c.toNat ≤ r.2

end Warrant.Text
