/-!
Sets of characters, given as ranges of code points.
-/

namespace FeatureChoice.Text

/-- First and last code points of the ranges of a set of characters, in ascending order. -/
abbrev Ranges := List (Nat × Nat)

def Ranges.has (ranges : Ranges) (c : Char) : Bool :=
  ranges.any fun r => r.1 ≤ c.toNat && c.toNat ≤ r.2

end FeatureChoice.Text
