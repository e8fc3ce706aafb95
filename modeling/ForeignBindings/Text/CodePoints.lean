/-!
# Sets of code points

A set of code points is a list of ranges, each given by its first and last member.
-/

namespace ForeignBindings.Text

/-- Whether a character lies in one of the ranges. -/
def inRanges (ranges : List (Nat × Nat)) (c : Char) : Bool :=
  ranges.any fun (first, last) => first ≤ c.toNat && c.toNat ≤ last

end ForeignBindings.Text
