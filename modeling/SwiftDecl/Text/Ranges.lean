/-!
# Ranges of code points

A character class is a list of ranges of code points, each given by its first and last member.
-/

namespace SwiftDecl.Text

/-- A character class, as ranges with both ends included. -/
abbrev Ranges := List (Nat × Nat)

/-- The character lies in one of the ranges. -/
def Ranges.contains (ranges : Ranges) (c : Char) : Bool :=
  ranges.any fun r => r.1 ≤ c.toNat && c.toNat ≤ r.2

end SwiftDecl.Text
