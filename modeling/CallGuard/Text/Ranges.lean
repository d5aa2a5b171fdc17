/-!
# Sets of characters given by ranges of code points

A property of characters is a list of closed ranges in ascending order; a character has the
property when its code point lies in one of them.
-/

namespace CallGuard

namespace Text

/-- Closed ranges of code points, each given by its first and last member. -/
abbrev Ranges := List (Nat × Nat)

/-- The code point of `c` lies in one of the ranges. -/
def Ranges.contains (rs : Ranges) (c : Char) : Bool :=
  rs.any fun r => r.1 ≤ c.toNat && c.toNat ≤ r.2

end Text

end CallGuard
