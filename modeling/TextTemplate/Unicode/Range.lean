set_option autoImplicit false

/-!
# Range: sets of code points as lists of intervals

A property of characters is written down as the increasing list of the intervals of code points that
have it.
-/

namespace TextTemplate.Unicode

/-- The intervals of a set of code points, each with its first and last member. -/
abbrev Ranges := List (Nat × Nat)

/-- Is the character in one of the intervals? -/
def Ranges.has (rs : Ranges) (c : Char) : Bool :=
  rs.any fun r => r.1 ≤ c.toNat && c.toNat ≤ r.2

end TextTemplate.Unicode
