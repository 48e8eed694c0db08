/-!
Sets of characters given by inclusive ranges of code points, in increasing order. The two larger
Unicode classes that the language needs, what can be printed and what counts as a letter or number,
are such lists.
-/

namespace Reckon.Text

/-- A set of characters as inclusive ranges of code points. -/
abbrev Ranges := List (Nat × Nat)

def Ranges.covers (ranges : Ranges) (c : Char) : Bool :=
  ranges.any fun r => r.1 ≤ c.toNat && c.toNat ≤ r.2

end Reckon.Text
