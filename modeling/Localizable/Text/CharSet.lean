/-!
# Sets of characters

A property of characters is a list of ranges of code points, in ascending order.
-/

namespace Localizable.Text

/-- A set of characters as ranges of code points, both ends included. -/
abbrev CharSet := List (Nat × Nat)

/-- Whether a character is in a set. -/
def CharSet.has (set : CharSet) (c : Char) : Bool :=
  set.any fun (first, last) => first ≤ c.toNat && c.toNat ≤ last

end Localizable.Text
