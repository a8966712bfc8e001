/-!
# Powers of two and ten

The scales of binary and of decimal numbers, and the integers of 64 bits.
-/

namespace Localizable

/-- Two to an exponent. -/
abbrev twoTo (exponent : Nat) : Nat := Nat.pow 2 exponent

/-- Ten to an exponent. -/
abbrev tenTo (exponent : Nat) : Nat := Nat.pow 10 exponent

/-- Whether an integer has a form of 64 bits with a sign. -/
def isSigned64 (n : Int) : Bool := -(twoTo 63 : Int) ≤ n && n < (twoTo 63 : Int)

end Localizable
