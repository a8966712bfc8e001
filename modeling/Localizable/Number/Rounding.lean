import Localizable.Number.Power

/-!
# Rounding quotients

`roundQuotient` rounds a quotient of natural numbers to the nearest integer, a half
to the even neighbour. `BinaryFormat.nearest?` rounds it to the nearest value of
a binary floating-point format by the same rule.
-/

namespace Localizable

/-- The integer nearest to a quotient; of two equally near ones the even one. -/
def roundQuotient (numerator denominator : Nat) : Nat :=
  if 2 * (numerator % denominator) < denominator
      ∨ (2 * (numerator % denominator) = denominator ∧ numerator / denominator % 2 = 0) then
    numerator / denominator
  else numerator / denominator + 1

/-- The rounded quotient is within half a unit of the exact one. -/
theorem roundQuotient_near (numerator : Nat) {denominator : Nat} (positive : 0 < denominator) :
    2 * (roundQuotient numerator denominator * denominator) ≤ 2 * numerator + denominator
      ∧ 2 * numerator ≤ 2 * (roundQuotient numerator denominator * denominator) + denominator := by
  have whole : denominator * (numerator / denominator) + numerator % denominator = numerator :=
    Nat.div_add_mod numerator denominator
  have below : numerator % denominator < denominator := Nat.mod_lt _ positive
  have order := Nat.mul_comm (numerator / denominator) denominator
  unfold roundQuotient
  split
  · omega
  · rw [Nat.add_mul, Nat.one_mul]; omega

/-- A quotient without rest is its own rounding. -/
theorem roundQuotient_mul (n : Nat) {denominator : Nat} (positive : 0 < denominator) :
    roundQuotient (n * denominator) denominator = n := by
  simp [roundQuotient, Nat.mul_div_cancel _ positive, Nat.mul_mod_left, positive]

/-- Half way between two integers the even one is taken. -/
theorem roundQuotient_half_even {numerator denominator : Nat} (half : 2 * (numerator % denominator) = denominator) :
    roundQuotient numerator denominator % 2 = 0 := by
  unfold roundQuotient
  split <;> omega

/-! ## Binary formats -/

/-- A binary floating-point format: its values are `significand * 2 ^ scale` units of
`2 ^ (-depth)`, the significand of at most `precision` bits and the scale at most `maxScale`. -/
structure BinaryFormat where
  precision : Nat
  depth : Nat
  maxScale : Nat
deriving DecidableEq, Repr

namespace BinaryFormat

/-- The format of 64 bits. -/
def binary64 : BinaryFormat := ⟨53, 1074, 2045⟩

/-- The format of 32 bits. -/
def binary32 : BinaryFormat := ⟨24, 149, 253⟩

/-- The value nearest to a quotient, as a significand and a scale, or nothing if that value is
beyond the largest one of the format. -/
def nearest? (format : BinaryFormat) (numerator denominator : Nat) : Option (Nat × Nat) :=
  let units := numerator * twoTo format.depth
  let scale := (units / denominator).log2 + 1 - format.precision
  let significand := roundQuotient units (denominator * twoTo scale)
  let (significand, scale) :=
    if significand = twoTo format.precision then (twoTo (format.precision - 1), scale + 1) else (significand, scale)
  if scale ≤ format.maxScale then some (significand, scale) else none

end BinaryFormat
end Localizable
