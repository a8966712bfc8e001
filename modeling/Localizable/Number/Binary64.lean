import Localizable.Number.Rounding

/-!
# Numbers of 64 bits

The values of the binary format of 64 bits, each as the exact number that it stands
for. Every finite value is a whole number of units of `2 ^ (-1074)`.
-/

namespace Localizable

/-- A finite value without its sign, `significand * 2 ^ scale` units. Each value has one form: a
significand that leaves its top bit unused has scale zero. -/
structure Magnitude where
  significand : Nat
  scale : Nat
  significand_lt : significand < twoTo 53
  normal : scale = 0 ∨ twoTo 52 ≤ significand
  scale_le : scale ≤ 2045
deriving DecidableEq

/-- The number of units that make one. -/
def unitsPerOne : Nat := twoTo 1074

namespace Magnitude

/-- The value as a number of units. -/
def units (magnitude : Magnitude) : Nat := magnitude.significand * twoTo magnitude.scale

/-- The value of a significand and a scale in normal form. -/
def ofParts? (significand scale : Nat) : Option Magnitude :=
  if valid : significand < twoTo 53 ∧ (scale = 0 ∨ twoTo 52 ≤ significand) ∧ scale ≤ 2045 then
    some ⟨significand, scale, valid.1, valid.2.1, valid.2.2⟩
  else none

/-- The value nearest to a quotient, or nothing if that is beyond the largest finite one. -/
def nearest? (numerator denominator : Nat) : Option Magnitude :=
  match BinaryFormat.binary64.nearest? numerator denominator with
  | some (significand, scale) => ofParts? significand scale
  | none => none

def zero : Magnitude := ⟨0, 0, by decide, .inl rfl, by decide⟩

def isZero (magnitude : Magnitude) : Bool := magnitude.significand == 0

/-- The value, if it is an integer. -/
def natural? (magnitude : Magnitude) : Option Nat :=
  if magnitude.units % unitsPerOne = 0 then some (magnitude.units / unitsPerOne) else none

/-- The value in units of `10 ^ (-places)`, rounded to the nearest, a half to even. -/
def roundedTo (places : Nat) (magnitude : Magnitude) : Nat :=
  roundQuotient (magnitude.units * tenTo places) unitsPerOne

end Magnitude

/-- A value of the format: not a number, an infinity, or a signed finite value, zero among them. -/
inductive Binary64
  | nan
  | infinite (negative : Bool)
  | finite (negative : Bool) (magnitude : Magnitude)
deriving DecidableEq

namespace Binary64

/-- The value nearest to a quotient with a sign, an infinity beyond the largest finite one. -/
def ofQuotient (negative : Bool) (numerator denominator : Nat) : Binary64 :=
  match Magnitude.nearest? numerator denominator with
  | some magnitude => .finite negative magnitude
  | none => .infinite negative

/-- The value nearest to an integer. -/
def ofInt (n : Int) : Binary64 := ofQuotient (n < 0) n.natAbs 1

/-- The value nearest to a quotient among those of 32 bits. -/
def ofQuotientSingle (negative : Bool) (numerator denominator : Nat) : Binary64 :=
  match BinaryFormat.binary32.nearest? numerator denominator with
  | some (significand, scale) => ofQuotient negative (significand * twoTo scale) (twoTo BinaryFormat.binary32.depth)
  | none => .infinite negative

def isFinite : Binary64 → Bool
  | .finite _ _ => true
  | _ => false

/-- Whether two values are the same number: the two zeros are, and what is no number is not. -/
def sameNumber : Binary64 → Binary64 → Bool
  | .finite leftSign left, .finite rightSign right => (left == right) && (leftSign == rightSign || left.isZero)
  | .infinite left, .infinite right => left == right
  | _, _ => false

/-- The value, if it is an integer. -/
def integer? : Binary64 → Option Int
  | .finite negative magnitude => magnitude.natural?.map fun n => if negative then -(n : Int) else n
  | _ => none

/-- The bits of the format as a number: sign, exponent and significand from the top. -/
def bits : Binary64 → Nat
  | .nan => 0x7FF8000000000000
  | .infinite negative => signBit negative + 0x7FF0000000000000
  | .finite negative magnitude =>
    if magnitude.significand < twoTo 52 then signBit negative + magnitude.significand
    else signBit negative + magnitude.scale * twoTo 52 + magnitude.significand
where
  /-- The top bit, set for negative values. -/
  signBit (negative : Bool) : Nat := if negative then twoTo 63 else 0

end Binary64
end Localizable
