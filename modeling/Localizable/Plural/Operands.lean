import Localizable.Plural.Input

/-!
# Operands of plural rules

Plural rules look at a number through its displayed digits: all of its integer
digits, however many there are, and the first few of its fraction digits.
-/

namespace Localizable

/-- The displayed digits of a number, sign ignored. -/
structure PluralOperands where
  /-- The integer digits as a number. -/
  integer : Nat
  /-- The number of fraction digits. -/
  fractionDigits : Nat
  /-- The number of fraction digits up to the last one that is not zero. -/
  significantDigits : Nat
  /-- The fraction digits as a number. -/
  fraction : Nat
  /-- The fraction digits up to the last one that is not zero, as a number. -/
  significant : Nat
deriving DecidableEq, Repr

namespace PluralOperands

def ofNat (n : Nat) : PluralOperands := ⟨n, 0, 0, 0, 0⟩

/-- The operands of integer and fraction digits. -/
def ofDigits (integer fraction : List Char) : PluralOperands :=
  let significant := (fraction.reverse.dropWhile (· == '0')).reverse
  { integer := Nat.ofDigitChars 10 integer 0
    fractionDigits := fraction.length
    significantDigits := significant.length
    fraction := Nat.ofDigitChars 10 fraction 0
    significant := Nat.ofDigitChars 10 significant 0 }

/-- Fraction digits behind this many have no say in the category. -/
def countedFraction : Nat := 18

/-- The operands of digits with the point behind the first `point` of them, which may lie outside. -/
def ofPoint (digits : List Char) (point : Int) : PluralOperands :=
  ofDigits (digits.take point.toNat ++ List.replicate (point - digits.length).toNat '0')
    ((List.replicate (-point).toNat '0' ++ digits.drop point.toNat).take countedFraction)

/-- Reads an exponent of ten: an optional minus sign and digits, of 16 bits. -/
def exponent? (text : List Char) : Option Int :=
  let (negative, digits) := match text with
    | '-' :: rest => (true, rest)
    | _ => (false, text)
  if digits = [] ∨ !digits.all Char.isDigit then none
  else
    let n : Int := Nat.ofDigitChars 10 digits 0
    let exponent := if negative then -n else n
    if -32768 ≤ exponent ∧ exponent < 32768 then some exponent else none

/-- Reads digits with an optional fraction and an optional exponent of ten. A point does not end the text. -/
def parse? (text : List Char) : Option PluralOperands :=
  let whole := text.takeWhile Char.isDigit
  let behindWhole := text.dropWhile Char.isDigit
  let (fraction, rest, complete) := match behindWhole with
    | '.' :: later =>
      let fraction := later.takeWhile Char.isDigit
      (fraction, later.dropWhile Char.isDigit, !later.isEmpty)
    | _ => ([], behindWhole, !whole.isEmpty)
  let exponent := match rest with
    | [] => some 0
    | mark :: later => if mark = 'e' ∨ mark = 'E' then exponent? later else none
  if complete then exponent.map fun n => ofPoint (whole ++ fraction) (whole.length + n) else none

end PluralOperands

end Localizable
