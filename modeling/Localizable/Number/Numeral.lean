import Localizable.Number.Binary64

/-!
# Numerals

The written form of a number: an optional sign and either digits with an optional
point and an optional exponent, at least one digit in front of the exponent, or a
word for an infinity or for no number. A numeral stands for an exact decimal, which
is then rounded once.
-/

namespace Localizable

/-- What a numeral says. -/
inductive Numeral
  | nan
  | infinity (negative : Bool)
  /-- The digits read as an integer, times ten to the exponent. -/
  | decimal (negative : Bool) (digits : Nat) (exponent : Int)
deriving DecidableEq, Repr

namespace Numeral

/-- Takes a sign off a text and tells whether it was a minus sign. -/
def takeSign : List Char → Bool × List Char
  | '-' :: rest => (true, rest)
  | '+' :: rest => (false, rest)
  | text => (false, text)

/-- Reads a non-empty text of decimal digits. -/
def natural? (text : List Char) : Option Nat :=
  if text ≠ [] ∧ text.all Char.isDigit then some (Nat.ofDigitChars 10 text 0) else none

/-- Reads what stands behind the digits: nothing, or an exponent. -/
def exponent? : List Char → Option Int
  | [] => some 0
  | mark :: rest =>
    if mark = 'e' ∨ mark = 'E' then
      let (negative, digits) := takeSign rest
      (natural? digits).map fun n => if negative then -(n : Int) else n
    else none

/-- Reads a numeral without its sign, if it is not a word. -/
def decimal? (negative : Bool) (text : List Char) : Option Numeral :=
  let whole := text.takeWhile Char.isDigit
  let behindWhole := text.dropWhile Char.isDigit
  let (fraction, rest) := match behindWhole with
    | '.' :: later => (later.takeWhile Char.isDigit, later.dropWhile Char.isDigit)
    | _ => ([], behindWhole)
  if whole ++ fraction = [] then none
  else (exponent? rest).map fun exponent =>
    .decimal negative (Nat.ofDigitChars 10 (whole ++ fraction) 0) (exponent - fraction.length)

/-- Reads a numeral. The words are `inf`, `infinity` and `nan` in letters of either case. -/
def parse? (text : List Char) : Option Numeral :=
  let (negative, body) := takeSign text
  let word := body.map Char.toLower
  if word = "inf".toList ∨ word = "infinity".toList then some (.infinity negative)
  else if word = "nan".toList then some .nan
  else decimal? negative body

/-! ## Values -/

/-- Beyond this number of digits in front of the point a decimal exceeds every finite value, and with
as many zeros behind the point it is nearer to zero than to any other value. -/
def extent : Int := 400

/-- Rounds a decimal, given how its exact quotient is rounded. -/
def roundDecimal (round : Bool → Nat → Nat → Binary64) (negative : Bool) (digits : Nat) (exponent : Int) : Binary64 :=
  let size := (Nat.toDigits 10 digits).length + exponent
  if digits = 0 ∨ size < -extent then .finite negative .zero
  else if extent < size then .infinite negative
  else round negative (digits * tenTo exponent.toNat) (tenTo (-exponent).toNat)

/-- The value of a numeral, given how an exact quotient is rounded. -/
def valueWith (round : Bool → Nat → Nat → Binary64) : Numeral → Binary64
  | .nan => .nan
  | .infinity negative => .infinite negative
  | .decimal negative digits exponent => roundDecimal round negative digits exponent

/-- The value of 64 bits nearest to a numeral. -/
def value : Numeral → Binary64 := valueWith Binary64.ofQuotient

/-- The value of 32 bits nearest to a numeral. -/
def singleValue : Numeral → Binary64 := valueWith Binary64.ofQuotientSingle

end Numeral

/-- Reads a number from its whole text. -/
def Binary64.parse? (text : List Char) : Option Binary64 := (Numeral.parse? text).map Numeral.value

end Localizable
