import Localizable.Number.Numeral
import Localizable.Plural.Input
import Localizable.Text.Blank

/-!
# Numbers with digit options

A number is shown the same way in every locale: an optional minus sign, integer
digits, and a point with fraction digits if there are any. Options set how many
digits are shown at least and at most.
-/

namespace Localizable
open Text

/-- How many digits to show; what is unset has a default. -/
structure NumberOptions where
  minimumIntegerDigits : Option Nat
  minimumFractionDigits : Option Nat
  maximumFractionDigits : Option Nat
deriving DecidableEq, Repr

namespace NumberOptions

def unset : NumberOptions := ⟨none, none, none⟩

/-- These options, each replaced where `later` sets it. -/
def merge (options later : NumberOptions) : NumberOptions where
  minimumIntegerDigits := later.minimumIntegerDigits.or options.minimumIntegerDigits
  minimumFractionDigits := later.minimumFractionDigits.or options.minimumFractionDigits
  maximumFractionDigits := later.maximumFractionDigits.or options.maximumFractionDigits

/-- No option goes beyond this number of digits. -/
def maxDigits : Nat := 100

/-- The number of integer digits shown at least, one if unset. -/
def integerDigits (options : NumberOptions) : Nat := min (options.minimumIntegerDigits.getD 1) maxDigits

/-- The number of fraction digits shown at least, none if unset. -/
def leastFraction (options : NumberOptions) : Nat := min (options.minimumFractionDigits.getD 0) maxDigits

/-- The number of fraction digits that a number is rounded to, three if unset and never fewer than
are shown at least. -/
def mostFraction (options : NumberOptions) : Nat :=
  min (max (options.maximumFractionDigits.getD 3) options.leastFraction) maxDigits

end NumberOptions

/-- A number with its digit options. -/
structure Number where
  value : Binary64
  options : NumberOptions
deriving DecidableEq

/-- The digits of a shown number. -/
structure Digits where
  negative : Bool
  integer : List Char
  fraction : List Char
deriving DecidableEq, Repr

namespace Digits

/-- Puts zeros in front up to a width. -/
def padInteger (width : Nat) (digits : List Char) : List Char :=
  List.replicate (width - digits.length) '0' ++ digits

/-- Puts zeros behind up to a width. -/
def padFraction (width : Nat) (digits : List Char) : List Char :=
  digits ++ List.replicate (width - digits.length) '0'

/-- Takes the zeros off the end. -/
def trimZeros (digits : List Char) : List Char := (digits.reverse.dropWhile (· == '0')).reverse

/-- The digits of a value that has been rounded to units of `10 ^ (-places)`. -/
def ofRounded (negative : Bool) (options : NumberOptions) (rounded : Nat) : Digits :=
  let places := options.mostFraction
  let whole := Nat.toDigits 10 (rounded / tenTo places)
  let part := if places = 0 then [] else padInteger places (Nat.toDigits 10 (rounded % tenTo places))
  { negative := negative && rounded != 0
    integer := padInteger options.integerDigits whole
    fraction := padFraction options.leastFraction (trimZeros part) }

/-- The text of the digits. -/
def text (digits : Digits) : List Char :=
  (if digits.negative then ['-'] else []) ++ digits.integer
    ++ (if digits.fraction.isEmpty then [] else '.' :: digits.fraction)

/-- The integer that digits spell, if it has 64 bits. -/
def signed64? (digits : List Char) : Option Nat :=
  (Numeral.natural? digits).bind fun n => if n < twoTo 63 then some n else none

/-- The digits as plural rules see them. -/
def pluralInput (digits : Digits) : PluralInput :=
  if digits.fraction ≠ [] then .decimal (String.ofList (digits.integer ++ '.' :: digits.fraction))
  else match signed64? digits.integer with
    | some n => .integer (if digits.negative then -(n : Int) else n)
    | none => .decimal (String.ofList digits.integer)

end Digits

namespace Number

def ofValue (value : Binary64) : Number := ⟨value, .unset⟩

/-- The number nearest to an integer. -/
def ofInt (n : Int) : Number := ofValue (.ofInt n)

/-- Reads a finite number from a text with blank characters around it. -/
def parse? (text : String) : Option Number :=
  match Binary64.parse? (trimBlank text.toList) with
  | some value => if value.isFinite then some (ofValue value) else none
  | none => none

/-- The number with options laid over its own. -/
def withOptions (number : Number) (options : NumberOptions) : Number :=
  { number with options := number.options.merge options }

/-- The digits that are shown. -/
def digits (number : Number) : Digits :=
  match number.value with
  | .nan => ⟨false, "NaN".toList, []⟩
  | .infinite negative => ⟨negative, ['∞'], []⟩
  | .finite negative magnitude =>
    .ofRounded negative number.options (magnitude.roundedTo number.options.mostFraction)

/-- The number as it is shown. -/
def text (number : Number) : String := String.ofList number.digits.text

def pluralInput (number : Number) : PluralInput := number.digits.pluralInput

/-- The number as an integer of 64 bits. The upper end of the range counts as the largest such integer. -/
def integer? (number : Number) : Option Int :=
  match number.value.integer? with
  | some n =>
    if isSigned64 n then some n
    else if n = (twoTo 63 : Int) then some (n - 1)
    else none
  | none => none

/-- Whether a key is a numeral for this number. -/
def matchesKey (number : Number) (key : String) : Bool :=
  match Binary64.parse? key.toList with
  | some value => value.sameNumber number.value
  | none => false

end Number
end Localizable
