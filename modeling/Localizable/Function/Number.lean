import Localizable.Host

/-!
# Functions on numbers

`:number` shows a number, and `:plural` selects on one. Both lay digit options over
those that the number has, since digits that are shown have a say in the plural
category.
-/

namespace Localizable

namespace Functions

/-- The number of a value: itself, the one that a plural holds, or the one that a text spells. -/
def numberOf (function : String) : Value → Except FormatError Number
  | .number n => .ok n
  | .plural n _ => .ok n
  | .text text => match Number.parse? text with
    | some number => .ok number
    | none => .error (.invalidArgument function (.notNumeric text))
  | value => .error (.invalidArgument function (.expectedNumber value.typeName))

/-- A digit option, which has an upper limit. -/
def digitOption (function : String) (options : OptionValues) (name : String) : Except FormatError (Option Nat) :=
  match options.count function name with
  | .error error => .error error
  | .ok none => .ok none
  | .ok (some n) =>
    if n ≤ NumberOptions.maxDigits then .ok (some n)
    else .error (.optionOutOfRange function name n NumberOptions.maxDigits)

def digitOptions (function : String) (options : OptionValues) : Except FormatError NumberOptions := do
  let minimumIntegerDigits ← digitOption function options "minimumIntegerDigits"
  let minimumFractionDigits ← digitOption function options "minimumFractionDigits"
  let maximumFractionDigits ← digitOption function options "maximumFractionDigits"
  return ⟨minimumIntegerDigits, minimumFractionDigits, maximumFractionDigits⟩

/-- `:number`, a formatter. -/
def number : Behaviour := fun _ operand options => do
  let value ← numberOf "number" (← requireOperand "number" operand)
  let digits ← digitOptions "number" options
  return .number (value.withOptions digits)

/-- The `type` option of `:plural`. -/
def pluralType (options : OptionValues) : Except FormatError PluralType :=
  match options.text "plural" "type" with
  | .error error => .error error
  | .ok none => .ok .cardinal
  | .ok (some name) => match PluralType.ofName? name with
    | some type => .ok type
    | none => .error (.invalidArgument "plural" (.unknownPluralType name))

/-- `:plural`, a matcher. -/
def plural : Behaviour := fun _ operand options => do
  let value ← numberOf "plural" (← requireOperand "plural" operand)
  let type ← pluralType options
  let digits ← digitOptions "plural" options
  return .plural (value.withOptions digits) type

end Functions
end Localizable
