import Localizable.Glossary
import Localizable.Value

/-!
# Functions

A function turns an operand, which may be missing, and options into a value. Those of
the library are known by what they are, and those that the host adds by a label.
-/

namespace Localizable

inductive Function
  | number
  | plural
  | equals
  | string
  /-- The function on the terms of a glossary. -/
  | term (glossary : Glossary)
  | host (label : String)
deriving DecidableEq

/-- The operand of a function that needs one. -/
def requireOperand (function : String) : Option Value → Except FormatError Value
  | some value => .ok value
  | none => .error (.missingOperand function)

/-! ## Options -/

/-- Options with their values. -/
abbrev OptionValues := Dictionary Value

/-- The number of at most 64 bits that digits spell, with or without a plus sign. -/
def Value.countOfText? (text : String) : Option Nat :=
  let digits := match text.toList with
    | '+' :: rest => rest
    | all => all
  (Numeral.natural? digits).bind fun n => if n < twoTo 64 then some n else none

/-- A value that counts something: digits, or a number that is whole and not negative. -/
def Value.count? : Value → Option Nat
  | .text digits => countOfText? digits
  | .number n => n.integer?.bind Int.toNat?
  | _ => none

namespace OptionValues

/-- A text option. -/
def text (options : OptionValues) (function name : String) : Except FormatError (Option String) :=
  match options.get? name with
  | none => .ok none
  | some value => match value.text? with
    | some text => .ok (some text)
    | none => .error (.invalidArgument function (.optionNotText name value.typeName))

/-- An option that counts something. -/
def count (options : OptionValues) (function name : String) : Except FormatError (Option Nat) :=
  match options.get? name with
  | none => .ok none
  | some value => match value.count? with
    | some n => .ok (some n)
    | none => .error (.invalidArgument function (.optionNotCount name))

end OptionValues
end Localizable
