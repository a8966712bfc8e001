import Localizable.Capability
import Localizable.Text.LetterCase

/-!
# Functions on texts

`:string` shows a value as text, and `:equals` and `:choose` select on a text.
-/

namespace Localizable

/-- What the `lettercase` option asks for. -/
inductive LetterCaseOption
  | capitalized
  | uppercase
  | lowercase
deriving DecidableEq, Repr

namespace LetterCaseOption

def ofName? : String → Option LetterCaseOption
  | "capitalized" => some .capitalized
  | "uppercase" => some .uppercase
  | "lowercase" => some .lowercase
  | _ => none

def change (option : LetterCaseOption) (text locale : String) : String :=
  match option with
  | .capitalized => Text.capitalize text locale
  | .uppercase => Text.uppercase text locale
  | .lowercase => Text.lowercase text locale

end LetterCaseOption

namespace Functions

/-- The text in the letter case that the options ask for. -/
def inLetterCase (function : String) (options : OptionValues) (text locale : String) : Except FormatError String :=
  match options.text function "lettercase" with
  | .error error => .error error
  | .ok none => .ok text
  | .ok (some name) => match LetterCaseOption.ofName? name with
    | some option => .ok (option.change text locale)
    | none => .error (.invalidArgument function (.unknownLetterCase name))

/-- `:string`, a formatter. -/
def string [Host] : Behaviour := fun surroundings operand options => do
  let text ← (← requireOperand "string" operand).formatText surroundings
  return .text (← inLetterCase "string" options text surroundings.locale)

/-- `:equals` and `:choose`, matchers. -/
def equals : Behaviour := fun _ operand _ =>
  match requireOperand "equals" operand with
  | .error error => .error error
  | .ok (.text text) => .ok (.text text)
  | .ok value => .error (.invalidArgument "equals" (.expectedText value.typeName))

end Functions
end Localizable
