import Localizable.Function.Text

/-!
# The function on terms

`:term` shows a form of a term that the operand names, in the language of the
message.
-/

namespace Localizable

namespace Functions

/-- The form shown unless another one is asked for. -/
def canonicalForm : String := "canonical"

/-- The name of a term. -/
def termName : Value → Except FormatError String
  | .text name => .ok name
  | value => .error (.invalidArgument "term" (.expectedTermName value.typeName))

/-- The forms of a term for a locale. -/
def termForms (glossary : Glossary) (locale name : String) : Except FormatError TermForms :=
  match glossary.lookup locale name with
  | some forms => .ok forms
  | none => .error (.unknownTerm name locale)

/-- The form of a term that the options ask for. -/
def termText (name : String) (forms : TermForms) (options : OptionValues) : Except FormatError String :=
  match options.text "term" "form" with
  | .error error => .error error
  | .ok asked => match forms.get? (asked.getD canonicalForm) with
    | some text => .ok text
    | none => .error (.invalidArgument "term" (.unknownForm name (asked.getD canonicalForm)))

/-- `:term`, a formatter over a glossary. -/
def term (glossary : Glossary) : Behaviour := fun surroundings operand options => do
  let name ← termName (← requireOperand "term" operand)
  let forms ← termForms glossary surroundings.locale name
  let text ← termText name forms options
  return .text (← inLetterCase "term" options text surroundings.locale)

end Functions
end Localizable
