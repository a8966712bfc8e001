import Localizable.FormatError
import Localizable.Plural.Cardinal
import Localizable.Plural.Ordinal

/-!
# Plural categories of locales

The category of a number in a locale, and a memory of the rules of locales that
have been asked for. The digits are checked before the locale.
-/

namespace Localizable

/-- The rules of a tag for counting or for numbering places. -/
def pluralRules (type : PluralType) (tag : LanguageTag) : List PluralRule :=
  let table := match type with
    | .cardinal => cardinalRules
    | .ordinal => ordinalRules
  match PluralLanguages.languageFor? tag with
  | some language => PluralLanguages.rulesOf table language
  | none => []

/-- The rules of a locale, which has to be a language tag. -/
def pluralRulesOf (locale : String) (type : PluralType) : Except FormatError (List PluralRule) :=
  match LanguageTag.parse? locale with
  | some tag => .ok (pluralRules type tag)
  | none => .error (.unsupportedLocale locale)

/-- The operands of an input, whose digits have to be a decimal. -/
def PluralInput.operands : PluralInput → Except FormatError PluralOperands
  | .integer n => .ok (.ofNat n.natAbs)
  | .decimal digits => match PluralOperands.parse? digits.toList with
    | some operands => .ok operands
    | none => .error (.invalidArgument "plural" (.notDecimal digits))

/-- The category of a number in a locale. -/
def pluralCategory (locale : String) (type : PluralType) (input : PluralInput) : Except FormatError PluralCategory :=
  match input.operands with
  | .error error => .error error
  | .ok operands => match pluralRulesOf locale type with
    | .error error => .error error
    | .ok rules => .ok (.ofRules rules operands)

/-! ## Remembered rules -/

/-- Rules by locale and type, in the order in which they were first asked for. -/
abbrev PluralMemory := List ((String × PluralType) × List PluralRule)

namespace PluralMemory

def remembered? (memory : PluralMemory) (locale : String) (type : PluralType) : Option (List PluralRule) :=
  (memory.find? fun (key, _) => key == (locale, type)).map (·.2)

/-- The category of a number in a locale, with the rules looked up in the memory first. Rules that had to
be found are remembered; a failure leaves the memory as it was. -/
def category (memory : PluralMemory) (locale : String) (type : PluralType) (input : PluralInput) :
    Except FormatError PluralCategory × PluralMemory :=
  match input.operands with
  | .error error => (.error error, memory)
  | .ok operands => match memory.remembered? locale type with
    | some rules => (.ok (.ofRules rules operands), memory)
    | none => match pluralRulesOf locale type with
      | .error error => (.error error, memory)
      | .ok rules => (.ok (.ofRules rules operands), memory ++ [((locale, type), rules)])

end PluralMemory
end Localizable
