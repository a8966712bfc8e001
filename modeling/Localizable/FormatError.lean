import Localizable.SourceError

/-!
# Errors of formatting

Everything that can go wrong while a message is formatted, with its wording. The
first error ends the formatting and no output is kept.
-/

namespace Localizable

/-- What is wrong with the operand or an option of a function. -/
inductive ArgumentFault
  | notNumeric (text : String)
  | expectedNumber (typeName : String)
  | notDecimal (digits : String)
  | unknownPluralType (name : String)
  | expectedText (typeName : String)
  | expectedTermName (typeName : String)
  | unknownForm (term form : String)
  | unknownLetterCase (name : String)
  | optionNotText (option typeName : String)
  | optionNotCount (option : String)
  /-- A fault in the words of a function of the host. -/
  | other (message : String)
deriving DecidableEq, Repr

def ArgumentFault.message : ArgumentFault → String
  | .notNumeric text => "'" ++ text ++ "' is not a number"
  | .expectedNumber typeName => "expected a number, got " ++ typeName
  | .notDecimal digits => "'" ++ digits ++ "' is not a decimal number"
  | .unknownPluralType name => "unknown plural type '" ++ name ++ "'"
  | .expectedText typeName => "expected a string, got " ++ typeName
  | .expectedTermName typeName => "expected a term name, got " ++ typeName
  | .unknownForm term form => "term '" ++ term ++ "' has no form '" ++ form ++ "'"
  | .unknownLetterCase name => "unknown lettercase '" ++ name ++ "'"
  | .optionNotText option typeName => "option '" ++ option ++ "' must be a string, got " ++ typeName
  | .optionNotCount option => "option '" ++ option ++ "' must be a non-negative integer"
  | .other message => message

inductive FormatError
  /-- No function of this name plays the role that is asked for. -/
  | unknownFunction (name : String) (suggestions : List String)
  /-- A variable is neither declared nor an argument. -/
  | unknownVariable (name : String)
  /-- The glossary has no such term for the locale. -/
  | unknownTerm (term locale : String)
  /-- A value that only selects stands in a pattern. -/
  | notFormattable (typeName : String)
  /-- A value that cannot select stands in a selector. -/
  | notMatchable (typeName : String)
  | missingOperand (function : String)
  | invalidArgument (function : String) (fault : ArgumentFault)
  | optionOutOfRange (function option : String) (value max : Nat)
  /-- Every variant has a key that does not match. -/
  | noVariantMatched
  /-- The locale is no language tag. -/
  | unsupportedLocale (locale : String)
deriving DecidableEq, Repr

namespace FormatError

def kind : FormatError → ErrorKind
  | .unknownFunction _ _ => .reference
  | .unknownVariable _ => .reference
  | .unknownTerm _ _ => .reference
  | .notFormattable _ => .type
  | .notMatchable _ => .type
  | .missingOperand _ => .type
  | .invalidArgument _ _ => .type
  | .optionOutOfRange _ _ _ _ => .range
  | .noVariantMatched => .range
  | .unsupportedLocale _ => .range

/-- The suggestions behind a name that is unknown, if there are any. -/
def didYouMean : List String → String
  | [] => ""
  | suggestions => "; did you mean: " ++ ", ".intercalate suggestions ++ "?"

def message : FormatError → String
  | .unknownFunction name suggestions => "unknown function ':" ++ name ++ "'" ++ didYouMean suggestions
  | .unknownVariable name => "unknown variable '$" ++ name ++ "'"
  | .unknownTerm term locale => "unknown term '" ++ term ++ "' in locale '" ++ locale ++ "'"
  | .notFormattable typeName => "a value of type '" ++ typeName ++ "' cannot be formatted"
  | .notMatchable typeName => "a value of type '" ++ typeName ++ "' cannot be used as a selector"
  | .missingOperand function => "function ':" ++ function ++ "' requires an operand"
  | .invalidArgument function fault => "invalid argument to ':" ++ function ++ "': " ++ fault.message
  | .optionOutOfRange function option value max =>
    "option '" ++ option ++ "' of ':" ++ function ++ "' must be at most " ++ toString max ++ ", got " ++ toString value
  | .noVariantMatched => "No variant matched the selectors."
  | .unsupportedLocale locale => "unsupported locale '" ++ locale ++ "'"

end FormatError
end Localizable
