import Localizable.Host

/-!
# What values can do

A value may be shown, may select between variants, or may do both or neither.
-/

namespace Localizable

namespace Value

variable [Host]

/-- Whether a value may stand in a pattern. -/
def isFormattable : Value → Bool
  | .text _ => true
  | .number _ => true
  | .plural _ _ => false
  | .object _ => true
  | .host item => (Host.showing item).isSome

/-- The value as text. An object has no text. -/
def formatText : Value → Surroundings → Except FormatError String
  | .text value, _ => .ok value
  | .number n, _ => .ok n.text
  | .plural n type, _ => .error (.notFormattable (plural n type).typeName)
  | .object item, _ => .error (.notFormattable (object item).typeName)
  | .host item, surroundings => match Host.showing item with
    | some showing => showing.text surroundings
    | none => .error (.notFormattable item.typeName)

/-- The value as parts. An object is one part, itself. -/
def formatParts : Value → Surroundings → Except FormatError (List Part)
  | .text value, _ => .ok [.literal value]
  | .number n, _ => .ok n.parts
  | .plural n type, _ => .error (.notFormattable (plural n type).typeName)
  | .object item, _ => .ok [.object item]
  | .host item, surroundings => match Host.showing item with
    | some showing => showing.parts surroundings
    | none => .error (.notFormattable item.typeName)

/-- Whether a value may stand in a selector. -/
def isMatchable : Value → Bool
  | .text _ => true
  | .number _ => true
  | .plural _ _ => true
  | .object _ => false
  | .host item => (Host.matching item).isSome

/-- Whether a key names a value: a text by being equal, a number by being a numeral for it. A plural
may also be named by its category in the locale, which is looked up only if it is no such numeral. -/
def isMatchedBy (surroundings : Surroundings) (key : String) : Value → Except FormatError Bool
  | .text value => .ok (value == key)
  | .number n => .ok (n.matchesKey key)
  | .plural n type =>
    if n.matchesKey key then .ok true
    else (pluralCategory surroundings.locale type n.pluralInput).map fun category => category.name == key
  | .object item => .error (.notMatchable (object item).typeName)
  | .host item => match Host.matching item with
    | some names => names surroundings key
    | none => .error (.notMatchable item.typeName)

end Value
end Localizable
