import Localizable.Part
import Localizable.Plural.Selection

/-!
# Values

What variables hold and functions return. Texts, numbers, plurals and objects are known
to the library; values of other types are the host's own.
-/

namespace Localizable

/-- A value of a type that the host adds: the name of the type, and a label that tells it from others of the type.
What such a value can do is for the host to say. -/
structure HostValue where
  typeName : String
  label : String
deriving DecidableEq, Repr

inductive Value
  | text (value : String)
  | number (number : Number)
  /-- A number that selects by its plural category. -/
  | plural (number : Number) (type : PluralType)
  | object (object : HostObject)
  | host (item : HostValue)
deriving DecidableEq

namespace Value

/-- The name of a value's type, as errors give it. -/
def typeName : Value → String
  | .text _ => "string"
  | .number _ => "number"
  | .plural _ _ => "plural"
  | .object _ => "opaque"
  | .host item => item.typeName

def text? : Value → Option String
  | .text value => some value
  | _ => none

def number? : Value → Option Number
  | .number n => some n
  | _ => none

def object? : Value → Option HostObject
  | .object item => some item
  | _ => none

end Value
end Localizable
