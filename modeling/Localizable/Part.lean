import Localizable.Document
import Localizable.Number

/-!
# Parts of structured output

Structured output is a list of typed texts, markup and objects of the host. An
object passes through formatting untouched and is known by its identity alone.
-/

namespace Localizable

/-- An object of the host program: which one it is, and what it holds. -/
structure HostObject where
  identity : Nat
  payload : String
deriving Repr, DecidableEq

namespace HostObject

/-- Objects are the same if they are one object, whatever they hold. -/
def isSame (left right : HostObject) : Bool := left.identity == right.identity

/-- How an object shows itself to someone who debugs. -/
def debugText (_ : HostObject) : String := "Opaque(..)"

end HostObject

inductive Part
  | text (kind value : String)
  | object (object : HostObject)
  | markupOpen (name : String) (options : Dictionary String)
  | markupClose (name : String)
deriving Repr, DecidableEq

namespace Part

/-- Plain text of a pattern or of a value. -/
def literal (value : String) : Part := .text "literal" value

/-- The name of a part's type. -/
def kind : Part → String
  | .text kind _ => kind
  | .object _ => "opaque"
  | .markupOpen _ _ => "markupOpen"
  | .markupClose _ => "markupClose"

/-- The text of a text part. -/
def value? : Part → Option String
  | .text _ value => some value
  | _ => none

/-- Whether two parts are equal, objects by their identity. -/
def isSame : Part → Part → Bool
  | .object left, .object right => left.isSame right
  | .object _, _ => false
  | _, .object _ => false
  | left, right => left == right

def document (part : Part) : Document :=
  let content := match part with
    | .text _ value => [("value", .text value)]
    | .object _ => [("value", .null)]
    | .markupOpen name options => [("name", .text name), ("options", .ofDictionary .text options)]
    | .markupClose name => [("name", .text name)]
  .record (("type", .text part.kind) :: content)

end Part

/-- The parts of a shown number: its sign, its integer digits, the point and its fraction digits. -/
def Digits.parts (digits : Digits) : List Part :=
  (if digits.negative then [.text "minusSign" "-"] else [])
    ++ .text "integer" (String.ofList digits.integer)
    :: (if digits.fraction.isEmpty then []
      else [.text "decimal" ".", .text "fraction" (String.ofList digits.fraction)])

def Number.parts (number : Number) : List Part := number.digits.parts

end Localizable
