import Localizable.Selection

/-!
# Rendering messages

A message is rendered as text or as parts: its values are declared, a variant is
selected, and the elements of its pattern are rendered in order. Markup has no
text.
-/

namespace Localizable

namespace Scope

variable [Host]

/-- The text of an element. -/
def elementText (scope : Scope) : Element → Except FormatError String
  | .text value => .ok value
  | .expression expression => do (← scope.resolve .formatter expression).formatText scope.surroundings
  | .markupOpen _ _ => .ok ""
  | .markupClose _ => .ok ""

/-- The parts of an element. The options of markup are shown as text. -/
def elementParts (scope : Scope) : Element → Except FormatError (List Part)
  | .text value => .ok [.literal value]
  | .expression expression => do (← scope.resolve .formatter expression).formatParts scope.surroundings
  | .markupOpen name options => do
    let values ← scope.resolveOptions options
    return [.markupOpen name (← values.mapExcept (·.formatText scope.surroundings))]
  | .markupClose name => .ok [.markupClose name]

def patternText (scope : Scope) : Pattern → Except FormatError String
  | [] => .ok ""
  | element :: rest => do
    let first ← scope.elementText element
    return first ++ (← scope.patternText rest)

def patternParts (scope : Scope) : Pattern → Except FormatError (List Part)
  | [] => .ok []
  | element :: rest => do
    let first ← scope.elementParts element
    return first ++ (← scope.patternParts rest)

/-- Declares the values of a message and selects a variant, in the scope that follows. -/
def enter (scope : Scope) (message : Message) : Scope × Except FormatError Selection :=
  match scope.declare message.declarations with
  | (entered, .error error) => (entered, .error error)
  | (entered, .ok ()) => (entered, entered.select message)

/-- The text of a message, and the scope with what it declares. -/
def messageText (scope : Scope) (message : Message) : Scope × Except FormatError String :=
  match scope.enter message with
  | (entered, .error error) => (entered, .error error)
  | (entered, .ok selection) => (entered, entered.patternText selection.variant.pattern)

/-- The parts of a message, and the scope with what it declares. -/
def messageParts (scope : Scope) (message : Message) : Scope × Except FormatError (List Part) :=
  match scope.enter message with
  | (entered, .error error) => (entered, .error error)
  | (entered, .ok selection) => (entered, entered.patternParts selection.variant.pattern)

end Scope
end Localizable
