import Localizable.Scope

/-!
# Selecting a variant

Selectors are resolved once and in order. The first variant whose keys all name the
values of their selectors is selected, and keys are tried no further than one that
does not.
-/

namespace Localizable

variable [Host]

/-- Whether a key names a value. -/
def Key.names (key : Key) (surroundings : Surroundings) (value : Value) : Except FormatError Bool :=
  match key with
  | .any => .ok true
  | .literal text => value.isMatchedBy surroundings text

/-- Whether each key names the value at its place. Keys or values without a counterpart play no part. -/
def keysName (surroundings : Surroundings) : List Key → List Value → Except FormatError Bool
  | key :: keys, value :: values =>
    match key.names surroundings value with
    | .error error => .error error
    | .ok false => .ok false
    | .ok true => keysName surroundings keys values
  | _, _ => .ok true

/-- A variant and its place among the variants of its message. -/
structure Selection where
  index : Nat
  variant : Variant
deriving DecidableEq, Repr

/-- The first variant that the values select, counting from an index. -/
def selectFrom (surroundings : Surroundings) (values : List Value) (index : Nat) :
    List Variant → Except FormatError Selection
  | [] => .error .noVariantMatched
  | variant :: rest =>
    match keysName surroundings variant.keys values with
    | .error error => .error error
    | .ok true => .ok ⟨index, variant⟩
    | .ok false => selectFrom surroundings values (index + 1) rest

namespace Scope

/-- The value of a selector, which has to be one that can select. -/
def resolveSelector (scope : Scope) (selector : Expression) : Except FormatError Value :=
  match scope.resolve .matcher selector with
  | .error error => .error error
  | .ok value => if value.isMatchable then .ok value else .error (.notMatchable value.typeName)

/-- The variant that a message renders. -/
def select (scope : Scope) (message : Message) : Except FormatError Selection := do
  let values ← message.selectors.mapM scope.resolveSelector
  selectFrom scope.surroundings values 0 message.variants

end Scope
end Localizable
