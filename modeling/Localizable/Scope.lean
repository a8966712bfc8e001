import Localizable.Function.Number
import Localizable.Function.Term
import Localizable.Message

/-!
# Scopes

A scope is what a message is formatted in: a locale, the arguments of the caller,
the values declared so far, which hide arguments of the same name, and the
functions. Expressions resolve to values in a scope.
-/

namespace Localizable

structure Scope where
  locale : String
  arguments : Dictionary Value
  locals : Dictionary Value
  registry : Registry

namespace Scope

/-- A scope in which nothing is declared. -/
def ofArguments (locale : String) (arguments : Dictionary Value) (registry : Registry) : Scope :=
  ⟨locale, arguments, .empty, registry⟩

def language (scope : Scope) : String := languageOf scope.locale

/-- The value of a variable: what is declared under its name, or else the argument. -/
def valueOf (scope : Scope) (name : String) : Except FormatError Value :=
  match scope.locals.get? name with
  | some value => .ok value
  | none => match scope.arguments.get? name with
    | some value => .ok value
    | none => .error (.unknownVariable name)

/-- Declares a value, in place of an earlier one of the same name. -/
def bind (scope : Scope) (name : String) (value : Value) : Scope :=
  { scope with locals := scope.locals.insert name value }

/-- What a function or a value sees of a scope. It cannot tell what is declared from what is an argument. -/
def surroundings (scope : Scope) : Surroundings := ⟨scope.locale, scope.valueOf, scope.registry⟩

end Scope

/-! ## Resolving -/

variable [Host]

def Function.behaviour : Function → Behaviour
  | .number => Functions.number
  | .plural => Functions.plural
  | .equals => Functions.equals
  | .string => Functions.string
  | .term glossary => Functions.term glossary
  | .host label => Host.behaviour label

namespace Scope

/-- Calls a function from a message. -/
def call (scope : Scope) (function : Function) (operand : Option Value) (options : OptionValues) :
    Except FormatError Value :=
  function.behaviour scope.surroundings operand options

/-- The value of an operand. A literal is a text. -/
def resolveOperand (scope : Scope) : Operand → Except FormatError Value
  | .literal value => .ok (.text value)
  | .variable name => scope.valueOf name

/-- The values of options, the first failure in the order of their names standing for all. -/
def resolveOptions (scope : Scope) (options : Options) : Except FormatError OptionValues :=
  options.mapExcept scope.resolveOperand

/-- The value of a function that is found before its operand and its options are resolved. -/
def resolveCall (scope : Scope) (role : Role) (operand : Option Operand) (invocation : Invocation) :
    Except FormatError Value := do
  let function ← scope.registry.lookup role invocation.name
  let value ← operand.mapM scope.resolveOperand
  let options ← scope.resolveOptions invocation.options
  scope.call function value options

/-- The value of an expression, with functions looked up in a role. -/
def resolve (scope : Scope) (role : Role) : Expression → Except FormatError Value
  | .operand item none => scope.resolveOperand item
  | .operand item (some invocation) => scope.resolveCall role (some item) invocation
  | .call invocation => scope.resolveCall role none invocation

/-- Declares values in order, each in sight of those before it. At the first failure what has been
declared stays. -/
def declare (scope : Scope) : List Declaration → Scope × Except FormatError Unit
  | [] => (scope, .ok ())
  | declaration :: rest =>
    match scope.resolve .formatter declaration.expression with
    | .error error => (scope, .error error)
    | .ok value => (scope.bind declaration.name value).declare rest

end Scope
end Localizable
