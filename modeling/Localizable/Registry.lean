import Localizable.Function
import Localizable.Suggestion
import Localizable.Text.Quoted

/-!
# Registries of functions

A registry has two tables, of formatters for patterns and declarations and of
matchers for selectors. A name may be in either, with functions that have nothing
to do with each other.
-/

namespace Localizable

/-- What a function is used for: what stands in a pattern or a declaration, or what stands in a selector. -/
inductive Role
  | formatter
  | matcher
deriving DecidableEq, Repr

structure Registry where
  formatters : Dictionary Function
  matchers : Dictionary Function

namespace Registry

def empty : Registry := ⟨.empty, .empty⟩

def table (registry : Registry) : Role → Dictionary Function
  | .formatter => registry.formatters
  | .matcher => registry.matchers

/-- Enters a function in the table of a role, replacing one of the same name. -/
def register (registry : Registry) (role : Role) (name : String) (function : Function) : Registry :=
  match role with
  | .formatter => { registry with formatters := registry.formatters.insert name function }
  | .matcher => { registry with matchers := registry.matchers.insert name function }

def find? (registry : Registry) (role : Role) (name : String) : Option Function := (registry.table role).get? name

/-- The names in either table, strictly ascending. -/
def names (registry : Registry) : List String :=
  ((registry.formatters.map fun _ => ()).overlay (registry.matchers.map fun _ => ())).names

/-- The function of a name in a role. The names that an error suggests come from both tables. -/
def lookup (registry : Registry) (role : Role) (name : String) : Except FormatError Function :=
  match registry.find? role name with
  | some function => .ok function
  | none => .error (.unknownFunction name (suggestions name registry.names))

/-! ## What comes with the library -/

/-- Enters every function that needs no data of its own. -/
def addBuiltIns (registry : Registry) : Registry :=
  registry.register .formatter "number" .number
    |>.register .matcher "plural" .plural
    |>.register .matcher "equals" .equals
    |>.register .matcher "choose" .equals
    |>.register .formatter "string" .string

/-- Enters `:term` for a glossary. -/
def addTerms (registry : Registry) (glossary : Glossary) : Registry :=
  registry.register .formatter "term" (.term glossary)

def builtIn : Registry := empty.addBuiltIns

def nameSet (names : List String) : String :=
  "\x7b" ++ ", ".intercalate (names.map Text.quoted) ++ "\x7d"

/-- The names in both tables. -/
def debugText (registry : Registry) : String :=
  "FunctionRegistry \x7b formatters: " ++ nameSet registry.formatters.names ++ ", matchers: "
    ++ nameSet registry.matchers.names ++ " \x7d"

end Registry
end Localizable
