import Localizable.Dictionary

/-!
# Messages

A message declares local values, may select between variants, and holds the
patterns to render. A message without selectors has one pattern, kept as its only
variant, and that variant has no keys.
-/

namespace Localizable

/-- A literal or a reference to a variable. -/
inductive Operand
  | literal (value : String)
  | variable (name : String)
deriving DecidableEq, Repr

/-- Options by name; their order in the source carries no meaning. -/
abbrev Options := Dictionary Operand

/-- The use of a function: its name and its options. -/
structure Invocation where
  name : String
  options : Options
deriving DecidableEq, Repr

/-- The content of a placeholder, a selector or a declaration. -/
inductive Expression
  /-- A literal or a variable, alone or handed to a function. -/
  | operand (operand : Operand) (function : Option Invocation)
  /-- A function without an operand. -/
  | call (function : Invocation)
deriving DecidableEq, Repr

def Expression.function? : Expression → Option Invocation
  | .operand _ function => function
  | .call function => some function

/-- A part of a pattern. -/
inductive Element
  /-- Text, with its escapes removed. -/
  | text (value : String)
  | expression (expression : Expression)
  | markupOpen (name : String) (options : Options)
  | markupClose (name : String)
deriving DecidableEq, Repr

abbrev Pattern := List Element

inductive Key
  /-- Matches a value that equals or is named by this text. -/
  | literal (value : String)
  /-- Matches every value. -/
  | any
deriving DecidableEq, Repr

structure Variant where
  keys : List Key
  pattern : Pattern
deriving DecidableEq, Repr

structure Declaration where
  name : String
  expression : Expression
deriving DecidableEq, Repr

structure Message where
  declarations : List Declaration
  selectors : List Expression
  variants : List Variant
deriving DecidableEq, Repr

/-- Whether the message renders one pattern without selecting. -/
def Message.isPlain (message : Message) : Bool := message.selectors.isEmpty

end Localizable
