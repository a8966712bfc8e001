import Localizable.Message
import Localizable.Text.Name

/-!
# The source of a message

Every message has one canonical source. Declarations and variants stand on lines
of their own, options in ascending order of their names, and a literal stands bare
as a key or an option value if it is a name token.
-/

namespace Localizable
open Text

/-- Writes a text with a backslash before each backslash and each of the brackets. -/
def escape (brackets : List Char) : List Char → List Char
  | [] => []
  | c :: rest => if c = '\\' ∨ c ∈ brackets then '\\' :: c :: escape brackets rest else c :: escape brackets rest

/-- A literal in parentheses. -/
def quoted (value : List Char) : List Char := '(' :: escape ['(', ')'] value ++ [')']

/-- A literal where a name token may stand bare. -/
def bareOrQuoted (value : List Char) : List Char := if isNmtoken value then value else quoted value

def Operand.source : Operand → List Char
  | .literal value => quoted value.toList
  | .variable name => '$' :: name.toList

/-- An operand as the value of an option. -/
def Operand.optionSource : Operand → List Char
  | .literal value => bareOrQuoted value.toList
  | .variable name => '$' :: name.toList

def optionsSource (options : Options) : List Char :=
  options.entries.flatMap fun (name, value) => ' ' :: name.toList ++ '=' :: value.optionSource

def Invocation.source (function : Invocation) : List Char :=
  ':' :: function.name.toList ++ optionsSource function.options

/-- The inside of the braces of an expression. -/
def Expression.source : Expression → List Char
  | .operand value none => value.source
  | .operand value (some function) => value.source ++ ' ' :: function.source
  | .call function => function.source

def braced (inside : List Char) : List Char := '{' :: inside ++ ['}']

def Element.source : Element → List Char
  | .text value => escape ['{', '}'] value.toList
  | .expression content => braced content.source
  | .markupOpen name options => braced ('+' :: name.toList ++ optionsSource options)
  | .markupClose name => braced ('-' :: name.toList)

/-- The inside of the braces of a pattern. -/
def patternSource (pattern : Pattern) : List Char := pattern.flatMap Element.source

def Key.source : Key → List Char
  | .literal value => bareOrQuoted value.toList
  | .any => ['*']

def Variant.source (variant : Variant) : List Char :=
  "when".toList ++ variant.keys.flatMap (fun key => ' ' :: key.source) ++ ' ' :: braced (patternSource variant.pattern)

def Declaration.source (declaration : Declaration) : List Char :=
  "let $".toList ++ declaration.name.toList ++ " = ".toList ++ braced declaration.expression.source

/-- The pattern, or the selectors and the variants. -/
def Message.bodySource (message : Message) : List Char :=
  match message.selectors with
  | [] => match message.variants with
    | [] => braced []
    | variant :: _ => braced (patternSource variant.pattern)
  | selectors =>
    "match".toList ++ selectors.flatMap (fun selector => ' ' :: braced selector.source)
      ++ message.variants.flatMap (fun variant => '\n' :: variant.source)

/-- The characters of the canonical source. -/
def Message.sourceChars (message : Message) : List Char :=
  message.declarations.flatMap (fun declaration => declaration.source ++ ['\n']) ++ message.bodySource

/-- The canonical source. -/
def Message.source (message : Message) : String := String.ofList message.sourceChars

end Localizable
