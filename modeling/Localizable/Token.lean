import Localizable.Text.Span

/-!
# Tokens of a source

A token is an atom, or a run of atoms, with the part that it plays in a message.
Its value leaves out sigils, parentheses and escapes.
-/

namespace Localizable
open Text

inductive TokenKind
  /-- One of the words that open a declaration, the selectors or a variant. -/
  | keyword
  /-- A variable, without its dollar sign. -/
  | variableName
  /-- A function, without its colon. -/
  | functionName
  /-- The name of an opening markup, without its plus sign. -/
  | markupStart
  /-- The name of a closing markup, without its hyphen. -/
  | markupEnd
  /-- The name of an option. -/
  | name
  /-- A key or an option value that stands bare. -/
  | nmtoken
  /-- A literal in parentheses, unescaped. -/
  | literal
  /-- The key that matches everything. -/
  | asterisk
  /-- Text of a pattern, unescaped. -/
  | text
  /-- A brace or an equals sign. -/
  | punctuator
deriving DecidableEq, Repr

/-- The word for a kind of token in listings. -/
def TokenKind.label : TokenKind → String
  | .keyword => "keyword"
  | .variableName => "variable_name"
  | .functionName => "function_name"
  | .markupStart => "markup_start"
  | .markupEnd => "markup_end"
  | .name => "name"
  | .nmtoken => "nmtoken"
  | .literal => "literal"
  | .asterisk => "asterisk"
  | .text => "text"
  | .punctuator => "punctuator"

structure Token where
  kind : TokenKind
  chars : List Char
  span : Span
deriving DecidableEq, Repr

namespace Token

def value (token : Token) : String := String.ofList token.chars

def isKeyword (token : Token) (word : String) : Bool := token.kind == .keyword && token.chars == word.toList

def isPunctuator (token : Token) (c : Char) : Bool := token.kind == .punctuator && token.chars == [c]

end Token
end Localizable
