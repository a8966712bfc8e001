import Localizable.Text.Span

/-!
# Errors in a source text

Every way in which a source can be refused, with the bytes it points at and its
wording. Reading tokens and building a message fail with different faults, and a
fault of reading tokens also quotes the source from where it points.
-/

namespace Localizable
open Text

/-- The group that an error is reported under. -/
inductive ErrorKind
  | lexing
  | grammar
  | reference
  | type
  | range
deriving DecidableEq, Repr

def ErrorKind.name : ErrorKind → String
  | .lexing => "LexingError"
  | .grammar => "SyntaxError"
  | .reference => "ReferenceError"
  | .type => "TypeError"
  | .range => "RangeError"

/-! ## Faults of reading tokens -/

/-- What the atom at hand, or the end of the source, should have been. -/
inductive LexFault
  | unterminatedEscape
  | unexpectedEnd
  | unexpectedEscape
  | expectedMessage
  | expectedEnd
  | expectedGapAfterLet
  | expectedGapBeforeEquals
  | expectedGapAfterEquals
  | expectedGapAfterWhen
  | expectedGapBetweenKeys
  | expectedGapBetweenOptions
  | expectedWhen
  | expectedWhenOrEnd
  | expectedKey
  | expectedNmtoken
  | expectedVariableName
  | expectedFunctionName
  | expectedMarkupStart
  | expectedMarkupEnd
  | expectedOptionName
  | expectedOpenBrace
  | expectedCloseBrace
  | expectedEquals
  | expectedOperand
  | expectedCloseBraceOrGap
deriving DecidableEq, Repr

def LexFault.message : LexFault → String
  | .unterminatedEscape => "Unterminated escape sequence"
  | .unexpectedEnd => "Unexpected end of input"
  | .unexpectedEscape => "Unexpected escape sequence"
  | .expectedMessage => "Expected 'let', 'match' or '\x7b'"
  | .expectedEnd => "Expected end of input"
  | .expectedGapAfterLet => "Expected whitespace after 'let'"
  | .expectedGapBeforeEquals => "Expected whitespace before '='"
  | .expectedGapAfterEquals => "Expected whitespace after '='"
  | .expectedGapAfterWhen => "Expected whitespace after 'when'"
  | .expectedGapBetweenKeys => "Expected whitespace between variant keys"
  | .expectedGapBetweenOptions => "Expected whitespace between options"
  | .expectedWhen => "Expected 'when'"
  | .expectedWhenOrEnd => "Expected 'when' or end of input"
  | .expectedKey => "Expected a valid key"
  | .expectedNmtoken => "Expected nmtoken"
  | .expectedVariableName => "Expected variable name"
  | .expectedFunctionName => "Expected function name"
  | .expectedMarkupStart => "Expected markup start"
  | .expectedMarkupEnd => "Expected markup end"
  | .expectedOptionName => "Expected option name"
  | .expectedOpenBrace => "Expected \x7b"
  | .expectedCloseBrace => "Expected \x7d"
  | .expectedEquals => "Expected ="
  | .expectedOperand => "Expected variable, literal, or function"
  | .expectedCloseBraceOrGap => "Expected \x7d or whitespace"

/-- A fault of reading tokens, the bytes at fault, and the source from there on. -/
structure LexError where
  fault : LexFault
  span : Span
  snippet : String
deriving DecidableEq, Repr

/-- The number of bytes quoted after the bytes at fault. -/
def snippetReach : Nat := 20

/-- Quotes the source from the start of the span to at most `snippetReach` bytes behind its end. -/
def LexError.quote (fault : LexFault) (span : Span) (source : List Char) : LexError where
  fault := fault
  span := span
  snippet := String.ofList (slice source ⟨span.start, span.stop + snippetReach⟩)

def LexError.message (error : LexError) : String := error.fault.message ++ ": ..." ++ error.snippet

/-! ## Faults of building a message -/

/-- What a token should have been, or which rule of the message it breaks. -/
inductive SyntaxFault
  | expectedMessage
  | expectedSelector
  | expectedWhen
  | expectedVariableName
  | expectedPunctuation (mark : Char)
  | expectedKey
  | expectedSomeKey
  | keyCount (keys selectors : Nat)
  | unexpectedInPattern
  | expectedOperand
  | expectedFunctionOrClose
  | expectedOptionName
  | expectedOptionValue
  | duplicateOption (name : String)
  | expectedEnd
deriving DecidableEq, Repr

def SyntaxFault.message : SyntaxFault → String
  | .expectedMessage => "Expected 'let', 'match' or '\x7b'"
  | .expectedSelector => "Expected at least one selector"
  | .expectedWhen => "Expected 'when'"
  | .expectedVariableName => "Expected variable name"
  | .expectedPunctuation mark => "Expected " ++ mark.toString
  | .expectedKey => "Expected a variant key"
  | .expectedSomeKey => "Expected at least one variant key"
  | .keyCount keys selectors =>
    "Variant has " ++ toString keys ++ " key(s) but the message has " ++ toString selectors ++ " selector(s)"
  | .unexpectedInPattern => "Unexpected token in pattern"
  | .expectedOperand => "Expected variable, literal, or function"
  | .expectedFunctionOrClose => "Expected function or \x7d"
  | .expectedOptionName => "Expected option name"
  | .expectedOptionValue => "Expected option value"
  | .duplicateOption name => "Duplicate option name '" ++ name ++ "'"
  | .expectedEnd => "Expected end of input"

/-- Why a source is no message. -/
inductive ParseError
  | lexing (error : LexError)
  | grammar (fault : SyntaxFault) (span : Span)
  | endOfTokens (offset : Nat)
deriving DecidableEq, Repr

namespace ParseError

def kind : ParseError → ErrorKind
  | .lexing _ => .lexing
  | .grammar _ _ => .grammar
  | .endOfTokens _ => .grammar

def message : ParseError → String
  | .lexing error => error.message
  | .grammar fault _ => fault.message
  | .endOfTokens _ => "unexpected end of input"

/-- The bytes of the source that the error is about. -/
def span : ParseError → Span
  | .lexing error => error.span
  | .grammar _ span => span
  | .endOfTokens offset => ⟨offset, offset⟩

end ParseError
end Localizable
