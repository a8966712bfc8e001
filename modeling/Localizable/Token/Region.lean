import Localizable.Atom
import Localizable.SourceError
import Localizable.Text.Name
import Localizable.Token

/-!
# Regions of a source

What an atom means depends on the region of the source that it stands in. Reading
an atom moves from one region to the next and completes at most two tokens, so the
tokens of a source come out as it is read and nothing behind an atom changes them.
-/

namespace Localizable
open Text

/-- The place of an expression, which decides the region behind its closing brace. -/
inductive Seat
  | declaration
  | selector
  /-- A pattern without keys. -/
  | plain
  /-- A pattern of a variant. -/
  | variant
deriving DecidableEq, Repr

/-- What a literal in parentheses is read for. -/
inductive LiteralRole
  | operand (seat : Seat)
  | option (seat : Seat)
  | key
deriving DecidableEq, Repr

/-- Text of a pattern that has been read and may go on, with the bytes it takes so far. -/
structure PendingText where
  chars : List Char
  span : Span
deriving DecidableEq, Repr

/-- What the next atom has to be. -/
inductive Region
  /-- A declaration, the selectors or a pattern. -/
  | opening
  | gapAfterLet
  | declaredName
  | gapBeforeEquals
  | declarationEquals
  | gapAfterEquals
  | declarationBrace
  | firstSelector
  /-- A selector or the first variant. -/
  | nextSelector
  | gapAfterWhen
  | firstKey
  /-- Whitespace or the brace of a pattern, behind a key. -/
  | behindKey
  /-- A key or the brace of a pattern, behind whitespace. -/
  | nextKey
  /-- A variant or the end of the source. -/
  | nextVariant
  /-- Nothing but the end of the source. -/
  | complete
  /-- Text, a placeholder or the closing brace. -/
  | pattern (seat : Seat) (pending : Option PendingText)
  /-- The first atom of an expression. -/
  | expression (seat : Seat)
  /-- A closing brace or whitespace, behind an operand. -/
  | behindOperand (seat : Seat)
  /-- A closing brace or a function, behind whitespace. -/
  | function (seat : Seat)
  | markupClose (seat : Seat)
  /-- A closing brace or whitespace, behind a function, a markup name or an option. -/
  | behindOption (seat : Seat)
  /-- A closing brace or an option, behind whitespace. -/
  | optionName (seat : Seat)
  | optionEquals (seat : Seat)
  | optionValue (seat : Seat)
  /-- The inside of a literal that opened at `start`. -/
  | literal (role : LiteralRole) (start : Nat) (chars : List Char)
deriving DecidableEq, Repr

namespace Region

/-- The region behind the closing brace of an expression. -/
def afterExpression : Seat → Region
  | .declaration => .opening
  | .selector => .nextSelector
  | .plain => .pattern .plain none
  | .variant => .pattern .variant none

/-- The region behind the closing brace of a pattern. -/
def afterPattern : Seat → Region
  | .variant => .nextVariant
  | _ => .complete

/-- The region behind a literal. -/
def afterLiteral : LiteralRole → Region
  | .operand seat => .behindOperand seat
  | .option seat => .behindOption seat
  | .key => .behindKey

/-- Whether the source may end here. -/
def mayEnd : Region → Bool
  | .nextVariant => true
  | .complete => true
  | _ => false

/-- The region reached and the tokens completed, or why the atom cannot stand here. -/
abbrev Step := Except LexFault (Region × List Token)

/-- Takes the atom as a token of its own. -/
def emit (atom : Atom) (kind : TokenKind) (next : Region) : Step :=
  .ok (next, [⟨kind, atom.chars, atom.span⟩])

/-- Takes the atom as whitespace between tokens. -/
def skip (next : Region) : Step := .ok (next, [])

def keyword (atom : Atom) (word : String) (fault : LexFault) (next : Region) : Step :=
  if atom.isWord word then emit atom .keyword next else .error fault

def mark (atom : Atom) (c : Char) (fault : LexFault) (next : Region) : Step :=
  if atom.isPunctuator c then emit atom .punctuator next else .error fault

def gap (atom : Atom) (fault : LexFault) (next : Region) : Step :=
  if atom.isWhitespace then skip next else .error fault

/-- The name behind a sigil, if the atom is a word of a sigil and a name. -/
def nameBehind (sigil : Char) (atom : Atom) : Option (List Char) :=
  match atom.chars with
  | c :: rest => if atom.kind = .word ∧ c = sigil ∧ isName rest then some rest else none
  | [] => none

/-- Takes a word of a sigil and a name; the token holds the name. -/
def sigilName (atom : Atom) (sigil : Char) (kind : TokenKind) (fault : LexFault) (next : Region) : Step :=
  match nameBehind sigil atom with
  | some name => .ok (next, [⟨kind, name, atom.span⟩])
  | none => .error fault

def variableName (atom : Atom) (next : Region) : Step :=
  sigilName atom '$' .variableName .expectedVariableName next

def functionName (atom : Atom) (next : Region) : Step :=
  sigilName atom ':' .functionName .expectedFunctionName next

def bareToken (atom : Atom) (next : Region) : Step :=
  if atom.kind = .word ∧ isNmtoken atom.chars then emit atom .nmtoken next else .error .expectedNmtoken

/-- The character that an escape stands for, where it is a backslash or one of the brackets of the region. -/
def escaped? (brackets : List Char) (chars : List Char) : Option Char :=
  match chars with
  | [_, c] => if c = '\\' ∨ c ∈ brackets then some c else none
  | _ => none

/-! ## Reading one atom -/

/-- A key of a variant. -/
def keyStep (atom : Atom) : Step :=
  if atom.kind ≠ .punctuator then bareToken atom .behindKey
  else if atom.isPunctuator '*' then emit atom .asterisk .behindKey
  else if atom.isPunctuator '(' then skip (.literal .key atom.span.start [])
  else .error .expectedKey

/-- The inside of a pattern: braces end the text that is pending, all else goes on with it. -/
def patternStep (seat : Seat) (pending : Option PendingText) (atom : Atom) : Step :=
  let finished := match pending with
    | some text => [⟨.text, text.chars, text.span⟩]
    | none => []
  let extend (chars : List Char) : Step := match pending with
    | some text => skip (.pattern seat (some ⟨text.chars ++ chars, ⟨text.span.start, atom.span.stop⟩⟩))
    | none => skip (.pattern seat (some ⟨chars, atom.span⟩))
  if atom.isPunctuator '}' then .ok (afterPattern seat, finished ++ [⟨.punctuator, atom.chars, atom.span⟩])
  else if atom.isPunctuator '{' then .ok (.expression seat, finished ++ [⟨.punctuator, atom.chars, atom.span⟩])
  else if atom.kind = .escape then
    match escaped? ['{', '}'] atom.chars with
    | some c => extend [c]
    | none => .error .unexpectedEscape
  else extend atom.chars

/-- The inside of a literal up to its closing parenthesis. -/
def literalStep (role : LiteralRole) (start : Nat) (chars : List Char) (atom : Atom) : Step :=
  if atom.isPunctuator ')' then .ok (afterLiteral role, [⟨.literal, chars, ⟨start, atom.span.stop⟩⟩])
  else if atom.kind = .escape then
    match escaped? ['(', ')'] atom.chars with
    | some c => skip (.literal role start (chars ++ [c]))
    | none => .error .unexpectedEscape
  else skip (.literal role start (chars ++ atom.chars))

/-- The first atom of an expression, told by its first character. -/
def expressionStep (seat : Seat) (atom : Atom) : Step :=
  if atom.isWhitespace then skip (.expression seat)
  else if atom.isPunctuator '(' then skip (.literal (.operand seat) atom.span.start [])
  else match atom.chars.head? with
    | some ':' => functionName atom (.behindOption seat)
    | some '+' => sigilName atom '+' .markupStart .expectedMarkupStart (.behindOption seat)
    | some '-' => sigilName atom '-' .markupEnd .expectedMarkupEnd (.markupClose seat)
    | some '$' => variableName atom (.behindOperand seat)
    | _ => .error .expectedOperand

/-- Where an atom in a region leads, the tokens that it completes, or why it cannot stand there. -/
def step (region : Region) (atom : Atom) : Step :=
  match region with
  | .opening =>
    if atom.isWhitespace then skip .opening
    else if atom.isWord "let" then emit atom .keyword .gapAfterLet
    else if atom.isWord "match" then emit atom .keyword .firstSelector
    else mark atom '{' .expectedMessage (.pattern .plain none)
  | .gapAfterLet => gap atom .expectedGapAfterLet .declaredName
  | .declaredName => variableName atom .gapBeforeEquals
  | .gapBeforeEquals => gap atom .expectedGapBeforeEquals .declarationEquals
  | .declarationEquals => mark atom '=' .expectedEquals .gapAfterEquals
  | .gapAfterEquals => gap atom .expectedGapAfterEquals .declarationBrace
  | .declarationBrace => mark atom '{' .expectedOpenBrace (.expression .declaration)
  | .firstSelector =>
    if atom.isWhitespace then skip .firstSelector
    else mark atom '{' .expectedOpenBrace (.expression .selector)
  | .nextSelector =>
    if atom.isWhitespace then skip .nextSelector
    else if atom.isPunctuator '{' then emit atom .punctuator (.expression .selector)
    else keyword atom "when" .expectedWhen .gapAfterWhen
  | .gapAfterWhen => gap atom .expectedGapAfterWhen .firstKey
  | .firstKey => keyStep atom
  | .behindKey =>
    if atom.isPunctuator '{' then emit atom .punctuator (.pattern .variant none)
    else gap atom .expectedGapBetweenKeys .nextKey
  | .nextKey =>
    if atom.isPunctuator '{' then emit atom .punctuator (.pattern .variant none)
    else keyStep atom
  | .nextVariant =>
    if atom.isWhitespace then skip .nextVariant
    else keyword atom "when" .expectedWhenOrEnd .gapAfterWhen
  | .complete => gap atom .expectedEnd .complete
  | .pattern seat pending => patternStep seat pending atom
  | .expression seat => expressionStep seat atom
  | .behindOperand seat =>
    if atom.isWhitespace then skip (.function seat)
    else mark atom '}' .expectedCloseBraceOrGap (afterExpression seat)
  | .function seat =>
    if atom.isPunctuator '}' then emit atom .punctuator (afterExpression seat)
    else functionName atom (.behindOption seat)
  | .markupClose seat =>
    if atom.isWhitespace then skip (.markupClose seat)
    else mark atom '}' .expectedCloseBrace (afterExpression seat)
  | .behindOption seat =>
    if atom.isPunctuator '}' then emit atom .punctuator (afterExpression seat)
    else gap atom .expectedGapBetweenOptions (.optionName seat)
  | .optionName seat =>
    if atom.isPunctuator '}' then emit atom .punctuator (afterExpression seat)
    else if atom.kind = .word ∧ isName atom.chars then emit atom .name (.optionEquals seat)
    else .error .expectedOptionName
  | .optionEquals seat =>
    if atom.isWhitespace then skip (.optionEquals seat)
    else mark atom '=' .expectedEquals (.optionValue seat)
  | .optionValue seat =>
    if atom.isWhitespace then skip (.optionValue seat)
    else if atom.chars.head? = some '$' then variableName atom (.behindOption seat)
    else if atom.isPunctuator '(' then skip (.literal (.option seat) atom.span.start [])
    else bareToken atom (.behindOption seat)
  | .literal role start chars => literalStep role start chars atom

end Region
end Localizable
