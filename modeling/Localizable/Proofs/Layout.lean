import Localizable.Atom
import Localizable.Message
import Localizable.SourceError
import Localizable.Text.Name
import Localizable.Token

/-!
# Layouts

A layout is a source taken apart by the grammar of messages, with nothing left
out: gaps, sigils, quotes and escapes are kept, so that a layout has the characters
of its source (`Layout.chars`) and the places of its tokens (`Layout.tokens`).
Its types are the rules of the grammar, where `gap` may be empty and `break` not:

* layout: gap (declaration gap)* then a pattern or a selection, then gap;
* declaration: `let` break `$`name break `=` break placeholder;
* selection: `match` gap (placeholder gap)+ variant (gap variant)*;
* variant: `when` break key (break key)* gap pattern;
* pattern: a brace, runs of text between placeholders, a brace;
* placeholder: a brace, gap, one of `:`name options, an operand alone or with
  break `:`name options, `+`name options, `-`name, and a brace behind a gap;
* options: (break name gap `=` gap value)* gap and a brace.

Three rules of messages are not built into it: declarations and selectors may
hold markup, variants may have any number of keys, and options may be given twice.
`Layout.violations` lists where a layout breaks them.
-/

namespace Localizable
open Text

/-- A part of a source: what stands between tokens, or a token of a kind and a value. -/
inductive Stretch
  | gap (chars : List Char)
  | token (kind : TokenKind) (value chars : List Char)

namespace Stretch

def chars : Stretch → List Char
  | .gap chars => chars
  | .token _ _ chars => chars

@[simp] theorem gap_chars (chars : List Char) : (gap chars).chars = chars := rfl

@[simp] theorem token_chars (kind : TokenKind) (value chars : List Char) : (token kind value chars).chars = chars := rfl

/-- A punctuation mark. -/
def mark (c : Char) : Stretch := .token .punctuator [c] [c]

@[simp] theorem mark_chars (c : Char) : (mark c).chars = [c] := rfl

/-- A name behind a sigil. -/
def sigil (kind : TokenKind) (sign : Char) (name : List Char) : Stretch := .token kind name (sign :: name)

@[simp] theorem sigil_chars (kind : TokenKind) (sign : Char) (name : List Char) :
    (sigil kind sign name).chars = sign :: name := rfl

end Stretch

def charsOf (stretches : List Stretch) : List Char := stretches.flatMap Stretch.chars

/-- The tokens of stretches that start at an offset. -/
def tokensOf : Nat → List Stretch → List Token
  | _, [] => []
  | offset, .gap chars :: rest => tokensOf (offset + byteWidth chars) rest
  | offset, .token kind value chars :: rest =>
    ⟨kind, value, ⟨offset, offset + byteWidth chars⟩⟩ :: tokensOf (offset + byteWidth chars) rest

@[simp] theorem charsOf_nil : charsOf [] = [] := rfl

@[simp] theorem charsOf_cons (stretch : Stretch) (rest : List Stretch) :
    charsOf (stretch :: rest) = stretch.chars ++ charsOf rest := rfl

@[simp] theorem charsOf_append (left right : List Stretch) : charsOf (left ++ right) = charsOf left ++ charsOf right :=
  List.flatMap_append

theorem byteWidth_charsOf_cons (stretch : Stretch) (rest : List Stretch) :
    byteWidth (charsOf (stretch :: rest)) = byteWidth stretch.chars + byteWidth (charsOf rest) := by
  rw [charsOf_cons, byteWidth_append]

theorem byteWidth_charsOf_append (left right : List Stretch) :
    byteWidth (charsOf (left ++ right)) = byteWidth (charsOf left) + byteWidth (charsOf right) := by
  rw [charsOf_append, byteWidth_append]

@[simp] theorem tokensOf_nil (offset : Nat) : tokensOf offset [] = [] := rfl

theorem tokensOf_append (offset : Nat) (left right : List Stretch) :
    tokensOf offset (left ++ right) = tokensOf offset left ++ tokensOf (offset + byteWidth (charsOf left)) right := by
  induction left generalizing offset with
  | nil => rfl
  | cons stretch rest ih =>
    rw [byteWidth_charsOf_cons, ← Nat.add_assoc]
    cases stretch with
    | gap chars => exact ih _
    | token kind value chars => exact congrArg _ (ih _)

namespace Layout

/-- Whitespace, possibly none. -/
structure Gap where
  chars : List Char
  blank : ∀ c ∈ chars, isSpacing c = true

/-- Whitespace where there has to be some. -/
structure Break extends Gap where
  filled : chars ≠ []

/-- No whitespace. -/
def Gap.none : Gap := ⟨[], by simp⟩

/-- A single space, as it is printed between tokens. -/
def Break.space : Break := ⟨⟨[' '], List.all_eq_true.1 rfl⟩, List.cons_ne_nil _ _⟩

/-- A single line feed. -/
def Break.line : Break := ⟨⟨['\n'], List.all_eq_true.1 rfl⟩, List.cons_ne_nil _ _⟩

structure Name where
  chars : List Char
  valid : isName chars = true

structure Nmtoken where
  chars : List Char
  valid : isNmtoken chars = true

def Name.text (name : Name) : String := String.ofList name.chars

/-- A character of a text as it is written: bare, unless it is a backslash or ends the text, or behind a
backslash, which may stand before a backslash and each of the brackets. -/
inductive Sign (ends brackets : List Char)
  | bare (c : Char) (plain : c ≠ '\\' ∧ c ∉ ends)
  | escaped (c : Char) (special : c = '\\' ∨ c ∈ brackets)

namespace Sign

variable {ends brackets : List Char}

def chars : Sign ends brackets → List Char
  | .bare c _ => [c]
  | .escaped c _ => ['\\', c]

/-- The character that is meant. -/
def value : Sign ends brackets → Char
  | .bare c _ => c
  | .escaped c _ => c

end Sign

/-- A character in the text of a pattern. -/
abbrev TextSign := Sign ['{', '}'] ['{', '}']

/-- A character of a literal in parentheses. -/
abbrev LiteralSign := Sign [')'] ['(', ')']

def literalStretch (signs : List LiteralSign) : Stretch :=
  .token .literal (signs.map Sign.value) ('(' :: signs.flatMap Sign.chars ++ [')'])

/-- The text between two braces, which is no token if it is empty. -/
def textStretches : List TextSign → List Stretch
  | [] => []
  | sign :: rest => [.token .text ((sign :: rest).map Sign.value) ((sign :: rest).flatMap Sign.chars)]

theorem charsOf_textStretches (text : List TextSign) : charsOf (textStretches text) = text.flatMap Sign.chars := by
  cases text <;> simp [textStretches]

/-! ## The parts of a layout -/

/-- A variable or a literal in parentheses. -/
inductive Operand
  | variable (name : Name)
  | literal (signs : List LiteralSign)

/-- What an option is set to. -/
inductive Value
  | operand (operand : Operand)
  | bare (token : Nmtoken)

/-- Options up to and with the closing brace. -/
inductive Options
  | close (gap : Gap)
  | option (gap : Break) (name : Name) (before after : Gap) (value : Value) (rest : Options)

/-- What stands behind an operand: the closing brace, or a function through it. -/
inductive Tail
  | close (gap : Gap)
  | function (gap : Break) (name : Name) (options : Options)

/-- The inside of a placeholder from its first token through its closing brace. -/
inductive Inside
  | call (name : Name) (options : Options)
  | operand (operand : Operand) (tail : Tail)
  | markupOpen (name : Name) (options : Options)
  | markupClose (name : Name) (gap : Gap)

/-- A pair of braces in a pattern, a declaration or a selector. -/
structure Placeholder where
  gap : Gap
  inside : Inside

/-- A pattern from behind its opening brace through its closing brace. Text between placeholders is one run. -/
inductive Body
  | close (text : List TextSign)
  | placeholder (text : List TextSign) (content : Placeholder) (rest : Body)

inductive Key
  | any
  | literal (signs : List LiteralSign)
  | bare (token : Nmtoken)

/-- The keys behind the first one, through the opening brace of the pattern. -/
inductive Keys
  | brace (gap : Gap)
  | key (gap : Break) (key : Key) (rest : Keys)

/-- A variant behind its keyword. -/
structure Variant where
  gap : Break
  first : Key
  others : Keys
  body : Body

/-- Variants, each with its keyword, through the end of the source. -/
inductive Variants
  | last (variant : Variant) (gap : Gap)
  | more (variant : Variant) (gap : Gap) (rest : Variants)

/-- The selectors behind the first one, and the variants. -/
inductive Selectors
  | variants (gap : Gap) (variants : Variants)
  | selector (gap : Gap) (content : Placeholder) (rest : Selectors)

/-- A declaration behind its keyword. -/
structure Declaration where
  gap : Break
  name : Name
  before : Break
  after : Break
  content : Placeholder

end Layout

/-- A whole source. -/
inductive Layout
  | declaration (gap : Layout.Gap) (declaration : Layout.Declaration) (rest : Layout)
  | pattern (gap : Layout.Gap) (body : Layout.Body) (after : Layout.Gap)
  | selection (gap before : Layout.Gap) (first : Layout.Placeholder) (rest : Layout.Selectors)

namespace Layout

/-! ## Stretches of layouts -/

def Gap.stretch (gap : Gap) : Stretch := .gap gap.chars

@[simp] theorem Gap.stretch_chars (gap : Gap) : gap.stretch.chars = gap.chars := rfl

def Operand.stretch : Operand → Stretch
  | .variable name => .sigil .variableName '$' name.chars
  | .literal signs => literalStretch signs

def Value.stretch : Value → Stretch
  | .operand item => item.stretch
  | .bare token => .token .nmtoken token.chars token.chars

def Options.stretches : Options → List Stretch
  | .close gap => [gap.stretch, .mark '}']
  | .option gap name before after value rest =>
    gap.stretch :: .token .name name.chars name.chars :: before.stretch :: .mark '=' :: after.stretch
      :: value.stretch :: rest.stretches

def Tail.stretches : Tail → List Stretch
  | .close gap => [gap.stretch, .mark '}']
  | .function gap name options => gap.stretch :: .sigil .functionName ':' name.chars :: options.stretches

def Inside.stretches : Inside → List Stretch
  | .call name options => .sigil .functionName ':' name.chars :: options.stretches
  | .operand item tail => item.stretch :: tail.stretches
  | .markupOpen name options => .sigil .markupStart '+' name.chars :: options.stretches
  | .markupClose name gap => [.sigil .markupEnd '-' name.chars, gap.stretch, .mark '}']

/-- A placeholder from behind its opening brace. -/
def Placeholder.within (content : Placeholder) : List Stretch := content.gap.stretch :: content.inside.stretches

def Placeholder.stretches (content : Placeholder) : List Stretch := .mark '{' :: content.within

def Body.stretches : Body → List Stretch
  | .close text => textStretches text ++ [.mark '}']
  | .placeholder text content rest => textStretches text ++ (content.stretches ++ rest.stretches)

def Key.stretch : Key → Stretch
  | .any => .token .asterisk ['*'] ['*']
  | .literal signs => literalStretch signs
  | .bare token => .token .nmtoken token.chars token.chars

def Keys.stretches : Keys → List Stretch
  | .brace gap => [gap.stretch, .mark '{']
  | .key gap item rest => gap.stretch :: item.stretch :: rest.stretches

def whenStretch : Stretch := .token .keyword "when".toList "when".toList

/-- A variant from behind its keyword. -/
def Variant.within (variant : Variant) : List Stretch :=
  variant.gap.stretch :: variant.first.stretch :: (variant.others.stretches ++ variant.body.stretches)

def Variant.stretches (variant : Variant) : List Stretch := whenStretch :: variant.within

def Variants.stretches : Variants → List Stretch
  | .last variant gap => variant.stretches ++ [gap.stretch]
  | .more variant gap rest => variant.stretches ++ gap.stretch :: rest.stretches

def Selectors.stretches : Selectors → List Stretch
  | .variants gap items => gap.stretch :: items.stretches
  | .selector gap content rest => gap.stretch :: (content.stretches ++ rest.stretches)

def letStretch : Stretch := .token .keyword "let".toList "let".toList

def Declaration.stretches (declaration : Declaration) : List Stretch :=
  letStretch :: declaration.gap.stretch :: .sigil .variableName '$' declaration.name.chars
    :: declaration.before.stretch :: .mark '=' :: declaration.after.stretch :: declaration.content.stretches

def matchStretch : Stretch := .token .keyword "match".toList "match".toList

def stretches : Layout → List Stretch
  | .declaration gap item rest => gap.stretch :: (item.stretches ++ rest.stretches)
  | .pattern gap body after => gap.stretch :: .mark '{' :: (body.stretches ++ [after.stretch])
  | .selection gap before first rest =>
    gap.stretch :: matchStretch :: before.stretch :: (first.stretches ++ rest.stretches)

/-- The source that a layout takes apart. -/
def chars (layout : Layout) : List Char := charsOf layout.stretches

def tokens (layout : Layout) : List Token := tokensOf 0 layout.stretches

end Layout
end Localizable
