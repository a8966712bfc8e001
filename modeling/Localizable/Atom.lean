import Localizable.Text.Span

/-!
# Atoms of a source

A source falls into atoms without regard to the grammar: runs of whitespace,
single punctuation characters, escapes of a backslash and one character, and
words, the runs of everything else. A backslash with nothing after it is no atom.
-/

namespace Localizable
open Text

inductive AtomKind
  | word
  | punctuator
  | whitespace
  | escape
deriving DecidableEq, Repr

/-- The word for a kind of atom in listings. -/
def AtomKind.label : AtomKind → String
  | .word => "word"
  | .punctuator => "punctuator"
  | .whitespace => "whitespace"
  | .escape => "escape"

/-- A piece of source without its position. -/
structure Piece where
  kind : AtomKind
  chars : List Char
deriving DecidableEq, Repr

/-- A piece of source and the bytes that it takes. -/
structure Atom where
  kind : AtomKind
  chars : List Char
  span : Span
deriving DecidableEq, Repr

namespace Atom

def value (atom : Atom) : String := String.ofList atom.chars

/-- Whether the atom is exactly this word. -/
def isWord (atom : Atom) (word : String) : Bool := atom.kind == .word && atom.chars == word.toList

/-- Whether the atom is exactly this punctuation character. -/
def isPunctuator (atom : Atom) (c : Char) : Bool := atom.kind == .punctuator && atom.chars == [c]

def isWhitespace (atom : Atom) : Bool := atom.kind == .whitespace

end Atom

/-! ## Segmentation -/

/-- Space, tab, carriage return and line feed. -/
def isSpacing (c : Char) : Bool := c == ' ' || c == '\t' || c == '\r' || c == '\n'

/-- The six characters that always stand alone. -/
def isPunctuation (c : Char) : Bool := c == '{' || c == '}' || c == '=' || c == '*' || c == '(' || c == ')'

/-- The kind of atom that a character other than a backslash belongs to. -/
def kindOf (c : Char) : AtomKind :=
  if isSpacing c then .whitespace else if isPunctuation c then .punctuator else .word

/-- Puts a character in front of a segmented text: it joins a run of its own kind. -/
def Piece.attach (c : Char) : List Piece → List Piece
  | [] => [⟨kindOf c, [c]⟩]
  | piece :: rest =>
    if kindOf c ≠ .punctuator ∧ piece.kind = kindOf c then ⟨piece.kind, c :: piece.chars⟩ :: rest
    else ⟨kindOf c, [c]⟩ :: piece :: rest

/-- The pieces of a text, less a backslash that nothing follows. -/
def Piece.split : List Char → List Piece
  | [] => []
  | ['\\'] => []
  | '\\' :: c :: rest => ⟨.escape, ['\\', c]⟩ :: split rest
  | c :: rest => attach c (split rest)

/-- Whether a text ends in a backslash that nothing follows and none escapes. -/
def endsUnescaped : List Char → Bool
  | [] => false
  | ['\\'] => true
  | '\\' :: _ :: rest => endsUnescaped rest
  | _ :: rest => endsUnescaped rest

/-- Gives each piece its bytes, the first one starting at the offset. -/
def Piece.locate : Nat → List Piece → List Atom
  | _, [] => []
  | offset, piece :: rest =>
    let stop := offset + byteWidth piece.chars
    ⟨piece.kind, piece.chars, ⟨offset, stop⟩⟩ :: locate stop rest

/-- The atoms of a source and the bytes of the backslash, if any, that it ends in the middle of an escape with. -/
structure Segmentation where
  atoms : List Atom
  unterminated : Option Span
deriving DecidableEq, Repr

def Segmentation.ofChars (source : List Char) : Segmentation where
  atoms := Piece.locate 0 (Piece.split source)
  unterminated := if endsUnescaped source then some ⟨byteWidth source - 1, byteWidth source⟩ else none

/-- Segments a source. -/
def Segmentation.ofSource (source : String) : Segmentation := ofChars source.toList

end Localizable
