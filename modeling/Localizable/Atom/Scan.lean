import Localizable.Atom
import Localizable.SourceError

/-!
# Reading a source atom by atom

A scan gives one atom of a source whenever it is asked for one. What stands in front
of the rest of the source is tried as whitespace, as a punctuation character, as an
escape and as a word, in this order. Nothing of this fits a backslash that nothing
follows: it is a fault, and the scan is over.
-/

namespace Localizable
open Text

/-- What words are made of. -/
def isWordChar (c : Char) : Bool := !isSpacing c && !isPunctuation c && c != '\\'

namespace Piece

/-- Characters of one class as far as they go, at least one, and the text behind them. -/
def run? (kind : AtomKind) (belongs : Char → Bool) (text : List Char) : Option (Piece × List Char) :=
  let chars := text.takeWhile belongs
  if chars.isEmpty then none else some (⟨kind, chars⟩, text.dropWhile belongs)

def punctuator? : List Char → Option (Piece × List Char)
  | [] => none
  | c :: rest => if isPunctuation c then some (⟨.punctuator, [c]⟩, rest) else none

def escape? : List Char → Option (Piece × List Char)
  | '\\' :: c :: rest => some (⟨.escape, ['\\', c]⟩, rest)
  | _ => none

/-- The piece in front of a text, and the text behind it. -/
def first? (text : List Char) : Option (Piece × List Char) :=
  (run? .whitespace isSpacing text).or
    ((punctuator? text).or ((escape? text).or (run? .word isWordChar text)))

end Piece

/-! ## Scans -/

/-- A source, the part of it that is not read yet, and whether a fault has ended the scan. -/
structure Scan where
  source : List Char
  rest : List Char
  ended : Bool
deriving DecidableEq, Repr

namespace Scan

/-- A scan that has read nothing of its source. -/
def ofSource (source : String) : Scan := ⟨source.toList, source.toList, false⟩

/-- The next atom, or the fault that ends the scan, or nothing, and the scan from there on. -/
def next (scan : Scan) : Option (Except LexError Atom) × Scan :=
  if scan.ended || scan.rest.isEmpty then (none, scan)
  else
    let offset := byteWidth scan.source - byteWidth scan.rest
    match Piece.first? scan.rest with
    | some (piece, rest) =>
      (some (.ok ⟨piece.kind, piece.chars, ⟨offset, offset + byteWidth piece.chars⟩⟩), { scan with rest := rest })
    | none =>
      (some (.error (.quote .unterminatedEscape ⟨offset, byteWidth scan.source⟩ scan.source)),
        { scan with ended := true })

/-- What the scan gives when it is asked for the last of so many times and once more. -/
def answer : Nat → Scan → Option (Except LexError Atom)
  | 0, scan => scan.next.1
  | turn + 1, scan => answer turn scan.next.2

end Scan

end Localizable
