import Localizable.Token.Region

/-!
# The token stream of a source

The tokens of a source in order, up to its end or to the first fault. Tokens
completed before a fault stay in the stream.
-/

namespace Localizable
open Text

/-- The tokens read, and the fault that stopped the reading. -/
structure TokenStream where
  tokens : List Token
  error : Option LexError
deriving DecidableEq, Repr

namespace TokenStream

/-- Reads atoms from a region on; `last` says what is wrong when they end in a given region. -/
def readFrom (last : Region → Option (LexFault × Span)) :
    Region → List Atom → List Token × Option (LexFault × Span)
  | region, [] => ([], last region)
  | region, atom :: rest =>
    match region.step atom with
    | .error fault => ([], some (fault, atom.span))
    | .ok (next, completed) =>
      let (tokens, fault) := readFrom last next rest
      (completed ++ tokens, fault)

/-- The fault of a source whose atoms have been read: a lone backslash, or an end where more has to follow. -/
def faultAtEnd (unterminated : Option Span) (length : Nat) (region : Region) : Option (LexFault × Span) :=
  match unterminated with
  | some span => some (.unterminatedEscape, span)
  | none => if region.mayEnd then none else some (.unexpectedEnd, ⟨length, length⟩)

def ofChars (source : List Char) : TokenStream :=
  let segmentation := Segmentation.ofChars source
  let last := faultAtEnd segmentation.unterminated (byteWidth source)
  let (tokens, fault) := readFrom last .opening segmentation.atoms
  ⟨tokens, fault.map fun (cause, span) => .quote cause span source⟩

/-- Reads the tokens of a source. -/
def ofSource (source : String) : TokenStream := ofChars source.toList

/-- All tokens of a source that has no fault. -/
def complete (stream : TokenStream) : Except LexError (List Token) :=
  match stream.error with
  | some error => .error error
  | none => .ok stream.tokens

end TokenStream
end Localizable
