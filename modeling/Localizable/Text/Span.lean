/-!
# Byte spans of a source text

Positions in a source are offsets into its UTF-8 bytes. A span is half open, and
an offset that falls inside a character is moved down to that character's start.
-/

namespace Localizable.Text

/-- The half-open range of bytes from `start` up to `stop`. -/
structure Span where
  start : Nat
  stop : Nat
deriving DecidableEq, Repr, Inhabited

/-- The number of UTF-8 bytes of a text. -/
def byteWidth : List Char → Nat
  | [] => 0
  | c :: rest => c.utf8Size + byteWidth rest

/-- The longest beginning of a text that takes at most `budget` bytes. -/
def takeBytes : Nat → List Char → List Char
  | _, [] => []
  | budget, c :: rest => if c.utf8Size ≤ budget then c :: takeBytes (budget - c.utf8Size) rest else []

/-- What `takeBytes` leaves behind. -/
def dropBytes : Nat → List Char → List Char
  | _, [] => []
  | budget, c :: rest => if c.utf8Size ≤ budget then dropBytes (budget - c.utf8Size) rest else c :: rest

/-- The largest character boundary that is not above the offset. -/
def floorBoundary (source : List Char) (offset : Nat) : Nat := byteWidth (takeBytes offset source)

/-- The text between two offsets, both moved down to character boundaries. -/
def slice (source : List Char) (span : Span) : List Char :=
  let start := floorBoundary source span.start
  takeBytes (floorBoundary source span.stop - start) (dropBytes start source)

theorem byteWidth_append (left right : List Char) :
    byteWidth (left ++ right) = byteWidth left + byteWidth right := by
  induction left with
  | nil => simp [byteWidth]
  | cons c rest ih => simp [byteWidth, ih, Nat.add_assoc]

/-- Cutting at a byte offset loses nothing. -/
theorem takeBytes_append_dropBytes (budget : Nat) (text : List Char) :
    takeBytes budget text ++ dropBytes budget text = text := by
  induction text generalizing budget with
  | nil => rfl
  | cons c rest ih => unfold takeBytes dropBytes; split <;> simp [ih]

/-- A cut stays within its budget. -/
theorem byteWidth_takeBytes (budget : Nat) (text : List Char) : byteWidth (takeBytes budget text) ≤ budget := by
  induction text generalizing budget with
  | nil => simp [takeBytes, byteWidth]
  | cons c rest ih =>
    unfold takeBytes
    split
    next fits => have := ih (budget - c.utf8Size); simp only [byteWidth]; omega
    next => simp [byteWidth]

end Localizable.Text
