/-!
# Blank characters

The characters with the Unicode property White_Space.
-/

namespace Localizable.Text

/-- Whether the character is white space of any script. -/
def isBlank (c : Char) : Bool :=
  ('\t' ≤ c && c ≤ '\r')
    || c == ' '
    || c == '\u0085'
    || c == '\u00A0'
    || c == '\u1680'
    || ('\u2000' ≤ c && c ≤ '\u200A')
    || c == '\u2028'
    || c == '\u2029'
    || c == '\u202F'
    || c == '\u205F'
    || c == '\u3000'

/-- A text without the blank characters at its ends. -/
def trimBlank (text : List Char) : List Char :=
  ((text.dropWhile isBlank).reverse.dropWhile isBlank).reverse

end Localizable.Text
