/-!
# Names and name tokens

The character classes of names follow the productions of names in XML documents: a name
starts with a letter-like character, and a name token may also start with a
digit, a hyphen or a dot.
-/

namespace Localizable.Text

/-- Whether the character may start a name. -/
def isNameStart (c : Char) : Bool :=
  ('A' ≤ c && c ≤ 'Z')
    || ('a' ≤ c && c ≤ 'z')
    || c == '_'
    || ('\u00C0' ≤ c && c ≤ '\u00D6')
    || ('\u00D8' ≤ c && c ≤ '\u00F6')
    || ('\u00F8' ≤ c && c ≤ '\u02FF')
    || ('\u0370' ≤ c && c ≤ '\u037D')
    || ('\u037F' ≤ c && c ≤ '\u1FFF')
    || ('\u200C' ≤ c && c ≤ '\u200D')
    || ('\u2070' ≤ c && c ≤ '\u218F')
    || ('\u2C00' ≤ c && c ≤ '\u2FEF')
    || ('\u3001' ≤ c && c ≤ '\uD7FF')
    || ('\uF900' ≤ c && c ≤ '\uFDCF')
    || ('\uFDF0' ≤ c && c ≤ '\uFFFD')
    || (0x10000 ≤ c.toNat && c.toNat ≤ 0xEFFFF)

/-- Whether the character may stand after the first character of a name. -/
def isNameChar (c : Char) : Bool :=
  isNameStart c
    || ('0' ≤ c && c ≤ '9')
    || c == '-'
    || c == '.'
    || c == '\u00B7'
    || ('\u0300' ≤ c && c ≤ '\u036F')
    || ('\u203F' ≤ c && c ≤ '\u2040')

/-- A name starts with a name-start character and goes on with name characters. -/
def isName : List Char → Bool
  | [] => false
  | c :: rest => isNameStart c && rest.all isNameChar

/-- A name token is a non-empty run of name characters. -/
def isNmtoken : List Char → Bool
  | [] => false
  | text@(_ :: _) => text.all isNameChar

theorem isNameChar_of_isNameStart {c : Char} (start : isNameStart c = true) : isNameChar c = true := by
  simp [isNameChar, start]

/-- Every name is a name token. -/
theorem isNmtoken_of_isName {text : List Char} (name : isName text = true) : isNmtoken text = true := by
  cases text with
  | nil => exact name
  | cons c rest =>
    rw [isName, Bool.and_eq_true] at name
    rw [isNmtoken, List.all_cons, Bool.and_eq_true]
    exact ⟨isNameChar_of_isNameStart name.1, name.2⟩

end Localizable.Text
