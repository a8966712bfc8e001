import Localizable.Message

/-!
# Documents

Structured output: a tree of texts, numbers, lists and records whose fields keep
their order. It is written as JSON on indented lines, two spaces a level, with an
empty list or record on one line.
-/

namespace Localizable

inductive Document
  | null
  | number (value : Nat)
  | text (value : String)
  | list (items : List Document)
  | record (fields : List (String × Document))
deriving Repr

namespace Document

def hexDigit (n : Nat) : Char := if n < 10 then Char.ofNat (48 + n) else Char.ofNat (87 + n)

/-- A character inside a quoted text: quotes, backslashes and control characters are escaped. -/
def quotedChar (c : Char) : List Char :=
  if c = '"' then ['\\', '"']
  else if c = '\\' then ['\\', '\\']
  else if c = '\n' then ['\\', 'n']
  else if c = '\r' then ['\\', 'r']
  else if c = '\t' then ['\\', 't']
  else if c = '\u0008' then ['\\', 'b']
  else if c = '\u000c' then ['\\', 'f']
  else if c.toNat < 0x20 then ['\\', 'u', '0', '0', hexDigit (c.toNat / 16), hexDigit (c.toNat % 16)]
  else [c]

def quotedText (text : String) : String := "\"" ++ String.ofList (text.toList.flatMap quotedChar) ++ "\""

/-! ## Layout -/

def newLine (depth : Nat) : String := String.ofList ('\n' :: List.replicate (2 * depth) ' ')

mutual

/-- Writes a document whose first line is indented already and whose other lines stand at `depth`. -/
def render (depth : Nat) : Document → String
  | .null => "null"
  | .number value => toString value
  | .text value => quotedText value
  | .list [] => "[]"
  | .list (first :: rest) =>
    "[" ++ newLine (depth + 1) ++ render (depth + 1) first ++ renderItems (depth + 1) rest ++ newLine depth ++ "]"
  | .record [] => "\x7b\x7d"
  | .record ((name, first) :: rest) =>
    "\x7b" ++ newLine (depth + 1) ++ quotedText name ++ ": " ++ render (depth + 1) first
      ++ renderFields (depth + 1) rest ++ newLine depth ++ "\x7d"

/-- Writes the items behind the first one of a list. -/
def renderItems (depth : Nat) : List Document → String
  | [] => ""
  | item :: rest => "," ++ newLine depth ++ render depth item ++ renderItems depth rest

/-- Writes the fields behind the first one of a record. -/
def renderFields (depth : Nat) : List (String × Document) → String
  | [] => ""
  | (name, value) :: rest =>
    "," ++ newLine depth ++ quotedText name ++ ": " ++ render depth value ++ renderFields depth rest

end

/-- Writes a document. -/
def pretty (document : Document) : String := document.render 0

/-- A list of texts under their names. -/
def ofDictionary {α : Type} (write : α → Document) (dictionary : Dictionary α) : Document :=
  .record (dictionary.entries.map fun (name, value) => (name, write value))

end Document
end Localizable
