import Localizable.Glossary

/-!
# Reading glossaries

A glossary is written in JSON as objects in objects: locales, terms, and the texts
of their forms. Nothing else may stand in it. Of two entries under one name the
last one stays.
-/

namespace Localizable

namespace GlossaryJson

inductive Token
  | opening
  | closing
  | colon
  | comma
  | text (value : String)
deriving DecidableEq, Repr

/-- Where in a source the reader is; `read` holds the characters of a text so far, the last first. -/
inductive Place
  | between
  | inText (read : List Char)
  /-- Behind a backslash. -/
  | escape (read : List Char)
  /-- In the digits of a code, of which so many are missing. -/
  | code (read : List Char) (missing value : Nat)
  /-- Behind the first half of a character that is written in two codes. -/
  | half (read : List Char) (first : Nat)
  | halfEscape (read : List Char) (first : Nat)
  | secondCode (read : List Char) (first missing value : Nat)
deriving DecidableEq, Repr

def isBlank (c : Char) : Bool := c = ' ' || c = '\t' || c = '\n' || c = '\r'

def hexDigit? (c : Char) : Option Nat :=
  if c.isDigit then some (c.toNat - '0'.toNat)
  else if 'a' ≤ c ∧ c ≤ 'f' then some (c.toNat - 'a'.toNat + 10)
  else if 'A' ≤ c ∧ c ≤ 'F' then some (c.toNat - 'A'.toNat + 10)
  else none

/-- The token of a character that stands for itself. -/
def sign? (c : Char) : Option Token :=
  if c = '\x7b' then some .opening
  else if c = '\x7d' then some .closing
  else if c = ':' then some .colon
  else if c = ',' then some .comma
  else none

/-- The character that an escape of one letter stands for. -/
def escaped? (c : Char) : Option Char :=
  if c = '"' ∨ c = '\\' ∨ c = '/' then some c
  else if c = 'b' then some '\x08'
  else if c = 'f' then some '\x0c'
  else if c = 'n' then some '\n'
  else if c = 'r' then some '\r'
  else if c = 't' then some '\t'
  else none

def isFirstHalf (code : Nat) : Bool := 0xd800 ≤ code && code ≤ 0xdbff
def isSecondHalf (code : Nat) : Bool := 0xdc00 ≤ code && code ≤ 0xdfff

/-- The place behind a code that is complete. A second half needs a first one before it. -/
def afterCode (read : List Char) (code : Nat) : Option Place :=
  if isFirstHalf code then some (.half read code)
  else if isSecondHalf code then none
  else some (.inText (Char.ofNat code :: read))

/-- The place behind a character that is written in two codes. -/
def afterHalves (read : List Char) (first second : Nat) : Option Place :=
  if isSecondHalf second then
    some (.inText (Char.ofNat (0x10000 + (first - 0xd800) * 0x400 + (second - 0xdc00)) :: read))
  else none

/-- The place after a character, with the token that it completes. -/
def step (place : Place) (c : Char) : Option (Place × Option Token) :=
  match place with
  | .between =>
    if isBlank c then some (.between, none)
    else if c = '"' then some (.inText [], none)
    else (sign? c).map fun token => (.between, some token)
  | .inText read =>
    if c = '"' then some (.between, some (.text (String.ofList read.reverse)))
    else if c = '\\' then some (.escape read, none)
    else if c.toNat < 0x20 then none
    else some (.inText (c :: read), none)
  | .escape read =>
    if c = 'u' then some (.code read 4 0, none)
    else (escaped? c).map fun meant => (.inText (meant :: read), none)
  | .code read missing value =>
    (hexDigit? c).bind fun digit =>
      if missing ≤ 1 then (afterCode read (value * 16 + digit)).map (·, none)
      else some (.code read (missing - 1) (value * 16 + digit), none)
  | .half read first => if c = '\\' then some (.halfEscape read first, none) else none
  | .halfEscape read first => if c = 'u' then some (.secondCode read first 4 0, none) else none
  | .secondCode read first missing value =>
    (hexDigit? c).bind fun digit =>
      if missing ≤ 1 then (afterHalves read first (value * 16 + digit)).map (·, none)
      else some (.secondCode read first (missing - 1) (value * 16 + digit), none)

/-- The tokens of a source from a place on. No text may be open at the end. -/
def tokensFrom (place : Place) : List Char → Option (List Token)
  | [] => if place = .between then some [] else none
  | c :: rest =>
    match step place c with
    | none => none
    | some (next, none) => tokensFrom next rest
    | some (next, some token) => (tokensFrom next rest).map (token :: ·)

/-- Reads something from the front of the tokens. -/
abbrev Reader (α : Type) := List Token → Option (α × List Token)

def text : Reader String
  | .text value :: rest => some (value, rest)
  | _ => none

/-- Reads entries to the end of their object, at most so many. -/
def entries {α : Type} (value : Reader α) : Nat → Dictionary α → Reader (Dictionary α)
  | limit + 1, before, .text name :: .colon :: rest =>
    match value rest with
    | some (item, .comma :: rest) => entries value limit (before.insert name item) rest
    | some (item, .closing :: rest) => some (before.insert name item, rest)
    | _ => none
  | _, _, _ => none

/-- Reads an object. -/
def object {α : Type} (value : Reader α) : Reader (Dictionary α)
  | .opening :: .closing :: rest => some (.empty, rest)
  | .opening :: rest => entries value rest.length .empty rest
  | _ => none

end GlossaryJson

/-- Why a glossary cannot be had. -/
inductive GlossaryError
  /-- There is no such file, or it is no text. -/
  | unreadable
  /-- The text is no glossary. -/
  | malformed
deriving DecidableEq, Repr

namespace Glossary
open GlossaryJson

/-- Reads a glossary from a text. -/
def parse (source : String) : Except GlossaryError Glossary :=
  match (tokensFrom .between source.toList).bind (object (object (object GlossaryJson.text))) with
  | some (terms, []) => .ok ⟨terms⟩
  | _ => .error .malformed

/-- Reads a glossary from the bytes of a file, if there is one. -/
def load (file : Option ByteArray) : Except GlossaryError Glossary :=
  match file.bind String.fromUTF8? with
  | some source => parse source
  | none => .error .unreadable

end Glossary
end Localizable
