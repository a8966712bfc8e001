import Localizable.LanguageTag
import Localizable.Text.Grapheme
import Localizable.Text.LetterCase.Greek

/-!
# Letter case

Upper and lower case of a text in the rules of a language. A character may map to
more than one, or to none, and what it maps to may depend on the text around it.
-/

namespace Localizable.Text

namespace LetterCase

/-- The rules that some languages lay over the common ones. -/
inductive Tailoring
  | common
  | turkic
  | lithuanian
  | greek
  | armenian
deriving DecidableEq, Repr

/-- The rules for a locale. A locale that is no plain tag has the common ones. -/
def Tailoring.ofLocale (locale : String) : Tailoring :=
  match LanguageTag.parsePlain? locale with
  | none => .common
  | some tag =>
    if tag.language = "tr" ∨ tag.language = "az" then .turkic
    else if tag.language = "lt" then .lithuanian
    else if tag.language = "el" then .greek
    else if tag.language = "hy" then .armenian
    else .common

/-- Finds a character of some kind, looking through marks that do not stand above. -/
def reaches (kind : Char → Bool) : List Char → Bool
  | [] => false
  | c :: rest => kind c || (isMarkElsewhere c && reaches kind rest)

def dotAbove : Char := '\u0307'

/-- The upper case of a character between those before it, the nearest first, and those after it. -/
def upperIn (tailoring : Tailoring) (before : List Char) (c : Char) (after : List Char) : List Char :=
  match tailoring with
  | .common => fullUpper c
  | .turkic => if c = 'i' then ['İ'] else fullUpper c
  | .lithuanian => if c = dotAbove && reaches isSoftDotted before then [] else fullUpper c
  | .greek => greekUpper before c after
  | .armenian => if c = 'և' then ['Ե', 'Վ'] else fullUpper c

/-- The lower case of a character in the common rules. A sigma that ends a word has a form of its own. -/
def commonLower (before : List Char) (c : Char) (after : List Char) : List Char :=
  if c = 'İ' then ['i', dotAbove]
  else if c = 'Σ' && nextIsCased before && !nextIsCased after then ['ς']
  else [smallOf c]

/-- In Lithuanian a small letter keeps its dot under a mark above. -/
def lithuanianLower (before : List Char) (c : Char) (after : List Char) : List Char :=
  if c = 'Ì' then ['i', dotAbove, '\u0300']
  else if c = 'Í' then ['i', dotAbove, '\u0301']
  else if c = 'Ĩ' then ['i', dotAbove, '\u0303']
  else if c ∈ ['I', 'J', 'Į'] && reaches isMarkAbove after then [smallOf c, dotAbove]
  else commonLower before c after

/-- In Turkish and Azerbaijani the dotted and the dotless letter are two pairs. -/
def turkicLower (before : List Char) (c : Char) (after : List Char) : List Char :=
  if c = 'İ' then ['i']
  else if c = dotAbove && reaches (· == 'I') before then []
  else if c = 'I' && !reaches (· == dotAbove) after then ['ı']
  else commonLower before c after

/-- The lower case of a character between those before it, the nearest first, and those after it. -/
def lowerIn (tailoring : Tailoring) (before : List Char) (c : Char) (after : List Char) : List Char :=
  match tailoring with
  | .turkic => turkicLower before c after
  | .lithuanian => lithuanianLower before c after
  | _ => commonLower before c after

/-- Maps each character in sight of those before it, the nearest first, and those after it. -/
def mapInContext (map : List Char → Char → List Char → List Char) (before : List Char) : List Char → List Char
  | [] => []
  | c :: after => map before c after ++ mapInContext map (c :: before) after

end LetterCase

open LetterCase

/-- The text in upper case. -/
def uppercase (text locale : String) : String :=
  String.ofList (mapInContext (upperIn (.ofLocale locale)) [] text.toList)

/-- The text in lower case. -/
def lowercase (text locale : String) : String :=
  String.ofList (mapInContext (lowerIn (.ofLocale locale)) [] text.toList)

/-- The text with its first cluster in upper case, as if nothing came behind it. -/
def capitalize (text locale : String) : String :=
  let (first, rest) := splitCluster text.toList
  uppercase (String.ofList first) locale ++ String.ofList rest

end Localizable.Text
