/-!
# Language tags

A language tag is a list of subtags between hyphens: a language, a script, a
region and variants, each of the last three optional, and then extensions behind
subtags of one character. Letter case plays no part.
-/

namespace Localizable

/-- The language, script, region and variants of a tag, in lower case. -/
structure LanguageTag where
  language : String
  script : Option String
  region : Option String
  variants : List String
deriving DecidableEq, Repr

namespace LanguageTag

abbrev Subtag := List Char

/-- The subtags of a text; two hyphens in a row, or one at an end, make an empty subtag. -/
def subtags : List Char → List Subtag
  | [] => [[]]
  | c :: rest =>
    if c = '-' then [] :: subtags rest
    else match subtags rest with
      | first :: others => (c.toLower :: first) :: others
      | [] => [[c.toLower]]

/-- A subtag of this many characters, ASCII letters and digits only. -/
def isAlphanumeric (least most : Nat) (subtag : Subtag) : Bool :=
  least ≤ subtag.length && subtag.length ≤ most && subtag.all Char.isAlphanum

def isLanguage (subtag : Subtag) : Bool :=
  2 ≤ subtag.length && subtag.length ≤ 3 && subtag.all Char.isAlpha

def isScript (subtag : Subtag) : Bool := subtag.length == 4 && subtag.all Char.isAlpha

def isRegion (subtag : Subtag) : Bool :=
  (subtag.length == 2 && subtag.all Char.isAlpha) || (subtag.length == 3 && subtag.all Char.isDigit)

/-- A variant has five to eight characters, or four of which the first is a digit. -/
def isVariant (subtag : Subtag) : Bool :=
  isAlphanumeric 5 8 subtag || (isAlphanumeric 4 4 subtag && (subtag.head?.any Char.isDigit))

def isSingleton (subtag : Subtag) : Bool := subtag.length == 1

/-- Takes the first subtag if it is of a kind. -/
def takeIf (kind : Subtag → Bool) : List Subtag → Option String × List Subtag
  | [] => (none, [])
  | subtag :: rest => if kind subtag then (some (String.ofList subtag), rest) else (none, subtag :: rest)

/-- Reads a language, script, region and variants, and gives the subtags behind them. No variant may
come twice. -/
def takeIdentifier : List Subtag → Option (LanguageTag × List Subtag)
  | [] => none
  | language :: rest =>
    if isLanguage language then
      let (script, rest) := takeIf isScript rest
      let (region, rest) := takeIf isRegion rest
      let variants := (rest.takeWhile isVariant).map String.ofList
      if variants.Nodup then some (⟨String.ofList language, script, region, variants⟩, rest.dropWhile isVariant)
      else none
    else none

/-- Attributes and keywords of the extension for locale preferences. -/
def isPreference (subtag : Subtag) : Bool :=
  isAlphanumeric 3 8 subtag
    || match subtag with
      | [first, second] => first.isAlphanum && second.isAlpha
      | _ => false

/-- The name of a field of a transformed content. -/
def isFieldName : Subtag → Bool
  | [first, second] => first.isAlpha && second.isDigit
  | _ => false

/-- Fields of a transformed content: each name has a value behind it. `waiting` tells whether a name still waits for its first value, and `started` whether there was a name. -/
def areFields (waiting started : Bool) : List Subtag → Bool
  | [] => !waiting
  | subtag :: rest =>
    if isFieldName subtag then !waiting && areFields true true rest
    else started && isAlphanumeric 3 8 subtag && areFields false true rest

/-- The content of the extension for transformed content: a language, fields, or both. -/
def isTransform (content : List Subtag) : Bool :=
  match content with
  | [] => false
  | first :: _ =>
    if isLanguage first then
      match takeIdentifier content with
      | some (_, rest) => areFields false false rest
      | none => false
    else areFields false false content

/-- Whether the subtags behind a singleton are a content that it allows. -/
def allows (singleton : Char) (content : List Subtag) : Bool :=
  if singleton = 'u' then content ≠ [] && content.all isPreference
  else if singleton = 't' then isTransform content
  else singleton.isAlpha && content ≠ [] && content.all (isAlphanumeric 2 8)

/-- Whether subtags are extensions: private ones take all that follows, and no singleton may come twice. -/
def areExtensions (seen : List Char) : List Subtag → Bool
  | [] => true
  | [singleton] :: rest =>
    if singleton = 'x' then rest ≠ [] && rest.all (isAlphanumeric 1 8)
    else singleton ∉ seen && allows singleton (rest.takeWhile fun subtag => !isSingleton subtag)
      && areExtensions (singleton :: seen) (rest.dropWhile fun subtag => !isSingleton subtag)
  | _ => false
termination_by subtags => subtags.length
decreasing_by
  have := (List.dropWhile_sublist (l := rest) fun subtag => !isSingleton subtag).length_le
  simp only [List.length_cons]; omega

/-! ## Tags -/

/-- Reads a tag that has no extensions. -/
def parsePlain? (text : String) : Option LanguageTag :=
  match takeIdentifier (subtags text.toList) with
  | some (tag, []) => some tag
  | _ => none

/-- Reads a tag and leaves its extensions out. -/
def parse? (text : String) : Option LanguageTag :=
  match takeIdentifier (subtags text.toList) with
  | some (tag, rest) => if areExtensions [] rest then some tag else none
  | none => none

end LanguageTag

/-- The part of a locale in front of its first hyphen or underscore. -/
def languageOf (locale : String) : String :=
  String.ofList (locale.toList.takeWhile fun c => c ≠ '-' ∧ c ≠ '_')

end Localizable
