import Localizable.LanguageTag
import Localizable.Plural.Rule

/-!
# Languages of plural rules

Which language's rules a tag asks for. A language brings its rules to the script
that it is usually written in; in another script it has no rules of its own.
-/

namespace Localizable

/-- Languages that share their rules. -/
structure PluralLanguages where
  languages : List String
  rules : List PluralRule
deriving Repr

namespace PluralLanguages

/-- The rules of a language, none if it is not listed. -/
def rulesOf (table : List PluralLanguages) (language : String) : List PluralRule :=
  match table.find? fun group => group.languages.contains language with
  | some group => group.rules
  | none => []

/-- The languages with rules that are usually written in another script than the Latin one. -/
def scripts : List (String × List String) := [
  ("arab", ["ar", "fa", "ks", "ps", "sd", "ur"]),
  ("armn", ["hy"]),
  ("beng", ["as", "bn"]),
  ("cans", ["csw"]),
  ("cher", ["chr"]),
  ("cyrl", ["be", "bg", "cv", "kk", "ky", "mk", "mn", "ru", "sr", "uk"]),
  ("deva", ["bho", "brx", "doi", "hi", "kok", "mr", "ne"]),
  ("ethi", ["am", "ti"]),
  ("geor", ["ka"]),
  ("grek", ["el"]),
  ("gujr", ["gu"]),
  ("guru", ["pa"]),
  ("hebr", ["he"]),
  ("knda", ["kn"]),
  ("laoo", ["lo"]),
  ("mlym", ["ml"]),
  ("olck", ["sat"]),
  ("orya", ["or"]),
  ("sinh", ["si"]),
  ("syrc", ["syr"]),
  ("taml", ["ta"]),
  ("telu", ["te"])]

/-- The script that a language with rules is usually written in. -/
def usualScript (language : String) : String :=
  match scripts.find? fun (_, languages) => languages.contains language with
  | some (script, _) => script
  | none => "latn"

/-- The regions where a language with rules is usually written in another script. -/
def regionalScripts : List (String × String × List String) := [
  ("az", "arab", ["iq", "ir"]),
  ("az", "cyrl", ["ru"]),
  ("ha", "arab", ["cm", "sd"]),
  ("kk", "arab", ["af", "cn", "ir", "mn"]),
  ("ku", "cyrl", ["am", "az", "ge", "tm"]),
  ("ku", "arab", ["iq", "ir", "lb"]),
  ("ky", "arab", ["cn"]),
  ("ky", "latn", ["tr"]),
  ("mn", "mong", ["cn"]),
  ("ms", "arab", ["cc"]),
  ("pa", "arab", ["pk"]),
  ("sd", "deva", ["in"]),
  ("sr", "latn", ["me", "ro", "tr"]),
  ("uz", "arab", ["af"]),
  ("uz", "cyrl", ["cn"])]

def regionalScript? (language region : String) : Option String :=
  (regionalScripts.find? fun (tongue, _, regions) => tongue == language && regions.contains region).map (·.2.1)

/-- The script of a tag: its own, else that of its region, else that of its language. -/
def scriptOf (tag : LanguageTag) : String :=
  (tag.script.or (tag.region.bind (regionalScript? tag.language))).getD (usualScript tag.language)

/-! ## The language asked for -/

/-- The regions whose Portuguese counts by the rules of Portugal. -/
def europeanPortuguese : List String :=
  ["ao", "ch", "cv", "fr", "gq", "gw", "lu", "mo", "mz", "pt", "st", "tl"]

/-- The language whose rules a tag asks for, if there is one. -/
def languageFor? (tag : LanguageTag) : Option String :=
  if tag.language = "hi" ∧ scriptOf tag = "latn" then some "en"
  else if tag.language = "kok" ∧ scriptOf tag = "latn" then some "kok"
  else if scriptOf tag ≠ usualScript tag.language then none
  else if tag.language = "ht" then some "fr"
  else if tag.language = "pt" ∧ tag.region.any europeanPortuguese.contains then some "pt-pt"
  else some tag.language

end PluralLanguages
end Localizable
