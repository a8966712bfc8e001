import Localizable.Dictionary
import Localizable.Document

/-!
# Glossaries

A glossary holds, for each locale, the forms of terms. A locale without a term
falls back to its language.
-/

namespace Localizable

/-- The forms of a term by their names. -/
abbrev TermForms := Dictionary String

/-- Terms by locale. -/
structure Glossary where
  terms : Dictionary (Dictionary TermForms)
deriving DecidableEq

namespace Glossary

def empty : Glossary := ⟨.empty⟩

/-- Files the forms of a term, replacing those it had. -/
def insert (glossary : Glossary) (locale term : String) (forms : TermForms) : Glossary :=
  ⟨glossary.terms.insert locale (((glossary.terms.get? locale).getD .empty).insert term forms)⟩

/-- The forms of a term filed for exactly this locale. -/
def find? (glossary : Glossary) (locale term : String) : Option TermForms :=
  (glossary.terms.get? locale).bind (·.get? term)

/-- What characters have in front of the first hyphen or underscore, if there is one among them. -/
def frontOfSeparator? : List Char → Option (List Char)
  | [] => none
  | c :: rest => if c = '-' ∨ c = '_' then some [] else (frontOfSeparator? rest).map (c :: ·)

/-- The forms of a term for a locale, or else for the language in front of its first hyphen or underscore. -/
def lookup (glossary : Glossary) (locale term : String) : Option TermForms :=
  (glossary.find? locale term).orElse fun _ =>
    (frontOfSeparator? locale.toList).bind fun language => glossary.find? (String.ofList language) term

/-- One form of a term. -/
def form (glossary : Glossary) (locale term form : String) : Option String :=
  (glossary.lookup locale term).bind (·.get? form)

/-- The locales on file, in ascending order. -/
def locales (glossary : Glossary) : List String := glossary.terms.names

def document (glossary : Glossary) : Document :=
  .ofDictionary (Document.ofDictionary (Document.ofDictionary .text)) glossary.terms

end Glossary
end Localizable
