import Localizable.Glossary.Json
import Localizable.Proofs.Dictionaries
import Localizable.Proofs.Mentions

/-!
# Histories of glossaries

What a glossary finds is told by what has been filed in it: for a locale and a term
the forms that were filed last, for this locale or else for the language that it
qualifies (`Qualifies`), and `:term` shows what is found (`Glossary.lookup_history`).
The locales on file are those of the terms, and those that a text lists without a
term (`Glossary.locales_history`).
-/

namespace Localizable

/-- A character that ends the language of a locale. -/
def IsSeparator (c : Char) : Prop := c = '-' ∨ c = '_'

/-- The locale is the language with a separator and anything behind it. -/
def Qualifies (locale language : String) : Prop :=
  ∃ separator behind, locale.toList = language.toList ++ separator :: behind ∧ IsSeparator separator ∧
    ∀ c ∈ language.toList, ¬ IsSeparator c

theorem languageOf_of_qualifies {locale language : String} (qualifies : Qualifies locale language) :
    languageOf locale = language := by
  obtain ⟨separator, behind, split, ends, unseparated⟩ := qualifies
  have stops : ¬ (separator ≠ '-' ∧ separator ≠ '_') := fun ⟨hyphen, underscore⟩ => ends.elim hyphen underscore
  have passes : ∀ c ∈ language.toList, decide (c ≠ '-' ∧ c ≠ '_') = true := by
    intro c member
    exact decide_eq_true (not_or.1 (unseparated c member))
  rw [languageOf, split, List.takeWhile_append_of_pos passes, List.takeWhile_cons_of_neg (by simpa using stops),
    List.append_nil, String.ofList_toList]

namespace Glossary

/-- Characters are split at their first separator. -/
theorem frontOfSeparator?_eq_some_iff {chars front : List Char} :
    frontOfSeparator? chars = some front ↔
      ∃ separator behind, chars = front ++ separator :: behind ∧ IsSeparator separator ∧
        ∀ c ∈ front, ¬ IsSeparator c := by
  induction chars generalizing front with
  | nil => simp [frontOfSeparator?]
  | cons head rest ih =>
    rw [frontOfSeparator?]
    by_cases ends : head = '-' ∨ head = '_'
    · rw [if_pos ends]
      constructor
      · rintro ⟨⟩
        exact ⟨head, rest, rfl, ends, List.forall_mem_nil _⟩
      · rintro ⟨separator, behind, split, _, unseparated⟩
        cases front with
        | nil => rfl
        | cons c others =>
          rw [List.cons_append, List.cons.injEq] at split
          exact absurd (split.1 ▸ ends) (unseparated c List.mem_cons_self)
    · rw [if_neg ends, Option.map_eq_some_iff]
      constructor
      · rintro ⟨others, found, rfl⟩
        obtain ⟨separator, behind, rfl, stops, unseparated⟩ := ih.1 found
        exact ⟨separator, behind, rfl, stops, List.forall_mem_cons.2 ⟨ends, unseparated⟩⟩
      · rintro ⟨separator, behind, split, stops, unseparated⟩
        cases front with
        | nil =>
          rw [List.nil_append, List.cons.injEq] at split
          exact absurd (split.1 ▸ stops) ends
        | cons c others =>
          rw [List.cons_append, List.cons.injEq] at split
          obtain ⟨rfl, split⟩ := split
          have later : ∀ c ∈ others, ¬ IsSeparator c := fun c member => unseparated c (List.mem_cons_of_mem _ member)
          exact ⟨others, ih.2 ⟨separator, behind, split, stops, later⟩, rfl⟩

theorem frontOfSeparator?_eq_none {chars : List Char} (unseparated : ∀ c ∈ chars, ¬ IsSeparator c) :
    frontOfSeparator? chars = none := by
  refine Option.eq_none_iff_forall_ne_some.2 fun front found => ?_
  obtain ⟨separator, behind, rfl, ends, _⟩ := frontOfSeparator?_eq_some_iff.1 found
  exact unseparated separator (List.mem_append_right _ List.mem_cons_self) ends

theorem exists_front {chars : List Char} (separated : ∃ c ∈ chars, IsSeparator c) :
    ∃ front, frontOfSeparator? chars = some front := by
  induction chars with
  | nil =>
    obtain ⟨c, member, _⟩ := separated
    cases member
  | cons head rest ih =>
    rw [frontOfSeparator?]
    by_cases ends : head = '-' ∨ head = '_'
    · exact ⟨[], if_pos ends⟩
    · obtain ⟨c, member, separates⟩ := separated
      rcases List.mem_cons.1 member with rfl | later
      · exact absurd separates ends
      · obtain ⟨front, found⟩ := ih ⟨c, later, separates⟩
        refine ⟨head :: front, ?_⟩
        rw [if_neg ends, found]
        rfl

/-- A locale with a separator qualifies the language that scopes take from it. -/
theorem qualifies_iff {locale language : String} :
    Qualifies locale language ↔ (∃ c ∈ locale.toList, IsSeparator c) ∧ languageOf locale = language := by
  constructor
  · intro qualifies
    have language := languageOf_of_qualifies qualifies
    obtain ⟨separator, behind, split, ends, _⟩ := qualifies
    refine ⟨⟨separator, ?_, ends⟩, language⟩
    rw [split]
    exact List.mem_append_right _ List.mem_cons_self
  · rintro ⟨separated, rfl⟩
    obtain ⟨front, found⟩ := exists_front separated
    have qualifies : Qualifies locale (String.ofList front) := by
      obtain ⟨separator, behind, split, ends, unseparated⟩ := frontOfSeparator?_eq_some_iff.1 found
      exact ⟨separator, behind, by rw [String.toList_ofList, split], ends, by rwa [String.toList_ofList]⟩
    rwa [languageOf_of_qualifies qualifies]

/-! ## What is filed -/

/-- Forms of a term that are filed for a locale. -/
structure Filing where
  locale : String
  term : String
  forms : TermForms

def file (glossary : Glossary) (filing : Filing) : Glossary := glossary.insert filing.locale filing.term filing.forms

def after (start : Glossary) (history : List Filing) : Glossary := history.foldl file start

/-- The forms of a term that were filed last for exactly this locale, or else were there at the start. -/
def lastFiled (start : Glossary) (history : List Filing) (locale term : String) : Option TermForms :=
  ((history.reverse.find? fun filing => filing.locale = locale ∧ filing.term = term).map Filing.forms).or
    (start.find? locale term)

theorem find?_insert (glossary : Glossary) (locale term wanted asked : String) (forms : TermForms) :
    (glossary.insert locale term forms).find? wanted asked =
      if wanted = locale ∧ asked = term then some forms else glossary.find? wanted asked := by
  rw [find?, insert, Dictionary.get?_insert, find?]
  by_cases here : wanted = locale
  · subst here
    rw [if_pos rfl, Option.bind_some, Dictionary.get?_insert]
    by_cases own : asked = term
    · simp [own]
    · cases glossary.terms.get? wanted <;> simp [own, Dictionary.get?_empty]
  · simp [here]

theorem find?_after (start : Glossary) (history : List Filing) (locale term : String) :
    (start.after history).find? locale term = lastFiled start history locale term := by
  have each : ∀ (glossary : Glossary) (filing : Filing), (glossary.file filing).find? locale term =
      if filing.locale = locale ∧ filing.term = term then some filing.forms else glossary.find? locale term := by
    intro glossary filing
    simp only [file, find?_insert, eq_comm]
  exact observe_foldl (fun glossary => glossary.find? locale term) each history start

theorem lookup_of_find? {glossary : Glossary} {locale term : String} {forms : TermForms}
    (found : glossary.find? locale term = some forms) : glossary.lookup locale term = some forms := by
  rw [lookup, found]
  rfl

theorem lookup_of_qualifies {glossary : Glossary} {locale language term : String}
    (missing : glossary.find? locale term = none) (qualifies : Qualifies locale language) :
    glossary.lookup locale term = glossary.find? language term := by
  have front : frontOfSeparator? locale.toList = some language.toList := frontOfSeparator?_eq_some_iff.2 qualifies
  rw [lookup, missing, front, Option.bind_some, String.ofList_toList]
  rfl

theorem lookup_of_unseparated {glossary : Glossary} {locale term : String}
    (missing : glossary.find? locale term = none) (unseparated : ∀ c ∈ locale.toList, ¬ IsSeparator c) :
    glossary.lookup locale term = none := by
  rw [lookup, missing, frontOfSeparator?_eq_none unseparated]
  rfl

/-- The outcome of showing a form of a term: its text, or the term is unknown, or it has no such form. -/
structure Shows (glossary : Glossary) (locale term form : String) (outcome : Except FormatError String) : Prop where
  text : ∀ text, outcome = .ok text ↔ glossary.form locale term form = some text
  unknownTerm : ∀ unknown place, outcome = .error (.unknownTerm unknown place) ↔
    glossary.lookup locale term = none ∧ unknown = term ∧ place = locale
  unknownForm : ∀ function reason, outcome = .error (.invalidArgument function reason) ↔
    (∃ forms, glossary.lookup locale term = some forms ∧ forms.get? form = none) ∧
      function = "term" ∧ reason = .unknownForm term form

namespace Shows

variable {glossary : Glossary} {locale term form text : String} {forms : TermForms}

theorem of_text (found : glossary.lookup locale term = some forms) (held : forms.get? form = some text) :
    glossary.Shows locale term form (.ok text) where
  text other := by simp [Glossary.form, found, held]
  unknownTerm unknown place := by simp [found]
  unknownForm function reason := by simp [found, held]

theorem of_unknownTerm (missing : glossary.lookup locale term = none) :
    glossary.Shows locale term form (.error (.unknownTerm term locale)) where
  text other := by simp [Glossary.form, missing]
  unknownTerm unknown place := by simp [missing, eq_comm]
  unknownForm function reason := by simp [missing]

theorem of_unknownForm (found : glossary.lookup locale term = some forms) (missing : forms.get? form = none) :
    glossary.Shows locale term form (.error (.invalidArgument "term" (.unknownForm term form))) where
  text other := by simp [Glossary.form, found, missing]
  unknownTerm unknown place := by simp [found]
  unknownForm function reason := by simp [found, missing, eq_comm]

end Shows

end Glossary

namespace Functions

/-- The form of a term that options ask for is the one that the glossary has. -/
theorem shows_termText {glossary : Glossary} {locale name : String} {asked : Option String} {options : OptionValues}
    (form : options.get? "form" = asked.map Value.text) :
    glossary.Shows locale name (asked.getD canonicalForm)
      ((termForms glossary locale name).bind fun forms => termText name forms options) := by
  have asks : options.text "term" "form" = .ok asked := by
    rw [OptionValues.text, form]
    cases asked <;> rfl
  cases found : glossary.lookup locale name with
  | none =>
    rw [termForms, found]
    exact .of_unknownTerm found
  | some forms =>
    rw [termForms, found]
    show glossary.Shows locale name _ (termText name forms options)
    rw [termText, asks]
    cases held : forms.get? (asked.getD canonicalForm) with
    | none =>
      simp only [held]
      exact .of_unknownForm found held
    | some text =>
      simp only [held]
      exact .of_text found held

/-- Without a letter case a form is shown as it is. -/
theorem term_of_unchanged (glossary : Glossary) (surroundings : Surroundings) (name : String) {options : OptionValues}
    (unchanged : options.get? "lettercase" = none) :
    Functions.term glossary surroundings (some (.text name)) options =
      ((termForms glossary surroundings.locale name).bind fun forms => termText name forms options).map Value.text := by
  have kept : ∀ text, inLetterCase "term" options text surroundings.locale = .ok text := by
    intro text
    have unasked : options.text "term" "lettercase" = .ok none := by rw [OptionValues.text, unchanged]
    rw [inLetterCase, unasked]
  show ((termForms glossary surroundings.locale name).bind fun forms => (termText name forms options).bind fun text =>
    (inLetterCase "term" options text surroundings.locale).bind fun cased => .ok (Value.text cased)) = _
  simp only [kept]
  cases termForms glossary surroundings.locale name with
  | error error => rfl
  | ok forms =>
    show (termText name forms options).bind _ = (termText name forms options).map Value.text
    cases termText name forms options <;> rfl

end Functions

namespace Scope

/-- The operand names a term by a text, and the options may ask for a form of it but not for a letter case. -/
structure AsksTerm (scope : Scope) (operand : Operand) (options : Options) (name : String)
    (asked : Option String) : Prop where
  name : scope.resolveOperand operand = .ok (.text name)
  form : (options.get? "form").map scope.resolveOperand = asked.map fun form => .ok (.text form)
  unchanged : options.get? "lettercase" = none
  others : ∀ option item, options.get? option = some item → ∃ value, scope.resolveOperand item = .ok value

variable {scope : Scope} {operand : Operand} {options : Options} {name : String} {asked : Option String}

theorem AsksTerm.exists_values (asks : scope.AsksTerm operand options name asked) :
    ∃ values, scope.resolveOptions options = .ok values ∧ values.get? "form" = asked.map Value.text ∧
      values.get? "lettercase" = none := by
  obtain ⟨values, resolved⟩ := Dictionary.exists_mapExcept asks.others
  have each := Dictionary.mapExcept_eq_ok_iff.1 resolved
  refine ⟨values, resolved, ?_, ?_⟩
  · have form : (values.get? "form").map (@Except.ok FormatError Value) = (asked.map Value.text).map .ok := by
      rw [Option.map_map]
      exact (each "form").symm.trans asks.form
    exact Option.map_injective (fun _ _ => Except.ok.inj) form
  · have unchanged := each "lettercase"
    rw [asks.unchanged] at unchanged
    exact Option.map_eq_none_iff.1 unchanged.symm

variable [Host]

/-- The expression is a text wherever it stands, or fails everywhere. -/
structure IsText (scope : Scope) (expression : Expression) (outcome : Except FormatError String) : Prop where
  value : scope.resolve .formatter expression = outcome.map Value.text
  text : scope.elementText (.expression expression) = outcome
  parts : scope.elementParts (.expression expression) = outcome.map fun text => [.literal text]

theorem isText_of_resolve {expression : Expression} {outcome : Except FormatError String}
    (value : scope.resolve .formatter expression = outcome.map Value.text) : scope.IsText expression outcome := by
  refine ⟨value, ?_, ?_⟩
  · rw [elementText_expression, value]
    cases outcome <;> rfl
  · rw [elementParts_expression, value]
    cases outcome <;> rfl

/-- `:term` shows what its glossary finds. -/
theorem exists_shows {glossary : Glossary} {registry : Registry}
    (registered : scope.registry = registry.addTerms glossary) (asks : scope.AsksTerm operand options name asked) :
    ∃ outcome, scope.IsText (.operand operand (some ⟨"term", options⟩)) outcome ∧
      glossary.Shows scope.locale name (asked.getD Functions.canonicalForm) outcome := by
  obtain ⟨values, resolved, form, unchanged⟩ := asks.exists_values
  refine ⟨_, isText_of_resolve ?_, Functions.shows_termText form⟩
  have found : scope.registry.find? .formatter "term" = some (.term glossary) := by
    rw [registered, Registry.addTerms, Registry.find?_register, if_pos ⟨rfl, rfl⟩]
  rw [resolve_of_find? found, asks.name, resolved]
  exact Functions.term_of_unchanged glossary scope.surroundings name unchanged

end Scope

namespace Glossary

/-- A glossary finds the forms of a term that were filed last for a locale, or else for the language that the locale
qualifies, which is the language of every scope of this locale. `:term` shows the form that is asked for. -/
theorem lookup_history [Host] (start : Glossary) (history : List Filing) (locale term : String) :
    (∀ forms, lastFiled start history locale term = some forms →
        (start.after history).lookup locale term = some forms) ∧
      (lastFiled start history locale term = none → ∀ language, Qualifies locale language →
        (start.after history).lookup locale term = lastFiled start history language term) ∧
      (lastFiled start history locale term = none → (∀ c ∈ locale.toList, ¬ IsSeparator c) →
        (start.after history).lookup locale term = none) ∧
      (∀ scope : Scope, scope.locale = locale → ∀ language,
        Qualifies locale language ↔ (∃ c ∈ locale.toList, IsSeparator c) ∧ scope.language = language) ∧
      (∀ name, (start.after history).form locale term name =
        ((start.after history).lookup locale term).bind fun forms => forms.get? name) ∧
      ∀ (scope : Scope) (registry : Registry) (operand : Operand) (options : Options) (asked : Option String),
        scope.locale = locale → scope.registry = registry.addTerms (start.after history) →
        scope.AsksTerm operand options term asked →
        ∃ outcome, scope.IsText (.operand operand (some ⟨"term", options⟩)) outcome ∧
          (start.after history).Shows locale term (asked.getD "canonical") outcome := by
  refine ⟨?_, ?_, ?_, ?_, ?_, ?_⟩
  · intro forms filed
    exact lookup_of_find? ((find?_after ..).trans filed)
  · intro unfiled language qualifies
    rw [← find?_after]
    exact lookup_of_qualifies ((find?_after ..).trans unfiled) qualifies
  · intro unfiled unseparated
    exact lookup_of_unseparated ((find?_after ..).trans unfiled) unseparated
  · rintro scope rfl language
    exact qualifies_iff
  · intro name
    rfl
  · rintro scope registry operand options asked rfl registered asks
    exact Scope.exists_shows registered asks

/-- A term is filed twice for a language, and another one for a region. -/
def shirts : List Filing :=
  [⟨"en", "t-shirt", .ofList [("canonical", "shirt")]⟩, ⟨"en-US", "sock", .ofList [("canonical", "sock")]⟩,
    ⟨"en", "t-shirt", .ofList [("canonical", "T-shirt"), ("plural", "T-shirts")]⟩]

section
attribute [local instance] Host.none

/-- The region has no such term, so its language shows what it was given last. -/
theorem lookup_history_region : (empty.after shirts).lookup "en-US" "t-shirt" =
      some (.ofList [("canonical", "T-shirt"), ("plural", "T-shirts")]) ∧
    (Scope.ofArguments "en-US" .empty (Registry.builtIn.addTerms (empty.after shirts))).elementText
      (.expression (.operand (.literal "t-shirt") (some ⟨"term", .ofList [("form", .literal "plural")]⟩))) =
        .ok "T-shirts" := by
  obtain ⟨_, falls, _, language, _, shows⟩ := lookup_history empty shirts "en-US" "t-shirt"
  have qualifies : Qualifies "en-US" "en" := (language ⟨"en-US", .empty, .empty, .empty⟩ rfl "en").2
    ⟨⟨'-', by decide, .inl rfl⟩, by decide⟩
  have found := falls rfl "en" qualifies
  refine ⟨found, ?_⟩
  have asks : (Scope.ofArguments "en-US" .empty (Registry.builtIn.addTerms (empty.after shirts))).AsksTerm
      (.literal "t-shirt") (.ofList [("form", .literal "plural")]) "t-shirt" (some "plural") := by
    refine ⟨rfl, rfl, rfl, ?_⟩
    intro option item held
    have only : (option, item) ∈ [("form", Operand.literal "plural")] := Dictionary.get?_eq_some_iff.1 held
    cases List.mem_singleton.1 only
    exact ⟨.text "plural", rfl⟩
  obtain ⟨outcome, isText, shown⟩ := shows _ Registry.builtIn _ _ _ rfl rfl asks
  rw [isText.text]
  refine (shown.text _).2 ?_
  rw [form, found]
  rfl

end

/-! ## Locales -/

/-- A term is on file for the locale. -/
def HasTerm (glossary : Glossary) (locale : String) : Prop := ∃ term forms, glossary.find? locale term = some forms

theorem mem_locales_of_hasTerm {glossary : Glossary} {locale : String} (hasTerm : glossary.HasTerm locale) :
    locale ∈ glossary.locales := by
  obtain ⟨term, forms, found⟩ := hasTerm
  obtain ⟨terms, held, _⟩ := Option.bind_eq_some_iff.1 found
  refine Dictionary.mem_names.2 ?_
  rw [held]
  exact Option.some_ne_none _

theorem hasTerm_insert {glossary : Glossary} {locale term wanted : String} {forms : TermForms} :
    (glossary.insert locale term forms).HasTerm wanted ↔ wanted = locale ∨ glossary.HasTerm wanted := by
  unfold HasTerm
  simp only [find?_insert]
  by_cases here : wanted = locale
  · refine iff_of_true ?_ (.inl here)
    exact ⟨term, forms, if_pos ⟨here, rfl⟩⟩
  · simp [here]

/-- A locale that is listed without a term, which only a text can do. -/
structure Blank (glossary : Glossary) (locale : String) : Prop where
  listed : locale ∈ glossary.locales
  empty : ¬ glossary.HasTerm locale

theorem blank_insert {glossary : Glossary} {locale term wanted : String} {forms : TermForms} :
    (glossary.insert locale term forms).Blank wanted ↔ glossary.Blank wanted ∧ locale ≠ wanted := by
  have listed : wanted ∈ (glossary.insert locale term forms).locales ↔ wanted = locale ∨ wanted ∈ glossary.locales :=
    Dictionary.mem_names_insert
  constructor
  · rintro ⟨lists, empty⟩
    rw [hasTerm_insert, not_or] at empty
    exact ⟨⟨(listed.1 lists).resolve_left empty.1, empty.2⟩, Ne.symm empty.1⟩
  · rintro ⟨⟨lists, empty⟩, other⟩
    refine ⟨listed.2 (.inr lists), ?_⟩
    rw [hasTerm_insert, not_or]
    exact ⟨Ne.symm other, empty⟩

/-- A locale stays without a term as long as none is filed for it. -/
theorem blank_after {start : Glossary} {history : List Filing} {locale : String} :
    (start.after history).Blank locale ↔ start.Blank locale ∧ ∀ filing ∈ history, filing.locale ≠ locale := by
  induction history generalizing start with
  | nil => simp [after]
  | cons filing rest ih =>
    have later : (start.after (filing :: rest)).Blank locale ↔
        (start.file filing).Blank locale ∧ ∀ filing ∈ rest, filing.locale ≠ locale := ih
    rw [later, file, blank_insert, List.forall_mem_cons, and_assoc]

/-- The locales are listed in the order of their bytes: those that have a term, and those that the start lists without
one as long as none is filed for them. -/
theorem locales_history (start : Glossary) (history : List Filing) :
    ((start.after history).locales.Pairwise fun left right => left.toUTF8.data.toList < right.toUTF8.data.toList) ∧
      (∀ locale, locale ∈ (start.after history).locales ↔ (start.after history).HasTerm locale ∨
        start.Blank locale ∧ ∀ filing ∈ history, filing.locale ≠ locale) ∧
      ((∀ locale ∈ start.locales, start.HasTerm locale) → ∀ locale,
        locale ∈ (start.after history).locales ↔ (start.after history).HasTerm locale) := by
  have members : ∀ locale, locale ∈ (start.after history).locales ↔ (start.after history).HasTerm locale ∨
      start.Blank locale ∧ ∀ filing ∈ history, filing.locale ≠ locale := by
    intro locale
    rw [← blank_after]
    constructor
    · intro listed
      by_cases hasTerm : (start.after history).HasTerm locale
      · exact .inl hasTerm
      · exact .inr ⟨listed, hasTerm⟩
    · rintro (hasTerm | blank)
      · exact mem_locales_of_hasTerm hasTerm
      · exact blank.listed
  refine ⟨Dictionary.names_bytes_ascending _, members, ?_⟩
  intro full locale
  rw [members, or_iff_left]
  rintro ⟨blank, _⟩
  exact blank.empty (full locale blank.listed)

/-- A text lists a locale without a term. -/
theorem locales_blank : ∃ start, parse "\x7b\"en\": \x7b\x7d\x7d" = .ok start ∧
    (start.after []).locales = ["en"] ∧ ¬ (start.after []).HasTerm "en" := by
  refine ⟨⟨.ofList [("en", .empty)]⟩, by decide +kernel, rfl, ?_⟩
  rintro ⟨term, forms, ⟨⟩⟩

end Glossary
end Localizable
