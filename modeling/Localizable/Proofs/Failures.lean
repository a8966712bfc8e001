import Localizable.Proofs.HeldValues

/-!
# How formatting fails

A predicate on errors holds of all errors of a result if it holds of those of its steps (`FailsWith`). Values and functions
of the library fail in ways of their own, and never with the report that a name is unknown (`Value.OfLibrary.pastNames`,
`Function.OfLibrary.pastNames`). Those of the host may look a name up themselves, and report it.
-/

namespace Localizable

/-- If the result is an error it is such an error. -/
def FailsWith {α : Type} (Such : FormatError → Prop) (result : Except FormatError α) : Prop :=
  ∀ error, result = .error error → Such error

namespace FailsWith

variable {α β : Type} {Such Other : FormatError → Prop}

theorem ok (value : α) : FailsWith Such (.ok value : Except FormatError α) := by
  rintro error ⟨⟩

theorem error {error : FormatError} (such : Such error) : FailsWith Such (.error error : Except FormatError α) := by
  rintro other ⟨⟩
  exact such

theorem imp {result : Except FormatError α} (fails : FailsWith Such result)
    (each : ∀ error, Such error → Other error) : FailsWith Other result :=
  fun error failed => each error (fails error failed)

theorem bind {first : Except FormatError α} {later : α → Except FormatError β} (fails : FailsWith Such first)
    (onward : ∀ value, first = .ok value → FailsWith Such (later value)) : FailsWith Such (first.bind later) := by
  cases first with
  | error error => exact .error (fails error rfl)
  | ok value => exact onward value rfl

theorem map {result : Except FormatError α} (fails : FailsWith Such result) (change : α → β) :
    FailsWith Such (result.map change) := by
  cases result with
  | error error => exact .error (fails error rfl)
  | ok value => exact .ok _

theorem mapM {items : List α} {change : α → Except FormatError β}
    (each : ∀ item ∈ items, FailsWith Such (change item)) : FailsWith Such (items.mapM change) := by
  induction items with
  | nil => exact .ok _
  | cons item rest ih =>
    obtain ⟨own, others⟩ := List.forall_mem_cons.1 each
    rw [List.mapM_cons]
    exact own.bind fun value _ => (ih others).bind fun values _ => .ok _

theorem mapExcept {dictionary : Dictionary α} {change : α → Except FormatError β}
    (each : ∀ entry ∈ dictionary.entries, FailsWith Such (change entry.2)) :
    FailsWith Such (dictionary.mapExcept change) :=
  (mapM fun entry member => (each entry member).map _).map _

end FailsWith

/-! ## Values and functions that report no name -/

/-- An error of what a name stands for, or of none. -/
def FormatError.PastNames : FormatError → Prop
  | .unknownFunction _ _ => False
  | .unknownVariable _ => False
  | _ => True

namespace Functions

variable (function name : String) (options : OptionValues)

theorem requireOperand_pastNames (operand : Option Value) :
    FailsWith FormatError.PastNames (requireOperand function operand) := by
  cases operand with
  | none => exact .error trivial
  | some value => exact .ok _

theorem text_pastNames : FailsWith FormatError.PastNames (options.text function name) := by
  unfold OptionValues.text
  cases options.get? name with
  | none => exact .ok _
  | some value =>
    cases value with
    | text text => exact .ok _
    | _ => exact .error trivial

theorem count_pastNames : FailsWith FormatError.PastNames (options.count function name) := by
  unfold OptionValues.count
  cases options.get? name with
  | none => exact .ok _
  | some value =>
    dsimp only
    cases value.count? with
    | none => exact .error trivial
    | some n => exact .ok _

theorem digitOption_pastNames : FailsWith FormatError.PastNames (digitOption function options name) := by
  have counts := count_pastNames function name options
  unfold digitOption
  cases counted : options.count function name with
  | error error => exact .error (counts error counted)
  | ok count =>
    cases count with
    | none => exact .ok _
    | some n =>
      dsimp only
      split
      · exact .ok _
      · exact .error trivial

theorem digitOptions_pastNames : FailsWith FormatError.PastNames (digitOptions function options) :=
  (digitOption_pastNames _ _ _).bind fun _ _ => (digitOption_pastNames _ _ _).bind fun _ _ =>
    (digitOption_pastNames _ _ _).bind fun _ _ => .ok _

theorem numberOf_pastNames (value : Value) : FailsWith FormatError.PastNames (numberOf function value) := by
  cases value with
  | number number => exact .ok _
  | plural number type => exact .ok _
  | text text =>
    dsimp only [numberOf]
    cases Number.parse? text with
    | none => exact .error trivial
    | some number => exact .ok _
  | _ => exact .error trivial

theorem pluralType_pastNames : FailsWith FormatError.PastNames (pluralType options) := by
  have texts := text_pastNames "plural" "type" options
  unfold pluralType
  cases read : options.text "plural" "type" with
  | error error => exact .error (texts error read)
  | ok text =>
    cases text with
    | none => exact .ok _
    | some name =>
      dsimp only
      cases PluralType.ofName? name with
      | none => exact .error trivial
      | some type => exact .ok _

theorem inLetterCase_pastNames (text locale : String) :
    FailsWith FormatError.PastNames (inLetterCase function options text locale) := by
  have texts := text_pastNames function "lettercase" options
  unfold inLetterCase
  cases read : options.text function "lettercase" with
  | error error => exact .error (texts error read)
  | ok asked =>
    cases asked with
    | none => exact .ok _
    | some name =>
      dsimp only
      cases LetterCaseOption.ofName? name with
      | none => exact .error trivial
      | some option => exact .ok _

theorem termName_pastNames (value : Value) : FailsWith FormatError.PastNames (termName value) := by
  cases value with
  | text text => exact .ok _
  | _ => exact .error trivial

theorem termForms_pastNames (glossary : Glossary) (locale : String) :
    FailsWith FormatError.PastNames (termForms glossary locale name) := by
  unfold termForms
  cases glossary.lookup locale name with
  | none => exact .error trivial
  | some forms => exact .ok _

theorem termText_pastNames (forms : TermForms) : FailsWith FormatError.PastNames (termText name forms options) := by
  have texts := text_pastNames "term" "form" options
  unfold termText
  cases read : options.text "term" "form" with
  | error error => exact .error (texts error read)
  | ok asked =>
    dsimp only
    cases forms.get? (asked.getD canonicalForm) with
    | none => exact .error trivial
    | some text => exact .ok _

end Functions

theorem PluralInput.operands_pastNames (input : PluralInput) : FailsWith FormatError.PastNames input.operands := by
  unfold operands
  split
  · exact .ok _
  · split
    · exact .ok _
    · exact .error trivial

theorem pluralCategory_pastNames (locale : String) (type : PluralType) (input : PluralInput) :
    FailsWith FormatError.PastNames (pluralCategory locale type input) := by
  have reads := input.operands_pastNames
  unfold pluralCategory
  cases read : input.operands with
  | error error => exact .error (reads error read)
  | ok operands =>
    dsimp only [pluralRulesOf]
    cases LanguageTag.parse? locale with
    | none => exact .error trivial
    | some tag => exact .ok _

section
variable [Host]

/-- Wherever the value is shown or named by a key it does not report a name as unknown. -/
structure Value.PastNames (value : Value) : Prop where
  text : ∀ surroundings, FailsWith FormatError.PastNames (value.formatText surroundings)
  parts : ∀ surroundings, FailsWith FormatError.PastNames (value.formatParts surroundings)
  matched : ∀ surroundings key, FailsWith FormatError.PastNames (value.isMatchedBy surroundings key)

/-- No value of the library reports a name. -/
theorem Value.OfLibrary.pastNames {value : Value} (library : value.OfLibrary) : value.PastNames := by
  cases value with
  | text value => exact ⟨fun _ => .ok _, fun _ => .ok _, fun _ _ => .ok _⟩
  | number n => exact ⟨fun _ => .ok _, fun _ => .ok _, fun _ _ => .ok _⟩
  | plural n type =>
    refine ⟨fun _ => .error trivial, fun _ => .error trivial, fun surroundings key => ?_⟩
    rw [isMatchedBy]
    split
    · exact .ok _
    · exact (pluralCategory_pastNames _ _ _).map _
  | object item => exact ⟨fun _ => .error trivial, fun _ => .ok _, fun _ _ => .error trivial⟩
  | host item => exact absurd rfl (library item)

/-- Given values that report no name, the function reports none and gives a value that does not. -/
structure Function.PastNames (function : Function) : Prop where
  fails : ∀ surroundings operand options, Given Value.PastNames operand options →
    FailsWith FormatError.PastNames (function.behaviour surroundings operand options)
  keeps : function.Keeps Value.PastNames

open Functions in
/-- No function of the library reports a name. -/
theorem Function.OfLibrary.pastNames {function : Function} (library : function.OfLibrary) : function.PastNames where
  keeps := library.keeps _
  fails surroundings operand options given := by
    cases function with
    | number =>
      exact (requireOperand_pastNames _ _).bind fun _ _ => (numberOf_pastNames _ _).bind fun _ _ =>
        (digitOptions_pastNames _ _).bind fun _ _ => .ok _
    | plural =>
      exact (requireOperand_pastNames _ _).bind fun _ _ => (numberOf_pastNames _ _).bind fun _ _ =>
        (pluralType_pastNames _).bind fun _ _ => (digitOptions_pastNames _ _).bind fun _ _ => .ok _
    | equals =>
      cases operand with
      | none => exact .error trivial
      | some value =>
        cases value with
        | text text => exact .ok _
        | _ => exact .error trivial
    | string =>
      cases operand with
      | none => exact .error trivial
      | some value =>
        exact ((given.operand value rfl).text surroundings).bind fun _ _ => (inLetterCase_pastNames _ _ _ _).bind
          fun _ _ => .ok _
    | term glossary =>
      exact (requireOperand_pastNames _ _).bind fun value _ => (termName_pastNames value).bind fun _ _ =>
        (termForms_pastNames _ _ _).bind fun _ _ => (termText_pastNames _ _ _).bind fun _ _ =>
          (inLetterCase_pastNames _ _ _ _).bind fun _ _ => .ok _
    | host label => exact absurd rfl (library label)

theorem keysName_pastNames {surroundings : Surroundings} {keys : List Key} {values : List Value}
    (past : ∀ value ∈ values, value.PastNames) :
    FailsWith FormatError.PastNames (keysName surroundings keys values) := by
  intro error failed
  obtain ⟨key, value, member, answered⟩ := exists_names_of_keysName failed
  cases key with
  | any => cases answered
  | literal text => exact (past value member).matched surroundings text error answered

/-- Selecting among values that report no name reports none. -/
theorem selectFrom_pastNames {surroundings : Surroundings} {values : List Value} {variants : List Variant}
    (past : ∀ value ∈ values, value.PastNames) :
    FailsWith FormatError.PastNames (selectFrom surroundings values 0 variants) := by
  intro error failed
  rcases (selectFrom_spec variants).2.1 error |>.1 failed with ⟨_, variant, _, fails, _⟩ | ⟨rfl, _⟩
  · exact keysName_pastNames past error (Variant.fails_iff.1 fails)
  · trivial

end

end Localizable
