import Localizable.Proofs.HeldValues
import Localizable.Proofs.Renderings

/-!
# What a message mentions

Formatting a message looks at the variables that occur in it, unless a declaration
in front of them hides the argument, and at the functions it names, each in the role
that its place gives it. Scopes that agree on those (`Scope.Agrees`) have the same
results, if functions and values look at nothing else of a scope but its locale, as all
of the library do, and opening markup has a say in parts alone
(`LocalizedMessage.format_of_agreement`). What an error suggests comes from all names
there are, and may differ.
-/

namespace Localizable

def FormatError.withoutSuggestions : FormatError → FormatError
  | .unknownFunction name _ => .unknownFunction name []
  | error => error

/-- The same outcome, whatever names an error suggests. -/
def SameResult {α : Type} (left right : Except FormatError α) : Prop :=
  left.mapError FormatError.withoutSuggestions = right.mapError FormatError.withoutSuggestions

namespace SameResult

variable {α β : Type}

theorem of_eq {left right : Except FormatError α} (same : left = right) : SameResult left right := by
  rw [same, SameResult]

theorem cases {left right : Except FormatError α} (same : SameResult left right) :
    (∃ value, left = .ok value ∧ right = .ok value) ∨
      ∃ error other, left = .error error ∧ right = .error other ∧
        error.withoutSuggestions = other.withoutSuggestions := by
  unfold SameResult at same
  cases left <;> cases right <;> simp_all [Except.mapError]

theorem bind {left right : Except FormatError α} {onLeft onRight : α → Except FormatError β}
    (first : SameResult left right)
    (later : ∀ value, left = .ok value → SameResult (onLeft value) (onRight value)) :
    SameResult (left.bind onLeft) (right.bind onRight) := by
  rcases first.cases with ⟨value, rfl, rfl⟩ | ⟨error, other, rfl, rfl, alike⟩
  · exact later value rfl
  · exact congrArg Except.error alike

theorem map {left right : Except FormatError α} (same : SameResult left right) (change : α → β) :
    SameResult (left.map change) (right.map change) := by
  rcases same.cases with ⟨value, rfl, rfl⟩ | ⟨error, other, rfl, rfl, alike⟩
  · rfl
  · exact congrArg Except.error alike

theorem mapM {items : List β} {onLeft onRight : β → Except FormatError α}
    (each : ∀ item ∈ items, SameResult (onLeft item) (onRight item)) :
    SameResult (items.mapM onLeft) (items.mapM onRight) := by
  induction items with
  | nil => rfl
  | cons item rest ih =>
    obtain ⟨own, others⟩ := List.forall_mem_cons.1 each
    rw [List.mapM_cons, List.mapM_cons]
    exact own.bind fun value _ => (ih others).bind fun values _ => of_eq rfl

theorem mapExcept {dictionary : Dictionary β} {onLeft onRight : β → Except FormatError α}
    (each : ∀ entry ∈ dictionary.entries, SameResult (onLeft entry.2) (onRight entry.2)) :
    SameResult (dictionary.mapExcept onLeft) (dictionary.mapExcept onRight) :=
  (mapM fun entry member => (each entry member).map _).map _

end SameResult

section
variable [Host]

/-- The value is shown alike and named by the same keys wherever the locale is the same. -/
structure Value.LocaleOnly (value : Value) : Prop where
  text : ∀ left right : Surroundings, left.locale = right.locale → value.formatText left = value.formatText right
  parts : ∀ left right : Surroundings, left.locale = right.locale → value.formatParts left = value.formatParts right
  matched : ∀ left right : Surroundings, left.locale = right.locale →
    ∀ key, value.isMatchedBy left key = value.isMatchedBy right key

/-- All values of the library look at the locale alone. -/
theorem Value.OfLibrary.localeOnly {value : Value} (library : value.OfLibrary) : value.LocaleOnly := by
  cases value with
  | host item => exact absurd rfl (library item)
  | plural n type =>
    refine ⟨fun _ _ _ => rfl, fun _ _ _ => rfl, fun left right locale key => ?_⟩
    rw [isMatchedBy, isMatchedBy, locale]
  | _ => exact ⟨fun _ _ _ => rfl, fun _ _ _ => rfl, fun _ _ _ _ => rfl⟩

/-- Given values that look at the locale alone, the function gives one that does, and the same one wherever the locale
is the same. -/
structure Function.LocaleOnly (function : Function) : Prop where
  same : ∀ left right : Surroundings, left.locale = right.locale → ∀ operand options,
    Given Value.LocaleOnly operand options →
      function.behaviour left operand options = function.behaviour right operand options
  keeps : function.Keeps Value.LocaleOnly

/-- All functions of the library look at the locale alone. -/
theorem Function.OfLibrary.localeOnly {function : Function} (library : function.OfLibrary) : function.LocaleOnly where
  keeps := library.keeps _
  same left right locale operand options given := by
    cases function with
    | host label => exact absurd rfl (library label)
    | string =>
      cases operand with
      | none => rfl
      | some value =>
        change (value.formatText left).bind _ = (value.formatText right).bind _
        rw [(given.operand value rfl).text left right locale, locale]
    | term glossary => simp only [behaviour, Functions.term, locale]
    | _ => rfl

end

namespace Scope

variable {left right : Scope} {names : List String} {functions : List (Role × String)}

theorem resolveOperand_eq {item : Operand} (values : ∀ name ∈ item.variables, left.valueOf name = right.valueOf name) :
    left.resolveOperand item = right.resolveOperand item := by
  cases item with
  | literal value => rfl
  | «variable» name => exact values name (List.mem_singleton_self name)

theorem resolveOptions_same {options : Options}
    (values : ∀ name ∈ options.variables, left.valueOf name = right.valueOf name) :
    SameResult (left.resolveOptions options) (right.resolveOptions options) :=
  SameResult.mapExcept fun entry member => .of_eq <| resolveOperand_eq fun name occurs =>
    values name (List.mem_flatMap.2 ⟨entry, member, occurs⟩)

theorem lookup_same {role : Role} {name : String}
    (finds : left.registry.find? role name = right.registry.find? role name) :
    SameResult (left.registry.lookup role name) (right.registry.lookup role name) := by
  unfold Registry.lookup
  rw [finds]
  cases right.registry.find? role name <;> rfl

variable [Host]

/-- Scopes of one locale in which some variables have the same values and some names the same functions, which look
at the locale alone. -/
structure Agrees (left right : Scope) (names : List String) (functions : List (Role × String)) : Prop where
  locale : left.locale = right.locale
  values : ∀ name ∈ names, left.valueOf name = right.valueOf name
  finds : ∀ mention ∈ functions, left.registry.find? mention.1 mention.2 = right.registry.find? mention.1 mention.2
  shown : ∀ name ∈ names, ∀ item, left.valueOf name = .ok (.host item) → (Value.host item).LocaleOnly
  called : ∀ mention ∈ functions, ∀ function,
    left.registry.find? mention.1 mention.2 = some function → function.LocaleOnly

theorem Agrees.keeps (agrees : Agrees left right names functions) : left.Keeps Value.LocaleOnly names functions where
  library _ := Value.OfLibrary.localeOnly
  values := agrees.shown
  functions mention member function finds := (agrees.called mention member function finds).keeps

theorem Agrees.mono (agrees : Agrees left right names functions) {fewer : List String}
    {less : List (Role × String)} (within : fewer ⊆ names) (mentions : less ⊆ functions) :
    Agrees left right fewer less where
  locale := agrees.locale
  values name member := agrees.values name (within member)
  finds mention member := agrees.finds mention (mentions member)
  shown name member := agrees.shown name (within member)
  called mention member := agrees.called mention (mentions member)

/-- What is declared under a name in both scopes makes them agree on it. -/
theorem Agrees.bind {name : String} {value : Value} (agrees : Agrees left right (names.filter (· ≠ name)) functions)
    (localeOnly : value.LocaleOnly) : Agrees (left.bind name value) (right.bind name value) names functions where
  locale := agrees.locale
  finds := agrees.finds
  shown := (agrees.keeps.bind localeOnly).values
  called := agrees.called
  values wanted member := by
    rw [valueOf_bind, valueOf_bind]
    split
    · rfl
    next other => exact agrees.values wanted (List.mem_filter.2 ⟨member, decide_eq_true other⟩)

/-- A function that is found is called with the values of its operand and of its options. -/
theorem resolve_of_find? {scope : Scope} {role : Role} {item : Operand} {invocation : Invocation} {function : Function}
    (finds : scope.registry.find? role invocation.name = some function) :
    scope.resolve role (.operand item (some invocation)) =
      (scope.resolveOperand item).bind fun value =>
        (scope.resolveOptions invocation.options).bind fun options => scope.call function (some value) options := by
  rw [resolve, resolveCall, Registry.lookup_of_find? finds, Option.mapM_some]
  cases scope.resolveOperand item <;> rfl

theorem resolveCall_same {role : Role} {operand : Option Operand} {invocation : Invocation}
    (agrees : Agrees left right (operand.toList.flatMap Operand.variables ++ invocation.options.variables)
      [(role, invocation.name)]) :
    SameResult (left.resolveCall role operand invocation) (right.resolveCall role operand invocation) := by
  have mentioned : (role, invocation.name) ∈ [(role, invocation.name)] := List.mem_singleton_self _
  have operands : operand.mapM left.resolveOperand = operand.mapM right.resolveOperand := by
    cases operand with
    | none => rfl
    | some item =>
      have same := @resolveOperand_eq left right item fun name occurs => agrees.values name (by simp [occurs])
      rw [Option.mapM_some, Option.mapM_some, same]
  have options := @resolveOptions_same left right invocation.options fun name occurs =>
    agrees.values name (by simp [occurs])
  -- a function that is found is one function for both, and is given values that look at the locale alone
  refine (lookup_same (agrees.finds _ mentioned)).bind fun function found =>
    (SameResult.of_eq operands).bind fun value operates => options.bind fun values resolved => .of_eq ?_
  have localeOnly := agrees.called _ mentioned function (Registry.find?_of_lookup found)
  exact localeOnly.same _ _ agrees.locale value values (agrees.keeps.given operates resolved)

theorem resolve_same {role : Role} {expression : Expression}
    (agrees : Agrees left right expression.variables (expression.functions role)) :
    SameResult (left.resolve role expression) (right.resolve role expression) := by
  cases expression with
  | operand item function =>
    cases function with
    | none => exact .of_eq (resolveOperand_eq agrees.values)
    | some invocation => exact resolveCall_same (agrees.mono (by simp [Expression.variables]) (List.Subset.refl _))
  | call invocation => exact resolveCall_same (agrees.mono (by simp [Expression.variables]) (List.Subset.refl _))

/-- Scopes that agree on what is free in declarations and behind them agree behind them. -/
theorem declare_same {declarations : List Declaration} {inner : List String}
    (declared : declarations.flatMap (fun declaration => declaration.expression.functions .formatter) ⊆ functions)
    (agrees : Agrees left right (freeBehind declarations inner) functions) :
    SameResult (left.declare declarations).2 (right.declare declarations).2 ∧
      ((left.declare declarations).2 = .ok () →
        Agrees (left.declare declarations).1 (right.declare declarations).1 inner functions) := by
  induction declarations generalizing left right with
  | nil => exact ⟨rfl, fun _ => agrees⟩
  | cons declaration rest ih =>
    rw [List.flatMap_cons, List.append_subset] at declared
    -- both scopes declare the same value, so behind it they agree on its name too
    have own := agrees.mono (List.subset_append_left ..) declared.1
    have behind := agrees.mono (List.subset_append_right ..) (List.Subset.refl _)
    rw [declare, declare]
    rcases (resolve_same own).cases with ⟨value, resolved, other⟩ | ⟨error, unlike, resolved, other, alike⟩
    · rw [resolved, other]
      exact ih declared.2 (behind.bind (own.keeps.resolve resolved))
    · rw [resolved, other]
      refine ⟨congrArg Except.error alike, ?_⟩
      rintro ⟨⟩

theorem resolveSelector_same {selector : Expression}
    (agrees : Agrees left right selector.variables (selector.functions .matcher)) :
    SameResult (left.resolveSelector selector) (right.resolveSelector selector) := by
  unfold resolveSelector
  rcases (resolve_same agrees).cases with ⟨value, resolved, other⟩ | ⟨error, unlike, resolved, other, alike⟩
  · rw [resolved, other]
    exact .of_eq rfl
  · rw [resolved, other]
    exact congrArg Except.error alike

theorem select_same {message : Message}
    (agrees : Agrees left right (message.selectors.flatMap Expression.variables)
      (message.selectors.flatMap fun selector => selector.functions .matcher)) :
    SameResult (left.select message) (right.select message) := by
  have values : SameResult (message.selectors.mapM left.resolveSelector)
      (message.selectors.mapM right.resolveSelector) :=
    SameResult.mapM fun selector member => resolveSelector_same
      (agrees.mono (fun _ occurs => List.mem_flatMap.2 ⟨selector, member, occurs⟩)
        fun _ occurs => List.mem_flatMap.2 ⟨selector, member, occurs⟩)
  refine values.bind fun values resolved => .of_eq (selectFrom_congr (fun value member key => ?_) 0 _)
  have localeOnly := agrees.keeps.selectors (((mapM_resolveSelector _).1 values).1 resolved) value member
  exact localeOnly.matched _ _ agrees.locale key

theorem elementText_same {element : Element} (agrees : Agrees left right element.textVariables element.functions) :
    SameResult (left.elementText element) (right.elementText element) := by
  cases element with
  | text value => rfl
  | expression content =>
    rw [elementText_expression, elementText_expression]
    exact (resolve_same agrees).bind fun value resolved =>
      .of_eq ((agrees.keeps.resolve resolved).text _ _ agrees.locale)
  | markupOpen name options => rfl
  | markupClose name => rfl

theorem elementParts_same {element : Element} (agrees : Agrees left right element.variables element.functions) :
    SameResult (left.elementParts element) (right.elementParts element) := by
  cases element with
  | text value => rfl
  | expression content =>
    rw [elementParts_expression, elementParts_expression]
    exact (resolve_same agrees).bind fun value resolved =>
      .of_eq ((agrees.keeps.resolve resolved).parts _ _ agrees.locale)
  | markupOpen name options =>
    rw [elementParts_markupOpen, elementParts_markupOpen]
    refine (resolveOptions_same agrees.values).bind fun values resolved =>
      (SameResult.mapExcept fun entry member => .of_eq ?_).map _
    have held := Dictionary.get?_eq_some_iff.2 member
    exact (agrees.keeps.resolveOptions resolved entry.1 entry.2 held).text _ _ agrees.locale
  | markupClose name => rfl

theorem patternText_same {pattern : Pattern}
    (agrees : Agrees left right (pattern.flatMap Element.textVariables) (pattern.flatMap Element.functions)) :
    SameResult (left.patternText pattern) (right.patternText pattern) := by
  induction pattern with
  | nil => rfl
  | cons element rest ih =>
    rw [patternText_cons, patternText_cons]
    have first := elementText_same (agrees.mono (List.subset_append_left ..) (List.subset_append_left ..))
    have later := ih (agrees.mono (List.subset_append_right ..) (List.subset_append_right ..))
    exact first.bind fun value _ => later.map _

theorem patternParts_same {pattern : Pattern}
    (agrees : Agrees left right (pattern.flatMap Element.variables) (pattern.flatMap Element.functions)) :
    SameResult (left.patternParts pattern) (right.patternParts pattern) := by
  induction pattern with
  | nil => rfl
  | cons element rest ih =>
    rw [patternParts_cons, patternParts_cons]
    have first := elementParts_same (agrees.mono (List.subset_append_left ..) (List.subset_append_left ..))
    have later := ih (agrees.mono (List.subset_append_right ..) (List.subset_append_right ..))
    exact first.bind fun value _ => later.map _

/-- Scopes that agree on what a message mentions enter it alike, and then agree on the pattern that is selected. -/
theorem enter_same {message : Message} (shown : Element → List String)
    (agrees : Agrees left right (message.freeVariables shown) message.functions) :
    SameResult (left.enter message).2 (right.enter message).2 ∧
      ∀ selection, (left.enter message).2 = .ok selection → Agrees (left.enter message).1 (right.enter message).1
        (selection.variant.pattern.flatMap shown) (selection.variant.pattern.flatMap Element.functions) := by
  obtain ⟨declares, onward⟩ := declare_same (List.subset_append_left ..) agrees
  have behind : message.selectors.flatMap (fun selector => selector.functions .matcher) ⊆ message.functions :=
    fun _ member => List.mem_append_right _ (List.mem_append_left _ member)
  rw [enter_result, enter_result, enter_scope, enter_scope]
  constructor
  · refine declares.bind fun _ declared => select_same ?_
    exact (onward declared).mono (List.subset_append_left ..) behind
  · intro selection entered
    obtain ⟨_, declared, selected⟩ := bind_eq_ok.1 entered
    have member := mem_of_select selected
    refine (onward declared).mono (fun name occurs => ?_) fun mention occurs => ?_
    · exact List.mem_append_right _ (List.mem_flatMap.2 ⟨_, member, occurs⟩)
    · exact List.mem_append_right _ (List.mem_append_right _ (List.mem_flatMap.2 ⟨_, member, occurs⟩))

theorem messageText_same {message : Message}
    (agrees : Agrees left right (message.freeVariables Element.textVariables) message.functions) :
    SameResult (left.messageText message).2 (right.messageText message).2 := by
  obtain ⟨enters, onward⟩ := enter_same _ agrees
  rw [messageText_result, messageText_result]
  exact enters.bind fun selection selected => patternText_same (onward selection selected)

theorem messageParts_same {message : Message}
    (agrees : Agrees left right (message.freeVariables Element.variables) message.functions) :
    SameResult (left.messageParts message).2 (right.messageParts message).2 := by
  obtain ⟨enters, onward⟩ := enter_same _ agrees
  rw [messageParts_result, messageParts_result]
  exact enters.bind fun selection selected => patternParts_same (onward selection selected)

end Scope

namespace LocalizedMessage

section
variable [Host]

end

/-- The message of `let $n = {$count :string} {{$n}{+b title=$tip}}`, in which no argument is seen as `n`. -/
def captioned : LocalizedMessage where
  locale := "en"
  source := "let $n = \x7b$count :string\x7d \x7b\x7b$n\x7d\x7b+b title=$tip\x7d\x7d"
  message := {
    declarations := [⟨"n", .operand (.variable "count") (some ⟨"string", .empty⟩)⟩]
    selectors := []
    variants := [⟨[], [.expression (.operand (.variable "n") none),
      .markupOpen "b" (.ofList [("title", .variable "tip")])]⟩] }
  registry := none

section
attribute [local instance] Host.labels

end

section
attribute [local instance] Host.pointers

-- a value that is shown as another variable sees what the message does not mention
example :
    let localized : LocalizedMessage := ⟨"en", "\x7b\x7b$x\x7d\x7d", .showing [] (.operand (.variable "x") none), none⟩
    let given := Dictionary.ofList [("x", Value.host ⟨"pointer", "other"⟩)]
    Message.parse localized.source = .ok localized.message ∧
      localized.formatText .empty (given.insert "other" (.text "a")) = .ok "a" ∧
      localized.formatText .empty (given.insert "other" (.text "b")) = .ok "b" := by decide +kernel

end

end LocalizedMessage

end Localizable
