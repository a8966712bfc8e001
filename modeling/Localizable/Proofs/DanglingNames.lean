import Localizable.Proofs.Declarations
import Localizable.Proofs.Failures
import Localizable.Proofs.Mentions

/-!
# Names that dangle

A name that is reported as unknown dangles. A variable is free in the message, and there is neither a declaration in
front of it nor an argument of its name; a function is looked for in the table of its place and is not in it
(`LocalizedMessage.unknown_dangles`). For functions and values of the library never report a name, only expressions
do, and of an expression the function is reported first. An argument that looks names up on its own may report others.
-/

namespace Localizable

namespace Scope

/-- An error that reports a name reports one of these, which stands for nothing in the scope: a variable has no value,
and a function is not in the table of the role that it is mentioned in. -/
inductive Dangles (scope : Scope) (names : List String) (mentions : List (Role × String)) : FormatError → Prop
  | variable {name : String} (occurs : name ∈ names) (unbound : scope.valueOf name = .error (.unknownVariable name)) :
    Dangles scope names mentions (.unknownVariable name)
  | function {role : Role} {name : String} (mentioned : (role, name) ∈ mentions)
      (missing : scope.registry.find? role name = none) (suggestions : List String) :
    Dangles scope names mentions (.unknownFunction name suggestions)
  | past {error : FormatError} (past : error.PastNames) : Dangles scope names mentions error

variable {scope : Scope} {names : List String} {mentions : List (Role × String)}

theorem Dangles.mono {more : List String} {others : List (Role × String)} {error : FormatError}
    (dangles : scope.Dangles names mentions error) (within : names ⊆ more) (among : mentions ⊆ others) :
    scope.Dangles more others error := by
  cases dangles with
  | «variable» occurs unbound => exact .variable (within occurs) unbound
  | function mentioned missing suggestions => exact .function (among mentioned) missing suggestions
  | past past => exact .past past

/-- What dangles behind a declaration dangles in front of it, and has another name. -/
theorem Dangles.of_bind {name : String} {value : Value} {error : FormatError}
    (dangles : (scope.bind name value).Dangles names mentions error) :
    scope.Dangles (names.filter (· ≠ name)) mentions error := by
  cases dangles with
  | @«variable» wanted occurs unbound =>
    rw [valueOf_bind] at unbound
    split at unbound
    · cases unbound
    next other => exact .variable (List.mem_filter.2 ⟨occurs, decide_eq_true other⟩) unbound
  | @function role wanted mentioned missing suggestions =>
    have absent : scope.registry.find? role wanted = none := missing
    exact .function mentioned absent suggestions
  | past past => exact .past past

theorem failsWith_mono {α : Type} {result : Except FormatError α} {more : List String} {others : List (Role × String)}
    (fails : FailsWith (scope.Dangles names mentions) result) (within : names ⊆ more) (among : mentions ⊆ others) :
    FailsWith (scope.Dangles more others) result :=
  fails.imp fun _ dangles => dangles.mono within among

theorem failsWith_past {α : Type} {result : Except FormatError α} (fails : FailsWith FormatError.PastNames result) :
    FailsWith (scope.Dangles names mentions) result :=
  fails.imp fun _ past => .past past

theorem valueOf_dangles (scope : Scope) (name : String) : FailsWith (scope.Dangles [name] []) (scope.valueOf name) := by
  intro error failed
  have unbound : scope.valueOf name = .error (.unknownVariable name) := by
    unfold valueOf at failed ⊢
    cases declared : scope.locals.get? name with
    | some value =>
      rw [declared] at failed
      cases failed
    | none =>
      cases given : scope.arguments.get? name with
      | some value =>
        rw [declared, given] at failed
        cases failed
      | none => rfl
  obtain rfl : error = .unknownVariable name := Except.error.inj (failed.symm.trans unbound)
  exact .variable (List.mem_singleton_self name) unbound

theorem resolveOperand_dangles (scope : Scope) (item : Operand) :
    FailsWith (scope.Dangles item.variables []) (scope.resolveOperand item) := by
  cases item with
  | literal value => exact .ok _
  | «variable» name => exact scope.valueOf_dangles name

theorem resolveOptions_dangles (scope : Scope) (options : Options) :
    FailsWith (scope.Dangles options.variables []) (scope.resolveOptions options) := by
  refine FailsWith.mapExcept fun entry member => ?_
  refine failsWith_mono (scope.resolveOperand_dangles entry.2) (fun name occurs => ?_) (List.Subset.refl _)
  exact List.mem_flatMap.2 ⟨entry, member, occurs⟩

theorem lookup_dangles (scope : Scope) (role : Role) (name : String) :
    FailsWith (scope.Dangles [] [(role, name)]) (scope.registry.lookup role name) := by
  unfold Registry.lookup
  cases found : scope.registry.find? role name with
  | some function => exact .ok _
  | none => exact .error (.function (List.mem_singleton_self _) found _)

variable [Host]

/-- Neither the values of the host that some variables have nor some functions report a name. -/
structure PastNames (scope : Scope) (names : List String) (mentions : List (Role × String)) : Prop where
  values : ∀ name ∈ names, ∀ item, scope.valueOf name = .ok (.host item) → (Value.host item).PastNames
  functions : ∀ mention ∈ mentions, ∀ function,
    scope.registry.find? mention.1 mention.2 = some function → function.PastNames

namespace PastNames

theorem keeps (past : scope.PastNames names mentions) : scope.Keeps Value.PastNames names mentions where
  library _ := Value.OfLibrary.pastNames
  values := past.values
  functions mention member function finds := (past.functions mention member function finds).keeps

theorem mono (past : scope.PastNames names mentions) {fewer : List String} {less : List (Role × String)}
    (within : fewer ⊆ names) (among : less ⊆ mentions) : scope.PastNames fewer less where
  values name member := past.values name (within member)
  functions mention member := past.functions mention (among member)

theorem bind {name : String} {value : Value} (past : scope.PastNames (names.filter (· ≠ name)) mentions)
    (own : value.PastNames) : (scope.bind name value).PastNames names mentions where
  values := (past.keeps.bind own).values
  functions := past.functions

theorem enter {message : Message} {shown : Element → List String} {selection : Selection}
    (past : scope.PastNames (message.freeVariables shown) message.functions)
    (entered : (scope.enter message).2 = .ok selection) :
    (scope.enter message).1.PastNames (selection.variant.pattern.flatMap shown)
      (selection.variant.pattern.flatMap Element.functions) where
  values := (past.keeps.enter entered).values
  functions mention member function finds := by
    rw [enter_result] at entered
    obtain ⟨_, _, selected⟩ := bind_eq_ok.1 entered
    rw [enter_scope, declare_registry] at finds
    refine past.functions mention ?_ function finds
    exact List.mem_append_right _ (List.mem_append_right _ (List.mem_flatMap.2 ⟨_, mem_of_select selected, member⟩))

end PastNames

theorem resolveCall_dangles {role : Role} {operand : Option Operand} {invocation : Invocation}
    (past : scope.PastNames (operand.toList.flatMap Operand.variables ++ invocation.options.variables)
      [(role, invocation.name)]) :
    FailsWith (scope.Dangles (operand.toList.flatMap Operand.variables ++ invocation.options.variables)
      [(role, invocation.name)]) (scope.resolveCall role operand invocation) := by
  have looks := scope.lookup_dangles role invocation.name
  have options := scope.resolveOptions_dangles invocation.options
  have operands : FailsWith (scope.Dangles (operand.toList.flatMap Operand.variables) [])
      (operand.mapM scope.resolveOperand) := by
    cases operand with
    | none => exact .ok _
    | some item =>
      rw [Option.mapM_some]
      exact (failsWith_mono (scope.resolveOperand_dangles item) (by simp) (List.Subset.refl _)).bind fun _ _ => .ok _
  refine FailsWith.bind (failsWith_mono looks (List.nil_subset _) (List.Subset.refl _)) fun function found => ?_
  refine FailsWith.bind (failsWith_mono operands (List.subset_append_left ..) (List.nil_subset _)) fun value operates => ?_
  refine FailsWith.bind (failsWith_mono options (List.subset_append_right ..) (List.nil_subset _)) fun values resolved => ?_
  have own := past.functions _ (List.mem_singleton_self _) function (Registry.find?_of_lookup found)
  exact failsWith_past (own.fails _ _ _ (past.keeps.given operates resolved))

theorem resolve_dangles {role : Role} {expression : Expression}
    (past : scope.PastNames expression.variables (expression.functions role)) :
    FailsWith (scope.Dangles expression.variables (expression.functions role)) (scope.resolve role expression) := by
  cases expression with
  | operand item function =>
    cases function with
    | none => exact scope.resolveOperand_dangles item
    | some invocation =>
      have same : (some item).toList.flatMap Operand.variables ++ invocation.options.variables =
          (Expression.operand item (some invocation)).variables := by simp [Expression.variables]
      rw [← same] at past ⊢
      exact resolveCall_dangles past
  | call invocation => exact @resolveCall_dangles scope _ role none invocation past

/-- A function that is not found is what an expression reports, whatever else there is to report. -/
theorem resolve_of_missing {role : Role} {expression : Expression} {invocation : Invocation}
    (called : expression.function? = some invocation) (missing : scope.registry.find? role invocation.name = none) :
    scope.resolve role expression =
      .error (.unknownFunction invocation.name (suggestions invocation.name scope.registry.names)) := by
  have looked : scope.registry.lookup role invocation.name =
      .error (.unknownFunction invocation.name (suggestions invocation.name scope.registry.names)) := by
    rw [Registry.lookup, missing]
  cases expression with
  | operand item function =>
    cases called
    rw [resolve, resolveCall, looked]
    rfl
  | call own =>
    cases called
    rw [resolve, resolveCall, looked]
    rfl

/-- Declarations report what dangles in them, and what dangles behind them dangles in front of them if they do not
declare it. -/
theorem declare_dangles {declarations : List Declaration} {inner : List String}
    (past : scope.PastNames (freeBehind declarations inner) mentions)
    (declared : declarations.flatMap (fun declaration => declaration.expression.functions .formatter) ⊆ mentions) :
    FailsWith (scope.Dangles (freeBehind declarations inner) mentions) (scope.declare declarations).2 ∧
      ((scope.declare declarations).2 = .ok () → ∀ error,
        (scope.declare declarations).1.Dangles inner mentions error →
          scope.Dangles (freeBehind declarations inner) mentions error) := by
  induction declarations generalizing scope with
  | nil => exact ⟨.ok _, fun _ _ dangles => dangles⟩
  | cons declaration rest ih =>
    rw [List.flatMap_cons, List.append_subset] at declared
    have own := past.mono (List.subset_append_left ..) declared.1
    have behind := past.mono (List.subset_append_right ..) (List.Subset.refl _)
    rw [declare]
    cases resolved : scope.resolve .formatter declaration.expression with
    | error error =>
      have dangles := resolve_dangles own error resolved
      refine ⟨.error (dangles.mono (List.subset_append_left ..) declared.1), ?_⟩
      rintro ⟨⟩
    | ok value =>
      -- behind the declaration its name has a value, so it is not among what dangles there
      have outward : ∀ error, (scope.bind declaration.name value).Dangles (freeBehind rest inner) mentions error →
          scope.Dangles (freeBehind (declaration :: rest) inner) mentions error := by
        intro error dangles
        exact dangles.of_bind.mono (List.subset_append_right ..) (List.Subset.refl _)
      obtain ⟨fails, onward⟩ := ih (behind.bind (own.keeps.resolve resolved)) declared.2
      exact ⟨fails.imp outward, fun outcome error dangles => outward error (onward outcome error dangles)⟩

theorem resolveSelector_dangles {selector : Expression}
    (past : scope.PastNames selector.variables (selector.functions .matcher)) :
    FailsWith (scope.Dangles selector.variables (selector.functions .matcher)) (scope.resolveSelector selector) := by
  have resolves := resolve_dangles past
  unfold resolveSelector
  cases resolved : scope.resolve .matcher selector with
  | error error => exact .error (resolves error resolved)
  | ok value =>
    dsimp only
    split
    · exact .ok _
    · exact .error (.past trivial)

theorem select_dangles {message : Message} (past : scope.PastNames (message.selectors.flatMap Expression.variables)
      (message.selectors.flatMap fun selector => selector.functions .matcher)) :
    FailsWith (scope.Dangles (message.selectors.flatMap Expression.variables)
      (message.selectors.flatMap fun selector => selector.functions .matcher)) (scope.select message) := by
  have values : FailsWith (scope.Dangles (message.selectors.flatMap Expression.variables)
      (message.selectors.flatMap fun selector => selector.functions .matcher))
        (message.selectors.mapM scope.resolveSelector) :=
    FailsWith.mapM fun selector member => by
      have within : selector.variables ⊆ message.selectors.flatMap Expression.variables :=
        fun _ occurs => List.mem_flatMap.2 ⟨selector, member, occurs⟩
      have among : selector.functions .matcher ⊆ message.selectors.flatMap fun selector => selector.functions .matcher :=
        fun _ occurs => List.mem_flatMap.2 ⟨selector, member, occurs⟩
      exact failsWith_mono (resolveSelector_dangles (past.mono within among)) within among
  refine values.bind fun _ resolved => failsWith_past (selectFrom_pastNames ?_)
  exact past.keeps.selectors (((mapM_resolveSelector _).1 _).1 resolved)

theorem elementText_dangles {element : Element} (past : scope.PastNames element.textVariables element.functions) :
    FailsWith (scope.Dangles element.textVariables element.functions) (scope.elementText element) := by
  cases element with
  | expression content =>
    rw [elementText_expression]
    exact (resolve_dangles past).bind fun value resolved => failsWith_past ((past.keeps.resolve resolved).text _)
  | _ => exact .ok _

theorem elementParts_dangles {element : Element} (past : scope.PastNames element.variables element.functions) :
    FailsWith (scope.Dangles element.variables element.functions) (scope.elementParts element) := by
  cases element with
  | expression content =>
    rw [elementParts_expression]
    exact (resolve_dangles past).bind fun value resolved => failsWith_past ((past.keeps.resolve resolved).parts _)
  | markupOpen name options =>
    rw [elementParts_markupOpen]
    refine (failsWith_mono (scope.resolveOptions_dangles options) (List.Subset.refl _) (List.nil_subset _)).bind
      fun values resolved => FailsWith.map (failsWith_past (FailsWith.mapExcept fun entry member => ?_)) _
    exact (past.keeps.resolveOptions resolved entry.1 entry.2 (Dictionary.get?_eq_some_iff.2 member)).text _
  | _ => exact .ok _

theorem patternText_dangles {pattern : Pattern}
    (past : scope.PastNames (pattern.flatMap Element.textVariables) (pattern.flatMap Element.functions)) :
    FailsWith (scope.Dangles (pattern.flatMap Element.textVariables) (pattern.flatMap Element.functions))
      (scope.patternText pattern) := by
  induction pattern with
  | nil => exact .ok _
  | cons element rest ih =>
    rw [patternText_cons, List.flatMap_cons, List.flatMap_cons]
    refine FailsWith.bind ?_ fun value _ => FailsWith.map ?_ _
    · have own := elementText_dangles (past.mono (List.subset_append_left ..) (List.subset_append_left ..))
      exact failsWith_mono own (List.subset_append_left ..) (List.subset_append_left ..)
    · have others := ih (past.mono (List.subset_append_right ..) (List.subset_append_right ..))
      exact failsWith_mono others (List.subset_append_right ..) (List.subset_append_right ..)

theorem patternParts_dangles {pattern : Pattern}
    (past : scope.PastNames (pattern.flatMap Element.variables) (pattern.flatMap Element.functions)) :
    FailsWith (scope.Dangles (pattern.flatMap Element.variables) (pattern.flatMap Element.functions))
      (scope.patternParts pattern) := by
  induction pattern with
  | nil => exact .ok _
  | cons element rest ih =>
    rw [patternParts_cons, List.flatMap_cons, List.flatMap_cons]
    refine FailsWith.bind ?_ fun value _ => FailsWith.map ?_ _
    · have own := elementParts_dangles (past.mono (List.subset_append_left ..) (List.subset_append_left ..))
      exact failsWith_mono own (List.subset_append_left ..) (List.subset_append_left ..)
    · have others := ih (past.mono (List.subset_append_right ..) (List.subset_append_right ..))
      exact failsWith_mono others (List.subset_append_right ..) (List.subset_append_right ..)

/-! ## Messages -/

/-- Entering a message reports what dangles in the message, and what dangles in the pattern behind its declarations
dangles in the message. -/
theorem enter_dangles {message : Message} {shown : Element → List String}
    (past : scope.PastNames (message.freeVariables shown) message.functions) :
    FailsWith (scope.Dangles (message.freeVariables shown) message.functions) (scope.enter message).2 ∧
      ∀ selection, (scope.enter message).2 = .ok selection → ∀ error,
        (scope.enter message).1.Dangles (selection.variant.pattern.flatMap shown)
            (selection.variant.pattern.flatMap Element.functions) error →
          scope.Dangles (message.freeVariables shown) message.functions error := by
  obtain ⟨declares, onward⟩ := declare_dangles past (List.subset_append_left ..)
  have among : message.selectors.flatMap (fun selector => selector.functions .matcher) ⊆ message.functions :=
    fun _ member => List.mem_append_right _ (List.mem_append_left _ member)
  rw [enter_result, enter_scope]
  refine ⟨declares.bind fun _ declared => ?_, ?_⟩
  · have behind : (scope.declare message.declarations).1.PastNames (message.selectors.flatMap Expression.variables)
        (message.selectors.flatMap fun selector => selector.functions .matcher) := {
      values := ((past.keeps.declare (List.subset_append_left ..) declared).mono (List.subset_append_left ..)
        (List.Subset.refl _)).values
      functions := by
        rw [declare_registry]
        exact fun mention member => past.functions mention (among member) }
    exact (select_dangles behind).imp fun error dangles =>
      onward declared error (dangles.mono (List.subset_append_left ..) among)
  · intro selection entered error dangles
    obtain ⟨_, declared, selected⟩ := bind_eq_ok.1 entered
    have member := mem_of_select selected
    refine onward declared error (dangles.mono (fun name occurs => ?_) fun mention occurs => ?_)
    · exact List.mem_append_right _ (List.mem_flatMap.2 ⟨_, member, occurs⟩)
    · exact List.mem_append_right _ (List.mem_append_right _ (List.mem_flatMap.2 ⟨_, member, occurs⟩))

theorem messageText_dangles {message : Message}
    (past : scope.PastNames (message.freeVariables Element.textVariables) message.functions) :
    FailsWith (scope.Dangles (message.freeVariables Element.textVariables) message.functions) (scope.messageText message).2 := by
  obtain ⟨enters, onward⟩ := enter_dangles past
  rw [messageText_result]
  exact enters.bind fun selection selected =>
    (patternText_dangles (past.enter selected)).imp (onward selection selected)

theorem messageParts_dangles {message : Message}
    (past : scope.PastNames (message.freeVariables Element.variables) message.functions) :
    FailsWith (scope.Dangles (message.freeVariables Element.variables) message.functions) (scope.messageParts message).2 := by
  obtain ⟨enters, onward⟩ := enter_dangles past
  rw [messageParts_result]
  exact enters.bind fun selection selected =>
    (patternParts_dangles (past.enter selected)).imp (onward selection selected)

end Scope

namespace LocalizedMessage

variable {localized : LocalizedMessage} {current : Registry} {arguments : Dictionary Value}

section
variable {names : List String} {mentions : List (Role × String)} {name : String}

/-- A variable that dangles in the scope of a call is no argument of it. -/
theorem absent_of_dangles
    (dangles : (localized.scope current arguments).Dangles names mentions (.unknownVariable name)) :
    name ∈ names ∧ arguments.get? name = none := by
  cases dangles with
  | «variable» occurs unbound =>
    refine ⟨occurs, ?_⟩
    rw [scope, Scope.valueOf_ofArguments] at unbound
    cases given : arguments.get? name with
    | none => rfl
    | some value =>
      rw [given] at unbound
      cases unbound
  | past past => cases past

/-- A function that dangles in the scope of a call is missing in a table in which it is looked for. -/
theorem missing_of_dangles {suggestions : List String}
    (dangles : (localized.scope current arguments).Dangles names mentions (.unknownFunction name suggestions)) :
    ∃ role, (role, name) ∈ mentions ∧ (localized.functions current).find? role name = none := by
  cases dangles with
  | @function role _ mentioned missing _ => exact ⟨role, mentioned, missing⟩
  | past past => cases past

/-- Where nothing dangles no name is reported. -/
theorem past_of_dangles {error : FormatError} (given : ∀ name ∈ names, arguments.get? name ≠ none)
    (found : ∀ mention ∈ mentions, (localized.functions current).find? mention.1 mention.2 ≠ none)
    (dangles : (localized.scope current arguments).Dangles names mentions error) : error.PastNames := by
  cases dangles with
  | @«variable» name occurs unbound =>
    have own : (localized.scope current arguments).Dangles names mentions (.unknownVariable name) :=
      .variable occurs unbound
    exact given name occurs (absent_of_dangles own).2
  | function mentioned missing suggestions => exact found _ mentioned missing
  | past past => exact past

end

/-- Of a call that is given these names, what a result reports as unknown stands for nothing: a variable is one of the
names and no argument, and a function is missing in the table of a role that it is mentioned in. So if all names are
arguments and all functions are found, the result reports no name. -/
structure ReportsDangling {α : Type} (localized : LocalizedMessage) (current : Registry) (arguments : Dictionary Value)
    (names : List String) (result : Except FormatError α) : Prop where
  unbound : ∀ name, result = .error (.unknownVariable name) → name ∈ names ∧ arguments.get? name = none
  missing : ∀ name suggestions, result = .error (.unknownFunction name suggestions) →
    ∃ role, (role, name) ∈ localized.message.functions ∧ (localized.functions current).find? role name = none
  past : (∀ name ∈ names, arguments.get? name ≠ none) →
    (∀ mention ∈ localized.message.functions, (localized.functions current).find? mention.1 mention.2 ≠ none) →
      FailsWith FormatError.PastNames result

theorem reportsDangling_of_fails {α : Type} {names : List String} {result : Except FormatError α}
    (fails : FailsWith ((localized.scope current arguments).Dangles names localized.message.functions) result) :
    localized.ReportsDangling current arguments names result where
  unbound _ failed := absent_of_dangles (fails _ failed)
  missing _ _ failed := missing_of_dangles (fails _ failed)
  past given found := fails.imp fun _ => past_of_dangles given found

section
variable [Host]

theorem scope_pastNames {names : List String}
    (library : localized.functions current = .builtIn ∨
      ∃ glossary, localized.functions current = Registry.builtIn.addTerms glossary)
    (values : ∀ name ∈ names, ∀ item, arguments.get? name = some (.host item) → (Value.host item).PastNames) :
    (localized.scope current arguments).PastNames names localized.message.functions := by
  have functions : ∀ mention ∈ localized.message.functions, ∀ function,
      (localized.functions current).find? mention.1 mention.2 = some function → function.PastNames := by
    intro mention _ function finds
    rcases library with plain | ⟨glossary, terms⟩
    · rw [plain] at finds
      exact (Registry.builtIn_ofLibrary _ _ function finds).pastNames
    · rw [terms] at finds
      exact (Registry.addTerms_ofLibrary glossary _ _ function finds).pastNames
  have keeps := scope_keeps (fun _ => Value.OfLibrary.pastNames) values fun mention member function finds =>
    (functions mention member function finds).keeps
  exact ⟨keeps.values, functions⟩

end

/-- The message of `let $n = {$n :string} match {$n :plural} when * {{$tip :plural}}`. -/
def misplaced : LocalizedMessage where
  locale := "en"
  source := "let $n = \x7b$n :string\x7d match \x7b$n :plural\x7d when * \x7b\x7b$tip :plural\x7d\x7d"
  message := {
    declarations := [⟨"n", .operand (.variable "n") (some ⟨"string", .empty⟩)⟩]
    selectors := [.operand (.variable "n") (some ⟨"plural", .empty⟩)]
    variants := [⟨[.any], [.expression (.operand (.variable "tip") (some ⟨"plural", .empty⟩))]⟩] }
  registry := none

section
attribute [local instance] Host.labels

end

section
attribute [local instance] Host.pointers

-- a value that looks up another variable reports that it is unknown, which is not in the message
example :
    let localized : LocalizedMessage := ⟨"en", "\x7b\x7b$x\x7d\x7d", .showing [] (.operand (.variable "x") none), none⟩
    localized.formatText .builtIn (.ofList [("x", .host ⟨"pointer", "other"⟩)]) = .error (.unknownVariable "other") := by
  decide +kernel

end

end LocalizedMessage

end Localizable
