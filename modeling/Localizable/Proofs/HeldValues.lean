import Localizable.LocalizedMessage
import Localizable.Proofs.Dictionaries
import Localizable.Proofs.FirstMatch

/-!
# The values of a message

Of the variables that occur in a message those are free that no declaration in front of
them hides. Everything that a message comes to hold is made of their values and of texts,
by the functions that it names. So what holds of all values of the library, and of those
values of the host that free variables have and that these functions return, holds of all
values of the message (`Scope.Keeps`). Functions of the library return no values of the
host (`Function.OfLibrary.returns`), of which nothing is known otherwise.
-/

namespace Localizable

def Operand.variables : Operand → List String
  | .literal _ => []
  | .variable name => [name]

def Options.variables (options : Options) : List String := options.entries.flatMap fun entry => entry.2.variables

def Expression.variables : Expression → List String
  | .operand item none => item.variables
  | .operand item (some invocation) => item.variables ++ invocation.options.variables
  | .call invocation => invocation.options.variables

/-- The variables that the parts of an element show. -/
def Element.variables : Element → List String
  | .text _ => []
  | .expression content => content.variables
  | .markupOpen _ options => options.variables
  | .markupClose _ => []

/-- The variables that the text of an element shows. Markup has no text. -/
def Element.textVariables : Element → List String
  | .expression content => content.variables
  | _ => []

theorem Element.textVariables_subset (element : Element) : element.textVariables ⊆ element.variables := by
  cases element with
  | expression content => exact List.Subset.refl _
  | _ => exact List.nil_subset _

/-- The variables that occur in declarations or behind them and that no declaration in front of them hides. -/
def freeBehind : List Declaration → List String → List String
  | [], inner => inner
  | declaration :: rest, inner =>
    declaration.expression.variables ++ (freeBehind rest inner).filter (· ≠ declaration.name)

theorem freeBehind_subset (declarations : List Declaration) {inner outer : List String} (within : inner ⊆ outer) :
    freeBehind declarations inner ⊆ freeBehind declarations outer := by
  induction declarations with
  | nil => exact within
  | cons declaration rest ih =>
    intro name free
    rcases List.mem_append.1 free with own | later
    · exact List.mem_append_left _ own
    · obtain ⟨occurs, other⟩ := List.mem_filter.1 later
      exact List.mem_append_right _ (List.mem_filter.2 ⟨ih occurs, other⟩)

/-- The free variables of a message, where `shown` gives those of an element. -/
def Message.freeVariables (message : Message) (shown : Element → List String) : List String :=
  freeBehind message.declarations (message.selectors.flatMap Expression.variables ++
    message.variants.flatMap fun variant => variant.pattern.flatMap shown)

/-- What text shows is among what parts show. -/
theorem Message.freeVariables_subset (message : Message) :
    message.freeVariables Element.textVariables ⊆ message.freeVariables Element.variables := by
  refine freeBehind_subset _ (List.append_subset.2 ⟨List.subset_append_left .., fun name shown => ?_⟩)
  obtain ⟨variant, listed, shown⟩ := List.mem_flatMap.1 shown
  obtain ⟨element, member, occurs⟩ := List.mem_flatMap.1 shown
  refine List.mem_append_right _ (List.mem_flatMap.2 ⟨variant, listed, List.mem_flatMap.2 ⟨element, member, ?_⟩⟩)
  exact element.textVariables_subset occurs

/-- The function that an expression names in a role. -/
def Expression.functions (expression : Expression) (role : Role) : List (Role × String) :=
  expression.function?.toList.map fun invocation => (role, invocation.name)

def Element.functions : Element → List (Role × String)
  | .expression content => content.functions .formatter
  | _ => []

/-- The functions that a message names, formatters but for the matchers of its selectors. -/
def Message.functions (message : Message) : List (Role × String) :=
  message.declarations.flatMap (fun declaration => declaration.expression.functions .formatter) ++
    (message.selectors.flatMap (fun selector => selector.functions .matcher) ++
      message.variants.flatMap fun variant => variant.pattern.flatMap Element.functions)

/-- The functions of a call: those the message keeps, or those in force. -/
def LocalizedMessage.functions (localized : LocalizedMessage) (current : Registry) : Registry :=
  localized.registry.getD current

theorem Registry.find?_of_lookup {registry : Registry} {role : Role} {name : String} {function : Function}
    (found : registry.lookup role name = .ok function) : registry.find? role name = some function := by
  unfold lookup at found
  cases known : registry.find? role name with
  | none =>
    rw [known] at found
    cases found
  | some other =>
    rw [known] at found
    cases found
    rfl

theorem Registry.lookup_of_find? {registry : Registry} {role : Role} {name : String} {function : Function}
    (finds : registry.find? role name = some function) : registry.lookup role name = .ok function := by
  rw [lookup, finds]

theorem Registry.find?_register (registry : Registry) (role wanted : Role) (name other : String)
    (function : Function) : (registry.register role name function).find? wanted other =
      if wanted = role ∧ other = name then some function else registry.find? wanted other := by
  cases role <;> cases wanted <;>
    simp [Registry.register, Registry.find?, Registry.table, Dictionary.get?_insert]

theorem Scope.bind_eq_ok {ε α β : Type} {first : Except ε α} {later : α → Except ε β} {result : β} :
    first.bind later = .ok result ↔ ∃ value, first = .ok value ∧ later value = .ok result := by
  cases first <;> simp [Except.bind]

/-! ## Values and functions of the library -/

/-- The value is of no type of the host. -/
def Value.OfLibrary (value : Value) : Prop := ∀ item, value ≠ .host item

theorem Value.text_ofLibrary (value : String) : (text value).OfLibrary := by
  rintro item ⟨⟩

theorem Value.number_ofLibrary (n : Number) : (number n).OfLibrary := by
  rintro item ⟨⟩

theorem Value.plural_ofLibrary (n : Number) (type : PluralType) : (plural n type).OfLibrary := by
  rintro item ⟨⟩

/-- What holds of all values of the library holds of a value if it does so where that is one of the host. -/
theorem Value.such_of_host {Such : Value → Prop} {value : Value} (library : ∀ value : Value, value.OfLibrary → Such value)
    (own : ∀ item, value = .host item → Such (.host item)) : Such value := by
  cases value with
  | host item => exact own item rfl
  | _ => exact library _ (by rintro item ⟨⟩)

def Function.OfLibrary (function : Function) : Prop := ∀ label, function ≠ .host label

theorem Registry.register_ofLibrary {registry : Registry} {role : Role} {name : String} {function : Function}
    (others : ∀ role name function, registry.find? role name = some function → function.OfLibrary)
    (own : function.OfLibrary) :
    ∀ wanted other found, (registry.register role name function).find? wanted other = some found → found.OfLibrary := by
  intro wanted other found finds
  rw [find?_register] at finds
  split at finds
  · cases finds
    exact own
  · exact others wanted other found finds

theorem Registry.builtIn_ofLibrary : ∀ role name function,
    builtIn.find? role name = some function → function.OfLibrary := by
  refine register_ofLibrary (register_ofLibrary (register_ofLibrary (register_ofLibrary (register_ofLibrary ?_ ?_) ?_)
    ?_) ?_) ?_
  · intro role name function finds
    cases role <;> cases finds
  all_goals
    rintro label ⟨⟩

/-- All functions that come with the library are of the library. -/
theorem Registry.addTerms_ofLibrary (glossary : Glossary) : ∀ role name function,
    (builtIn.addTerms glossary).find? role name = some function → function.OfLibrary := by
  refine register_ofLibrary builtIn_ofLibrary ?_
  rintro label ⟨⟩

/-- A host whose values are shown as their labels and named by them. -/
@[reducible] def Host.labels : Host where
  behaviour label _ _ _ := .error (.unknownFunction label [])
  showing item := some (.ofText fun _ => .ok item.label)
  matching item := some fun _ key => .ok (item.label == key)

/-- A host whose values are shown as the variables of their labels are. -/
@[reducible] def Host.pointers : Host where
  behaviour label _ _ _ := .error (.unknownFunction label [])
  showing item := some (.ofText fun surroundings => (surroundings.valueOf item.label).map fun held => held.text?.getD "")
  matching _ := .none

/-- If the result is a value it is such a value. -/
def Returns (Such : Value → Prop) (result : Except FormatError Value) : Prop :=
  ∀ value, result = .ok value → Such value

namespace Returns

variable {Such : Value → Prop}

theorem ok {value : Value} (such : Such value) : Returns Such (.ok value) := by
  rintro other ⟨⟩
  exact such

theorem error (error : FormatError) : Returns Such (.error error) := by
  rintro other ⟨⟩

theorem bind {α : Type} {first : Except FormatError α} {later : α → Except FormatError Value}
    (onward : ∀ value, Returns Such (later value)) : Returns Such (first.bind later) := by
  cases first with
  | error reason => exact error reason
  | ok value => exact onward value

end Returns

/-- The operand, if there is one, and the values of the options are such values. -/
structure Given (Such : Value → Prop) (operand : Option Value) (options : OptionValues) : Prop where
  operand : ∀ value, operand = some value → Such value
  options : ∀ name value, options.get? name = some value → Such value

section
variable [Host]

/-- Given such values the function returns no values of the host but such. -/
def Function.Keeps (Such : Value → Prop) (function : Function) : Prop :=
  ∀ surroundings operand options, Given Such operand options →
    ∀ item, function.behaviour surroundings operand options = .ok (.host item) → Such (.host item)

/-- A function of the library returns values of the library, whatever it is given. -/
theorem Function.OfLibrary.returns {function : Function} (library : function.OfLibrary) (surroundings : Surroundings)
    (operand : Option Value) (options : OptionValues) :
    Returns Value.OfLibrary (function.behaviour surroundings operand options) := by
  cases function with
  | number => exact .bind fun _ => .bind fun _ => .bind fun _ => .ok (Value.number_ofLibrary _)
  | plural => exact .bind fun _ => .bind fun _ => .bind fun _ => .bind fun _ => .ok (Value.plural_ofLibrary _ _)
  | equals =>
    rw [behaviour, Functions.equals]
    split
    · exact .error _
    · exact .ok (Value.text_ofLibrary _)
    · exact .error _
  | string => exact .bind fun _ => .bind fun _ => .bind fun _ => .ok (Value.text_ofLibrary _)
  | term glossary =>
    exact .bind fun _ => .bind fun _ => .bind fun _ => .bind fun _ => .bind fun _ => .ok (Value.text_ofLibrary _)
  | host label => exact absurd rfl (library label)

theorem Function.OfLibrary.keeps {function : Function} (library : function.OfLibrary) (Such : Value → Prop) :
    function.Keeps Such :=
  fun surroundings operand options _ item returned =>
    absurd rfl (library.returns surroundings operand options (.host item) returned item)

end

/-! ## Values of a scope -/

namespace Scope

theorem valueOf_ofArguments (locale : String) (arguments : Dictionary Value) (registry : Registry) (name : String) :
    (ofArguments locale arguments registry).valueOf name =
      (arguments.get? name).elim (.error (.unknownVariable name)) .ok := by
  have undeclared : (ofArguments locale arguments registry).locals.get? name = none := rfl
  rw [valueOf, undeclared, ofArguments]
  cases arguments.get? name <;> rfl

theorem valueOf_bind (scope : Scope) (name wanted : String) (value : Value) :
    (scope.bind name value).valueOf wanted = if wanted = name then .ok value else scope.valueOf wanted := by
  unfold valueOf Scope.bind
  simp only [Dictionary.get?_insert]
  by_cases own : wanted = name
  · simp [own]
  · simp [own]

variable [Host]

/-- All values of the library are such values, and so are those values of the host that some variables have. Some
functions keep to such values. -/
structure Keeps (scope : Scope) (Such : Value → Prop) (names : List String) (mentions : List (Role × String)) :
    Prop where
  library : ∀ value : Value, value.OfLibrary → Such value
  values : ∀ name ∈ names, ∀ item, scope.valueOf name = .ok (.host item) → Such (.host item)
  functions : ∀ mention ∈ mentions, ∀ function,
    scope.registry.find? mention.1 mention.2 = some function → function.Keeps Such

namespace Keeps

variable {scope : Scope} {Such : Value → Prop} {names : List String} {mentions : List (Role × String)}

theorem mono (keeps : scope.Keeps Such names mentions) {fewer : List String} {less : List (Role × String)}
    (within : fewer ⊆ names) (among : less ⊆ mentions) : scope.Keeps Such fewer less where
  library := keeps.library
  values name member := keeps.values name (within member)
  functions mention member := keeps.functions mention (among member)

theorem bind {name : String} {value : Value} (keeps : scope.Keeps Such (names.filter (· ≠ name)) mentions)
    (such : Such value) : (scope.bind name value).Keeps Such names mentions where
  library := keeps.library
  functions := keeps.functions
  values wanted member item held := by
    rw [valueOf_bind] at held
    split at held
    · cases held
      exact such
    next outside => exact keeps.values wanted (List.mem_filter.2 ⟨member, decide_eq_true outside⟩) item held

theorem resolveOperand {item : Operand} {value : Value} (keeps : scope.Keeps Such item.variables mentions)
    (resolved : scope.resolveOperand item = .ok value) : Such value := by
  cases item with
  | literal text =>
    cases resolved
    exact keeps.library _ (Value.text_ofLibrary text)
  | «variable» name =>
    refine Value.such_of_host keeps.library fun item same => ?_
    subst same
    exact keeps.values name (List.mem_singleton_self name) item resolved

theorem resolveOptions {options : Options} {values : OptionValues} (keeps : scope.Keeps Such options.variables mentions)
    (resolved : scope.resolveOptions options = .ok values) :
    ∀ name value, values.get? name = some value → Such value := by
  intro name value held
  have same := Dictionary.mapExcept_eq_ok_iff.1 resolved name
  rw [held, Option.map_some] at same
  obtain ⟨item, listed, resolves⟩ := Option.map_eq_some_iff.1 same
  refine resolveOperand (keeps.mono (fun wanted occurs => ?_) (List.Subset.refl _)) resolves
  exact List.mem_flatMap.2 ⟨(name, item), Dictionary.get?_eq_some_iff.1 listed, occurs⟩

theorem given {operand : Option Operand} {options : Options} {value : Option Value} {values : OptionValues}
    (keeps : scope.Keeps Such (operand.toList.flatMap Operand.variables ++ options.variables) mentions)
    (operates : operand.mapM scope.resolveOperand = .ok value) (resolved : scope.resolveOptions options = .ok values) :
    Given Such value values where
  options := resolveOptions (keeps.mono (List.subset_append_right ..) (List.Subset.refl _)) resolved
  operand held same := by
    subst same
    cases operand with
    | none => cases operates
    | some item =>
      rw [Option.mapM_some] at operates
      obtain ⟨own, resolves, returned⟩ := bind_eq_ok.1 operates
      cases returned
      exact resolveOperand (keeps.mono (by simp) (List.Subset.refl _)) resolves

theorem resolveCall {role : Role} {operand : Option Operand} {invocation : Invocation} {value : Value}
    (keeps : scope.Keeps Such (operand.toList.flatMap Operand.variables ++ invocation.options.variables)
      [(role, invocation.name)])
    (called : scope.resolveCall role operand invocation = .ok value) : Such value := by
  obtain ⟨function, found, called⟩ := bind_eq_ok.1 called
  obtain ⟨operand, operates, called⟩ := bind_eq_ok.1 called
  obtain ⟨options, resolved, returned⟩ := bind_eq_ok.1 called
  have kept := keeps.functions _ (List.mem_singleton_self _) function (Registry.find?_of_lookup found)
  refine Value.such_of_host keeps.library fun item same => ?_
  subst same
  exact kept _ _ _ (keeps.given operates resolved) item returned

theorem resolve {role : Role} {expression : Expression} {value : Value}
    (keeps : scope.Keeps Such expression.variables (expression.functions role))
    (resolved : scope.resolve role expression = .ok value) : Such value := by
  cases expression with
  | operand item function =>
    cases function with
    | none => exact keeps.resolveOperand resolved
    | some invocation => exact resolveCall (keeps.mono (by simp [Expression.variables]) (List.Subset.refl _)) resolved
  | call invocation => exact resolveCall (keeps.mono (by simp [Expression.variables]) (List.Subset.refl _)) resolved

/-- What is free behind declarations that hold their values is such a value too. -/
theorem declare {declarations : List Declaration} {inner : List String}
    (keeps : scope.Keeps Such (freeBehind declarations inner) mentions)
    (among : declarations.flatMap (fun declaration => declaration.expression.functions .formatter) ⊆ mentions)
    (declared : (scope.declare declarations).2 = .ok ()) :
    (scope.declare declarations).1.Keeps Such inner mentions := by
  induction declarations generalizing scope with
  | nil => exact keeps
  | cons declaration rest ih =>
    rw [List.flatMap_cons, List.append_subset] at among
    rw [Scope.declare] at declared ⊢
    cases resolved : scope.resolve .formatter declaration.expression with
    | error error =>
      rw [resolved] at declared
      cases declared
    | ok value =>
      rw [resolved] at declared
      have such : Such value := (keeps.mono (List.subset_append_left ..) among.1).resolve resolved
      exact ih ((keeps.mono (List.subset_append_right ..) (List.Subset.refl _)).bind such) among.2 declared

theorem selectors {selectors : List Expression} {values : List Value}
    (keeps : scope.Keeps Such (selectors.flatMap Expression.variables)
      (selectors.flatMap fun selector => selector.functions .matcher))
    (resolved : List.Forall₂ scope.SelectsOn selectors values) : ∀ value ∈ values, Such value := by
  induction resolved with
  | nil => exact List.forall_mem_nil _
  | cons first _ ih =>
    rw [List.flatMap_cons, List.flatMap_cons] at keeps
    have own := (keeps.mono (List.subset_append_left ..) (List.subset_append_left ..)).resolve first.1
    exact List.forall_mem_cons.2
      ⟨own, ih (keeps.mono (List.subset_append_right ..) (List.subset_append_right ..))⟩

end Keeps

theorem enter_scope (scope : Scope) (message : Message) :
    (scope.enter message).1 = (scope.declare message.declarations).1 := by
  unfold enter
  rcases scope.declare message.declarations with ⟨entered, error | ⟨⟩⟩ <;> rfl

theorem enter_result (scope : Scope) (message : Message) : (scope.enter message).2 =
    (scope.declare message.declarations).2.bind fun _ =>
      (scope.declare message.declarations).1.select message := by
  unfold enter
  rcases scope.declare message.declarations with ⟨entered, error | ⟨⟩⟩ <;> rfl

theorem mem_of_select {scope : Scope} {message : Message} {selection : Selection}
    (selected : scope.select message = .ok selection) : selection.variant ∈ message.variants := by
  obtain ⟨values, _, first⟩ := bind_eq_ok.1 selected
  have chosen := ((@selectFrom_spec _ scope.surroundings values message.variants).1 selection).1 first
  exact List.mem_of_getElem? chosen.1

/-- Behind the declarations of a message such values are to be had in the pattern that is selected. -/
theorem Keeps.enter {scope : Scope} {Such : Value → Prop} {message : Message} {shown : Element → List String}
    {selection : Selection} (keeps : scope.Keeps Such (message.freeVariables shown) message.functions)
    (entered : (scope.enter message).2 = .ok selection) :
    (scope.enter message).1.Keeps Such (selection.variant.pattern.flatMap shown)
      (selection.variant.pattern.flatMap Element.functions) := by
  rw [enter_result] at entered
  obtain ⟨_, declared, selected⟩ := bind_eq_ok.1 entered
  have member := mem_of_select selected
  rw [enter_scope]
  refine (keeps.declare (List.subset_append_left ..) declared).mono (fun name occurs => ?_) fun mention occurs => ?_
  · exact List.mem_append_right _ (List.mem_flatMap.2 ⟨_, member, occurs⟩)
  · exact List.mem_append_right _ (List.mem_append_right _ (List.mem_flatMap.2 ⟨_, member, occurs⟩))

end Scope

theorem LocalizedMessage.scope_keeps [Host] {localized : LocalizedMessage} {current : Registry}
    {arguments : Dictionary Value} {Such : Value → Prop} {names : List String} {mentions : List (Role × String)}
    (library : ∀ value : Value, value.OfLibrary → Such value)
    (values : ∀ name ∈ names, ∀ item, arguments.get? name = some (.host item) → Such (.host item))
    (functions : ∀ mention ∈ mentions, ∀ function,
      (localized.functions current).find? mention.1 mention.2 = some function → function.Keeps Such) :
    (localized.scope current arguments).Keeps Such names mentions where
  library := library
  functions := functions
  values name member item held := by
    rw [scope, Scope.valueOf_ofArguments] at held
    cases given : arguments.get? name with
    | none =>
      rw [given] at held
      cases held
    | some own =>
      rw [given] at held
      cases held
      exact values name member item given

end Localizable
