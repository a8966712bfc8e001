import Localizable.Proofs.Renderings

/-!
# Declarations and arguments

Whatever looks at a scope sees its locale, its functions and the values of its
variables, and cannot tell what is declared from what is an argument
(`Scope.SameView`). So the first declaration of a message stands for an argument
of the same name, and the rest of the message is formatted with that argument
instead. A list of declarations is worked off from the front, up to the first one
that fails (`LocalizedMessage.format_declaration`).
-/

namespace Localizable

namespace Scope

/-- Scopes in which everything has the same value, whether it is declared or an argument. -/
structure SameView (left right : Scope) : Prop where
  locale : left.locale = right.locale
  registry : left.registry = right.registry
  valueOf : left.valueOf = right.valueOf

variable {left right : Scope}

/-- A value that is declared is seen as an argument of the same name would be seen. -/
theorem sameView_argument (locale name : String) (arguments : Dictionary Value) (registry : Registry) (value : Value) :
    SameView ((ofArguments locale arguments registry).bind name value)
      (ofArguments locale (arguments.insert name value) registry) where
  locale := rfl
  registry := rfl
  valueOf := by
    funext wanted
    rw [valueOf_bind, valueOf_ofArguments, valueOf_ofArguments, Dictionary.get?_insert]
    by_cases own : wanted = name
    · simp [own]
    · simp [own]

namespace SameView

theorem bind (same : SameView left right) (name : String) (value : Value) :
    SameView (left.bind name value) (right.bind name value) where
  locale := same.locale
  registry := same.registry
  valueOf := by
    funext wanted
    rw [valueOf_bind, valueOf_bind, same.valueOf]

theorem surroundings (same : SameView left right) : left.surroundings = right.surroundings := by
  rw [Scope.surroundings, Scope.surroundings, same.locale, same.valueOf, same.registry]

theorem resolveOperand (same : SameView left right) : left.resolveOperand = right.resolveOperand := by
  funext item
  cases item with
  | literal value => rfl
  | «variable» name => exact congrFun same.valueOf name

theorem resolveOptions (same : SameView left right) : left.resolveOptions = right.resolveOptions := by
  funext options
  rw [Scope.resolveOptions, Scope.resolveOptions, same.resolveOperand]

variable [Host]

theorem resolveCall (same : SameView left right) : left.resolveCall = right.resolveCall := by
  funext role operand invocation
  have call : left.call = right.call := by
    funext function value options
    rw [Scope.call, Scope.call, same.surroundings]
  rw [Scope.resolveCall, Scope.resolveCall, same.registry, same.resolveOperand, same.resolveOptions, call]

theorem resolve (same : SameView left right) : left.resolve = right.resolve := by
  funext role expression
  cases expression with
  | operand item function =>
    cases function with
    | none => exact congrFun same.resolveOperand item
    | some invocation => rw [Scope.resolve, Scope.resolve, same.resolveCall]
  | call invocation => rw [Scope.resolve, Scope.resolve, same.resolveCall]

theorem select (same : SameView left right) : left.select = right.select := by
  have selector : left.resolveSelector = right.resolveSelector := by
    funext selector
    rw [resolveSelector, resolveSelector, same.resolve]
  funext message
  rw [Scope.select, Scope.select, selector, same.surroundings]

theorem patternText (same : SameView left right) (pattern : Pattern) :
    left.patternText pattern = right.patternText pattern := by
  induction pattern with
  | nil => rfl
  | cons element rest ih =>
    have first : left.elementText element = right.elementText element := by
      cases element with
      | expression content => rw [elementText_expression, elementText_expression, same.resolve, same.surroundings]
      | _ => rfl
    rw [patternText_cons, patternText_cons, first, ih]

theorem patternParts (same : SameView left right) (pattern : Pattern) :
    left.patternParts pattern = right.patternParts pattern := by
  induction pattern with
  | nil => rfl
  | cons element rest ih =>
    have first : left.elementParts element = right.elementParts element := by
      cases element with
      | expression content => rw [elementParts_expression, elementParts_expression, same.resolve, same.surroundings]
      | markupOpen name options =>
        rw [elementParts_markupOpen, elementParts_markupOpen, same.resolveOptions, same.surroundings]
      | _ => rfl
    rw [patternParts_cons, patternParts_cons, first, ih]

/-- What is declared in one scope is declared in the other, and they stay alike. -/
theorem declare (same : SameView left right) (declarations : List Declaration) :
    SameView (left.declare declarations).1 (right.declare declarations).1 ∧
      (left.declare declarations).2 = (right.declare declarations).2 := by
  induction declarations generalizing left right with
  | nil => exact ⟨same, rfl⟩
  | cons declaration rest ih =>
    rw [Scope.declare, Scope.declare, same.resolve]
    cases right.resolve .formatter declaration.expression with
    | error error => exact ⟨same, rfl⟩
    | ok value => exact ih (same.bind declaration.name value)

theorem enter (same : SameView left right) (message : Message) :
    SameView (left.enter message).1 (right.enter message).1 ∧ (left.enter message).2 = (right.enter message).2 := by
  obtain ⟨behind, outcome⟩ := same.declare message.declarations
  rw [enter_scope, enter_scope, enter_result, enter_result, outcome, behind.select]
  exact ⟨behind, rfl⟩

theorem messageText (same : SameView left right) (message : Message) :
    (left.messageText message).2 = (right.messageText message).2 := by
  obtain ⟨inside, selected⟩ := same.enter message
  rw [messageText_result, messageText_result, selected]
  congr 1
  funext selection
  exact inside.patternText _

theorem messageParts (same : SameView left right) (message : Message) :
    (left.messageParts message).2 = (right.messageParts message).2 := by
  obtain ⟨inside, selected⟩ := same.enter message
  rw [messageParts_result, messageParts_result, selected]
  congr 1
  funext selection
  exact inside.patternParts _

end SameView

/-! ## Working off declarations -/

/-- The scope behind the first declarations, as many of them as there are values. -/
def behind (scope : Scope) (declarations : List Declaration) (values : List Value) : Scope :=
  ((declarations.map Declaration.name).zip values).foldl (fun scope entry => scope.bind entry.1 entry.2) scope

theorem behind_eq (scope : Scope) (declarations : List Declaration) (values : List Value) :
    scope.behind declarations values =
      { scope with
        locals := ((declarations.map Declaration.name).zip values).foldl
          (fun dictionary entry => dictionary.insert entry.1 entry.2) scope.locals } := by
  unfold behind
  generalize (declarations.map Declaration.name).zip values = entries
  induction entries generalizing scope with
  | nil => rfl
  | cons entry rest ih =>
    rw [List.foldl_cons, ih]
    rfl

/-- Only what is declared under a name changes. -/
theorem behind_fields (scope : Scope) (declarations : List Declaration) (values : List Value) :
    (scope.behind declarations values).locale = scope.locale ∧
      (scope.behind declarations values).arguments = scope.arguments ∧
      (scope.behind declarations values).registry = scope.registry ∧
      ∀ name, (scope.behind declarations values).locals.get? name =
        (((declarations.map Declaration.name).zip values).reverse.lookup name).or (scope.locals.get? name) := by
  rw [behind_eq]
  exact ⟨rfl, rfl, rfl, Dictionary.get?_foldl_insert _ scope.locals⟩

section
variable [Host]

/-- Each declaration has its value in sight of those before it. -/
def Declares (scope : Scope) (declarations : List Declaration) (values : List Value) : Prop :=
  values.length = declarations.length ∧
    ∀ k declaration value, declarations[k]? = some declaration → values[k]? = some value →
      (scope.behind (declarations.take k) values).resolve .formatter declaration.expression = .ok value

theorem declares_nil (scope : Scope) : scope.Declares [] [] := by
  refine ⟨rfl, ?_⟩
  intro k declaration value listed
  cases listed

theorem declares_cons {scope : Scope} {declaration : Declaration} {rest : List Declaration} {value : Value}
    {values : List Value} (resolved : scope.resolve .formatter declaration.expression = .ok value)
    (others : (scope.bind declaration.name value).Declares rest values) :
    scope.Declares (declaration :: rest) (value :: values) := by
  obtain ⟨length, each⟩ := others
  refine ⟨congrArg (· + 1) length, ?_⟩
  intro k item own listed holds
  cases k with
  | zero =>
    cases listed
    cases holds
    exact resolved
  | succ k => exact each k item own listed holds

/-- Declarations hold their values up to the first one that fails, or up to their end. -/
theorem declare_outcome (scope : Scope) (declarations : List Declaration) :
    (∃ values, scope.Declares declarations values ∧
        scope.declare declarations = (scope.behind declarations values, .ok ())) ∨
      ∃ k declaration values error, declarations[k]? = some declaration ∧
        scope.Declares (declarations.take k) values ∧
        (scope.behind (declarations.take k) values).resolve .formatter declaration.expression = .error error ∧
        scope.declare declarations = (scope.behind (declarations.take k) values, .error error) := by
  induction declarations generalizing scope with
  | nil => exact .inl ⟨[], declares_nil scope, rfl⟩
  | cons declaration rest ih =>
    rw [declare]
    cases resolved : scope.resolve .formatter declaration.expression with
    | error error => exact .inr ⟨0, declaration, [], error, rfl, declares_nil scope, resolved, rfl⟩
    | ok value =>
      rcases ih (scope.bind declaration.name value) with
        ⟨values, declares, outcome⟩ | ⟨k, failing, values, error, listed, declares, fails, outcome⟩
      · exact .inl ⟨value :: values, declares_cons resolved declares, outcome⟩
      · exact .inr ⟨k + 1, failing, value :: values, error, listed, declares_cons resolved declares, fails, outcome⟩

/-- Declarations leave the functions as they are. -/
theorem declare_registry (scope : Scope) (declarations : List Declaration) :
    (scope.declare declarations).1.registry = scope.registry := by
  rcases scope.declare_outcome declarations with ⟨values, _, outcome⟩ | ⟨_, _, values, _, _, _, _, outcome⟩
  · rw [outcome]
    exact (scope.behind_fields _ values).2.2.1
  · rw [outcome]
    exact (scope.behind_fields _ values).2.2.1

end

end Scope

namespace LocalizedMessage

/-- The same message with other declarations. -/
def declaring (localized : LocalizedMessage) (declarations : List Declaration) : LocalizedMessage :=
  { localized with message := { localized.message with declarations := declarations } }

variable [Host] (localized : LocalizedMessage) (current : Registry) (arguments : Dictionary Value)

/-- A message whose first declaration has a value is entered as the rest of it with that value for an argument. -/
theorem enter_declaring (declaration : Declaration) (rest : List Declaration) :
    let scope := localized.scope current arguments
    (localized.declaring (declaration :: rest)).scope current arguments = scope ∧
      (∀ error, scope.resolve .formatter declaration.expression = .error error →
        scope.enter (localized.declaring (declaration :: rest)).message = (scope, .error error)) ∧
      ∀ value, scope.resolve .formatter declaration.expression = .ok value →
        scope.enter (localized.declaring (declaration :: rest)).message =
          (scope.bind declaration.name value).enter (localized.declaring rest).message := by
  intro scope
  refine ⟨rfl, ?_, ?_⟩
  · intro error failed
    simp only [Scope.enter, declaring, Scope.declare, failed]
  · intro value resolved
    simp only [Scope.enter, declaring, Scope.declare, resolved, Scope.select]

/-- A declaration stands for an argument of its name: a message fails if its first declaration fails, and otherwise it
is formatted as the rest of it is with the value for an argument. In any scope declarations take effect from the front
up to the first one that fails, and nothing but what is declared changes. -/
theorem format_declaration (declaration : Declaration) (rest : List Declaration) (scope : Scope)
    (declarations : List Declaration) :
    ((localized.declaring (declaration :: rest)).formatText current arguments =
        ((localized.scope current arguments).resolve .formatter declaration.expression).bind fun value =>
          (localized.declaring rest).formatText current (arguments.insert declaration.name value)) ∧
      ((localized.declaring (declaration :: rest)).formatParts current arguments =
        ((localized.scope current arguments).resolve .formatter declaration.expression).bind fun value =>
          (localized.declaring rest).formatParts current (arguments.insert declaration.name value)) ∧
      ((∃ values, scope.Declares declarations values ∧
          scope.declare declarations = (scope.behind declarations values, .ok ())) ∨
        ∃ k declaration values error, declarations[k]? = some declaration ∧
          scope.Declares (declarations.take k) values ∧
          (scope.behind (declarations.take k) values).resolve .formatter declaration.expression = .error error ∧
          scope.declare declarations = (scope.behind (declarations.take k) values, .error error)) ∧
      ∀ values, (scope.behind declarations values).locale = scope.locale ∧
        (scope.behind declarations values).arguments = scope.arguments ∧
        (scope.behind declarations values).registry = scope.registry ∧
        ∀ name, (scope.behind declarations values).locals.get? name =
          (((declarations.map Declaration.name).zip values).reverse.lookup name).or (scope.locals.get? name) := by
  obtain ⟨own, fails, passes⟩ := localized.enter_declaring current arguments declaration rest
  refine ⟨?_, ?_, scope.declare_outcome declarations, scope.behind_fields declarations⟩
  · unfold formatText
    rw [own, Scope.messageText_result]
    cases resolved : (localized.scope current arguments).resolve .formatter declaration.expression with
    | error error =>
      rw [fails error resolved]
      rfl
    | ok value =>
      rw [passes value resolved, ← Scope.messageText_result]
      exact (Scope.sameView_argument ..).messageText _
  · unfold formatParts
    rw [own, Scope.messageParts_result]
    cases resolved : (localized.scope current arguments).resolve .formatter declaration.expression with
    | error error =>
      rw [fails error resolved]
      rfl
    | ok value =>
      rw [passes value resolved, ← Scope.messageParts_result]
      exact (Scope.sameView_argument ..).messageParts _

end LocalizedMessage

end Localizable
