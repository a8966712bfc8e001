import Localizable.Proofs.HeldValues

/-!
# Texts and parts of a message

A message is rendered by two walks over the pattern that it selects, one for its
text and one for its parts. The parts spell the text, but for two things that only
one of the walks does: an object has no text, and the options of markup are looked
at for parts alone (`LocalizedMessage.formatText_formatParts`).
-/

namespace Localizable

def Part.isObject : Part → Bool
  | .object _ => true
  | _ => false

/-- The values of the text parts, one behind the other. -/
def textOfParts (parts : List Part) : String := String.join (parts.filterMap Part.value?)

@[simp] theorem textOfParts_nil : textOfParts [] = "" := rfl

@[simp] theorem textOfParts_text (kind value : String) (rest : List Part) :
    textOfParts (.text kind value :: rest) = value ++ textOfParts rest := by
  rw [textOfParts, List.filterMap_cons]
  exact String.join_cons

@[simp] theorem textOfParts_append (left right : List Part) :
    textOfParts (left ++ right) = textOfParts left ++ textOfParts right := by
  simp [textOfParts, String.join_append]

/-- The text that parts stand for, if no object is among them. -/
def spell (parts : List Part) : Except FormatError String :=
  if parts.any Part.isObject then .error (.notFormattable "opaque") else .ok (textOfParts parts)

theorem spell_eq_ok {parts : List Part} {text : String} :
    spell parts = .ok text ↔ parts.any Part.isObject = false ∧ textOfParts parts = text := by
  unfold spell
  by_cases object : parts.any Part.isObject = true
  · simp [object]
  · simp [Bool.eq_false_iff.2 object]

/-- Parts are spelled from the front. The object that has no text is not known from another one. -/
theorem spell_append (left right : List Part) :
    spell (left ++ right) = (spell left).bind fun front => (spell right).map (front ++ ·) := by
  unfold spell
  rw [List.any_append]
  by_cases first : left.any Part.isObject = true
  · simp [first, Except.bind]
  · by_cases later : right.any Part.isObject = true
    · simp [Bool.eq_false_iff.2 first, later, Except.bind, Except.map]
    · simp [Bool.eq_false_iff.2 first, Bool.eq_false_iff.2 later, Except.bind, Except.map]

theorem spell_literal (text : String) : spell [.literal text] = .ok text := by
  simp [spell, Part.isObject, Part.literal]

/-- The parts of a number are its sign, its digits, the point and the digits behind it, as in its text. -/
theorem Number.spell_parts (number : Number) : spell number.parts = .ok number.text := by
  rcases shown : number.digits with ⟨negative, integer, fraction⟩
  rw [spell_eq_ok, Number.parts, Number.text, shown, Digits.parts, Digits.text]
  constructor
  · cases negative <;> cases fraction <;> rfl
  · rw [← String.toList_inj]
    cases negative <;> cases fraction <;> simp

/-! ## Values and elements -/

section
variable [Host]

/-- The parts of the value spell its text: where it has parts they spell its text, or the want of one, and where it has
a text it has parts. -/
structure Value.Spelled (value : Value) : Prop where
  text_of_parts : ∀ surroundings parts, value.formatParts surroundings = .ok parts →
    value.formatText surroundings = spell parts
  exists_parts : ∀ surroundings text, value.formatText surroundings = .ok text →
    ∃ parts, value.formatParts surroundings = .ok parts

theorem Value.Spelled.exists_parts_of_text {value : Value} (spelled : value.Spelled) {surroundings : Surroundings}
    {text : String} (shown : value.formatText surroundings = .ok text) :
    ∃ parts, value.formatParts surroundings = .ok parts ∧ spell parts = .ok text := by
  obtain ⟨parts, shownParts⟩ := spelled.exists_parts surroundings text shown
  exact ⟨parts, shownParts, (spelled.text_of_parts surroundings parts shownParts).symm.trans shown⟩

/-- A value that may not stand in a pattern has neither a text nor parts. -/
theorem Value.spelled_of_unformattable {value : Value} (cannot : value.isFormattable = false) : value.Spelled := by
  cases value with
  | plural n type =>
    constructor
    · rintro surroundings parts ⟨⟩
    · rintro surroundings text ⟨⟩
  | host item =>
    have shows : Host.showing item = none := Option.not_isSome_iff_eq_none.1 (Bool.eq_false_iff.1 cannot)
    constructor
    · intro surroundings parts shown
      rw [formatParts, shows] at shown
      cases shown
    · intro surroundings text shown
      rw [formatText, shows] at shown
      cases shown
  | _ => cases cannot

/-- The parts of every value of the library spell its text. -/
theorem Value.OfLibrary.spelled {value : Value} (library : value.OfLibrary) : value.Spelled := by
  cases value with
  | text value =>
    refine ⟨?_, fun _ _ _ => ⟨_, rfl⟩⟩
    rintro surroundings parts ⟨⟩
    exact (spell_literal value).symm
  | number n =>
    refine ⟨?_, fun _ _ _ => ⟨_, rfl⟩⟩
    rintro surroundings parts ⟨⟩
    exact n.spell_parts.symm
  | plural n type => exact spelled_of_unformattable rfl
  | object item =>
    refine ⟨?_, fun _ _ _ => ⟨_, rfl⟩⟩
    rintro surroundings parts ⟨⟩
    rfl
  | host item => exact absurd rfl (library item)

/-- A value that the host shows as a text alone has that text as its parts. -/
theorem Value.spelled_ofText {item : HostValue} {text : Surroundings → Except FormatError String}
    (shows : Host.showing item = some (.ofText text)) : (Value.host item).Spelled where
  text_of_parts surroundings parts shown := by
    rw [formatParts, shows] at shown
    rw [formatText, shows]
    dsimp only [Showing.ofText] at shown ⊢
    cases own : text surroundings with
    | error error =>
      rw [own] at shown
      cases shown
    | ok value =>
      rw [own] at shown
      cases shown
      exact (spell_literal value).symm
  exists_parts surroundings own shown := by
    rw [formatText, shows] at shown
    rw [formatParts, shows]
    exact ⟨[.literal own], congrArg (·.map fun shown => [Part.literal shown]) shown⟩

end

def Element.isMarkupOpen : Element → Bool
  | .markupOpen _ _ => true
  | _ => false

namespace Scope

/-- Both walks over a pattern succeed if they succeed at its front and behind it. -/
theorem bind_map_eq_ok {ε α : Type} {join : α → α → α} {first later : Except ε α} {result : α} :
    (first.bind fun front => later.map (join front)) = .ok result ↔
      ∃ front back, first = .ok front ∧ later = .ok back ∧ join front back = result := by
  cases first with
  | error error => simp [Except.bind]
  | ok front => cases later <;> simp [Except.bind, Except.map]

variable [Host] {scope : Scope}

/-- An expression that resolves to a value is rendered as the value, and fails otherwise. -/
theorem elementText_expression (content : Expression) :
    scope.elementText (.expression content) =
      (scope.resolve .formatter content).bind (·.formatText scope.surroundings) := rfl

theorem elementParts_expression (content : Expression) :
    scope.elementParts (.expression content) =
      (scope.resolve .formatter content).bind (·.formatParts scope.surroundings) := rfl

theorem elementParts_markupOpen (name : String) (options : Options) :
    scope.elementParts (.markupOpen name options) = (scope.resolveOptions options).bind fun values =>
      (values.mapExcept (·.formatText scope.surroundings)).map fun texts => [.markupOpen name texts] := by
  rw [elementParts]
  cases scope.resolveOptions options with
  | error error => rfl
  | ok values => rfl

theorem elementText_of_parts {element : Element} {parts : List Part}
    (keeps : scope.Keeps Value.Spelled element.textVariables element.functions)
    (shown : scope.elementParts element = .ok parts) : scope.elementText element = spell parts := by
  cases element with
  | text value =>
    cases shown
    exact (spell_literal value).symm
  | expression content =>
    rw [elementParts_expression] at shown
    obtain ⟨value, resolved, shownValue⟩ := bind_eq_ok.1 shown
    rw [elementText_expression, resolved]
    exact (keeps.resolve resolved).text_of_parts _ _ shownValue
  | markupOpen name options =>
    rw [elementParts_markupOpen] at shown
    obtain ⟨values, _, shownValues⟩ := bind_eq_ok.1 shown
    cases texts : values.mapExcept (·.formatText scope.surroundings) with
    | error error =>
      rw [texts] at shownValues
      cases shownValues
    | ok written =>
      rw [texts] at shownValues
      cases shownValues
      rfl
  | markupClose name =>
    cases shown
    rfl

theorem exists_parts_of_elementText {element : Element} {text : String}
    (keeps : scope.Keeps Value.Spelled element.textVariables element.functions)
    (shown : scope.elementText element = .ok text) (plain : element.isMarkupOpen = false) :
    ∃ parts, scope.elementParts element = .ok parts ∧ spell parts = .ok text := by
  cases element with
  | text value =>
    cases shown
    exact ⟨_, rfl, spell_literal _⟩
  | expression content =>
    rw [elementText_expression] at shown
    rw [elementParts_expression]
    cases resolved : scope.resolve .formatter content with
    | error error =>
      rw [resolved] at shown
      cases shown
    | ok value =>
      rw [resolved] at shown
      exact (keeps.resolve resolved).exists_parts_of_text shown
  | markupOpen name options => cases plain
  | markupClose name =>
    cases shown
    exact ⟨_, rfl, rfl⟩

/-! ## Patterns and messages -/

theorem patternText_cons (element : Element) (rest : Pattern) : scope.patternText (element :: rest) =
    (scope.elementText element).bind fun first => (scope.patternText rest).map (first ++ ·) := by
  rw [patternText]
  cases scope.elementText element with
  | error error => rfl
  | ok first => cases scope.patternText rest <;> rfl

theorem patternParts_cons (element : Element) (rest : Pattern) : scope.patternParts (element :: rest) =
    (scope.elementParts element).bind fun first => (scope.patternParts rest).map (first ++ ·) := by
  rw [patternParts]
  cases scope.elementParts element with
  | error error => rfl
  | ok first => cases scope.patternParts rest <;> rfl

theorem patternText_single (element : Element) : scope.patternText [element] = scope.elementText element := by
  rw [patternText_cons]
  cases scope.elementText element <;> simp [Except.bind, Except.map, patternText]

theorem patternParts_single (element : Element) : scope.patternParts [element] = scope.elementParts element := by
  rw [patternParts_cons]
  cases scope.elementParts element <;> simp [Except.bind, Except.map, patternParts]

/-- Where a pattern has parts its text is what they spell. -/
theorem patternText_of_parts {pattern : Pattern} {parts : List Part}
    (keeps : scope.Keeps Value.Spelled (pattern.flatMap Element.textVariables) (pattern.flatMap Element.functions))
    (shown : scope.patternParts pattern = .ok parts) : scope.patternText pattern = spell parts := by
  induction pattern generalizing parts with
  | nil =>
    cases shown
    rfl
  | cons element rest ih =>
    rw [patternParts_cons] at shown
    obtain ⟨front, back, first, later, rfl⟩ := bind_map_eq_ok.1 shown
    have own := keeps.mono (List.subset_append_left ..) (List.subset_append_left ..)
    have others := keeps.mono (List.subset_append_right ..) (List.subset_append_right ..)
    rw [patternText_cons, elementText_of_parts own first, ih others later, spell_append]

end Scope

def Pattern.withoutMarkupOpen (pattern : Pattern) : Pattern := pattern.filter fun element => !element.isMarkupOpen

namespace Scope

variable [Host] {scope : Scope}

/-- Where a pattern has a text it has parts that spell it, once the markup that has options is out of the way. -/
theorem exists_parts_of_patternText {pattern : Pattern} {text : String}
    (keeps : scope.Keeps Value.Spelled (pattern.flatMap Element.textVariables) (pattern.flatMap Element.functions))
    (shown : scope.patternText pattern = .ok text) :
    ∃ parts, scope.patternParts (Pattern.withoutMarkupOpen pattern) = .ok parts ∧ spell parts = .ok text := by
  induction pattern generalizing text with
  | nil =>
    cases shown
    exact ⟨[], rfl, rfl⟩
  | cons element rest ih =>
    rw [patternText_cons] at shown
    obtain ⟨front, back, first, later, rfl⟩ := bind_map_eq_ok.1 shown
    obtain ⟨behind, behindParts, behindText⟩ :=
      ih (keeps.mono (List.subset_append_right ..) (List.subset_append_right ..)) later
    cases isOpen : element.isMarkupOpen with
    | true =>
      have empty : front = "" := by
        cases element with
        | markupOpen name options => cases first; rfl
        | _ => cases isOpen
      subst empty
      refine ⟨behind, ?_, ?_⟩
      · rw [Pattern.withoutMarkupOpen, List.filter_cons_of_neg (by simp [isOpen])]
        exact behindParts
      · simpa using behindText
    | false =>
      obtain ⟨own, ownParts, ownText⟩ := exists_parts_of_elementText
        (keeps.mono (List.subset_append_left ..) (List.subset_append_left ..)) first isOpen
      refine ⟨own ++ behind, ?_, ?_⟩
      · rw [Pattern.withoutMarkupOpen, List.filter_cons_of_pos (by simp [isOpen]), patternParts_cons]
        exact bind_map_eq_ok.2 ⟨own, behind, ownParts, behindParts, rfl⟩
      · rw [spell_append]
        exact bind_map_eq_ok.2 ⟨front, back, ownText, behindText, rfl⟩

/-- If a pattern has a text but no parts, this is for the options of markup. -/
theorem markupOpen_of_patternParts_error {pattern : Pattern} {text : String} {error : FormatError}
    (keeps : scope.Keeps Value.Spelled (pattern.flatMap Element.textVariables) (pattern.flatMap Element.functions))
    (shown : scope.patternText pattern = .ok text) (failed : scope.patternParts pattern = .error error) :
    ∃ name options, Element.markupOpen name options ∈ pattern ∧
      scope.elementParts (.markupOpen name options) = .error error := by
  induction pattern generalizing text with
  | nil => cases failed
  | cons element rest ih =>
    rw [patternText_cons] at shown
    obtain ⟨front, back, first, later, rfl⟩ := bind_map_eq_ok.1 shown
    rw [patternParts_cons] at failed
    cases own : scope.elementParts element with
    | error other =>
      rw [own] at failed
      cases failed
      cases element with
      | markupOpen name options => exact ⟨name, options, List.mem_cons_self, own⟩
      | _ =>
        obtain ⟨parts, shownParts, _⟩ := exists_parts_of_elementText
          (keeps.mono (List.subset_append_left ..) (List.subset_append_left ..)) first rfl
        rw [own] at shownParts
        cases shownParts
    | ok parts =>
      have behind : scope.patternParts rest = .error error := by
        rw [own] at failed
        cases others : scope.patternParts rest with
        | error other =>
          rw [others] at failed
          cases failed
          rfl
        | ok shownParts =>
          rw [others] at failed
          cases failed
      obtain ⟨name, options, member, open'⟩ :=
        ih (keeps.mono (List.subset_append_right ..) (List.subset_append_right ..)) later behind
      exact ⟨name, options, List.mem_cons_of_mem _ member, open'⟩

end Scope

/-- The message that shows an expression behind declarations. -/
def Message.showing (declarations : List Declaration) (content : Expression) : Message :=
  ⟨declarations, [], [⟨[], [.expression content]⟩]⟩

namespace Scope

variable [Host] (scope : Scope)

theorem messageText_result (message : Message) : (scope.messageText message).2 =
    (scope.enter message).2.bind fun selection => (scope.enter message).1.patternText selection.variant.pattern := by
  unfold messageText
  rcases scope.enter message with ⟨entered, error | selection⟩ <;> rfl

theorem messageParts_result (message : Message) : (scope.messageParts message).2 =
    (scope.enter message).2.bind fun selection => (scope.enter message).1.patternParts selection.variant.pattern := by
  unfold messageParts
  rcases scope.enter message with ⟨entered, error | selection⟩ <;> rfl

/-- A message that shows one expression fails as its declarations do, and else is what the expression is behind them. -/
theorem messageText_showing (declarations : List Declaration) (content : Expression) :
    (scope.messageText (.showing declarations content)).2 = (scope.declare declarations).2.bind fun _ =>
      ((scope.declare declarations).1.resolve .formatter content).bind
        (·.formatText (scope.declare declarations).1.surroundings) := by
  rw [messageText_result, enter_result, enter_scope, ← elementText_expression, ← patternText_single]
  cases outcome : (scope.declare declarations).2 <;> rw [Message.showing, outcome] <;> rfl

theorem messageParts_showing (declarations : List Declaration) (content : Expression) :
    (scope.messageParts (.showing declarations content)).2 = (scope.declare declarations).2.bind fun _ =>
      ((scope.declare declarations).1.resolve .formatter content).bind
        (·.formatParts (scope.declare declarations).1.surroundings) := by
  rw [messageParts_result, enter_result, enter_scope, ← elementParts_expression, ← patternParts_single]
  cases outcome : (scope.declare declarations).2 <;> rw [Message.showing, outcome] <;> rfl

theorem messageText_showing_nil (content : Expression) : (scope.messageText (.showing [] content)).2 =
    (scope.resolve .formatter content).bind (·.formatText scope.surroundings) :=
  scope.messageText_showing [] content

theorem messageParts_showing_nil (content : Expression) : (scope.messageParts (.showing [] content)).2 =
    (scope.resolve .formatter content).bind (·.formatParts scope.surroundings) :=
  scope.messageParts_showing [] content

end Scope

/-- Patterns play no part in the selection of a variant. -/
theorem selectFrom_modify [Host] {surroundings : Surroundings} {values : List Value} {change : Variant → Variant}
    (keys : ∀ variant, (change variant).keys = variant.keys) {start : Nat} {variants : List Variant}
    {selection : Selection} (selected : selectFrom surroundings values start variants = .ok selection) :
    start ≤ selection.index ∧
      selectFrom surroundings values start (variants.modify (selection.index - start) change) =
        .ok ⟨selection.index, change selection.variant⟩ := by
  induction variants generalizing start with
  | nil => cases selected
  | cons variant rest ih =>
    rw [selectFrom] at selected
    cases named : keysName surroundings variant.keys values with
    | error error =>
      rw [named] at selected
      cases selected
    | ok fits =>
      rw [named] at selected
      cases fits with
      | true =>
        cases selected
        refine ⟨Nat.le_refl _, ?_⟩
        rw [Nat.sub_self, List.modify_zero_cons, selectFrom, keys, named]
      | false =>
        obtain ⟨after, found⟩ := ih selected
        refine ⟨Nat.le_of_succ_le after, ?_⟩
        have moved : selection.index - start = selection.index - (start + 1) + 1 := by omega
        rw [moved, List.modify_succ_cons, selectFrom, named]
        exact found

def Variant.withoutMarkupOpen (variant : Variant) : Variant :=
  { variant with pattern := Pattern.withoutMarkupOpen variant.pattern }

/-- The message whose variant at an index has no opening markup. -/
def Message.withoutMarkupOpen (message : Message) (index : Nat) : Message :=
  { message with variants := message.variants.modify index Variant.withoutMarkupOpen }

theorem Scope.enter_withoutMarkupOpen [Host] {scope entered : Scope} {message : Message} {selection : Selection}
    (selects : scope.enter message = (entered, .ok selection)) :
    scope.enter (message.withoutMarkupOpen selection.index) =
      (entered, .ok ⟨selection.index, selection.variant.withoutMarkupOpen⟩) := by
  unfold Scope.enter at selects ⊢
  have declarations : (message.withoutMarkupOpen selection.index).declarations = message.declarations := rfl
  rw [declarations]
  rcases declared : scope.declare message.declarations with ⟨inner, error | ⟨⟩⟩
  · rw [declared] at selects
    cases selects
  · rw [declared] at selects
    obtain ⟨rfl, selected⟩ := Prod.mk.inj selects
    refine congrArg (Prod.mk inner) ?_
    have values : (message.withoutMarkupOpen selection.index).selectors = message.selectors := rfl
    rw [Scope.select] at selected ⊢
    rw [values]
    cases resolved : message.selectors.mapM inner.resolveSelector with
    | error error =>
      rw [resolved] at selected
      cases selected
    | ok found =>
      rw [resolved] at selected
      have keys : ∀ variant : Variant, variant.withoutMarkupOpen.keys = variant.keys := fun _ => rfl
      exact (selectFrom_modify keys selected).2

namespace LocalizedMessage

def withoutMarkupOpen (localized : LocalizedMessage) (index : Nat) : LocalizedMessage :=
  { localized with message := localized.message.withoutMarkupOpen index }

section
variable [Host]

/-- The text of a message is what its parts spell. This is so of all values of the library, and is asked of those values
of the host that the message is given or that its functions return. An object among the parts leaves it without a text,
the options of opening markup may leave it without parts alone, and whatever fails before a pattern is rendered fails for
both. -/
theorem formatText_formatParts (localized : LocalizedMessage) (current : Registry) (arguments : Dictionary Value)
    (values : ∀ name ∈ localized.message.freeVariables Element.textVariables, ∀ item,
      arguments.get? name = some (.host item) → (Value.host item).Spelled)
    (functions : ∀ mention ∈ localized.message.functions, ∀ function,
      (localized.functions current).find? mention.1 mention.2 = some function → function.Keeps Value.Spelled) :
    (∀ parts, localized.formatParts current arguments = .ok parts → parts.any Part.isObject = false →
        localized.formatText current arguments = .ok (textOfParts parts)) ∧
      (∀ parts, localized.formatParts current arguments = .ok parts → parts.any Part.isObject = true →
        localized.formatText current arguments = .error (.notFormattable "opaque")) ∧
      (∀ text, localized.formatText current arguments = .ok text →
        ∃ entered selection,
          (localized.scope current arguments).enter localized.message = (entered, .ok selection) ∧
          (∃ parts, (localized.withoutMarkupOpen selection.index).formatParts current arguments = .ok parts ∧
            parts.any Part.isObject = false ∧ textOfParts parts = text) ∧
          ∀ error, localized.formatParts current arguments = .error error →
            ∃ name options, .markupOpen name options ∈ selection.variant.pattern ∧
              entered.elementParts (.markupOpen name options) = .error error) ∧
      ∀ entered error, (localized.scope current arguments).enter localized.message = (entered, .error error) →
        localized.formatText current arguments = .error error ∧
          localized.formatParts current arguments = .error error := by
  have kept := @scope_keeps _ localized current arguments _ _ _ (fun _ => Value.OfLibrary.spelled) values functions
  unfold formatText formatParts Scope.messageText Scope.messageParts
  rcases enters : (localized.scope current arguments).enter localized.message with ⟨entered, error | selection⟩
  · refine ⟨?_, ?_, ?_, ?_⟩
    · intro parts shown
      cases shown
    · intro parts shown
      cases shown
    · intro text shown
      cases shown
    · rintro _ _ ⟨rfl, rfl⟩
      exact ⟨rfl, rfl⟩
  · have keeps := kept.enter (congrArg Prod.snd enters)
    rw [enters] at keeps
    refine ⟨?_, ?_, ?_, ?_⟩
    · intro parts shown plain
      exact (Scope.patternText_of_parts keeps shown).trans (spell_eq_ok.2 ⟨plain, rfl⟩)
    · intro parts shown object
      exact (Scope.patternText_of_parts keeps shown).trans (if_pos object)
    · intro text shown
      obtain ⟨parts, shownParts, spelled⟩ := Scope.exists_parts_of_patternText keeps shown
      refine ⟨entered, selection, rfl, ⟨parts, ?_, spell_eq_ok.1 spelled⟩, ?_⟩
      · have again := Scope.enter_withoutMarkupOpen enters
        have same : (localized.withoutMarkupOpen selection.index).scope current arguments =
            localized.scope current arguments := rfl
        rw [same]
        simp only [withoutMarkupOpen, again]
        exact shownParts
      · intro error failed
        exact Scope.markupOpen_of_patternParts_error keeps shown failed
    · rintro _ _ ⟨⟩

end

section
attribute [local instance] Host.labels

/-- The message of `{{$count :number minimumFractionDigits=1} {+b}{$what}}`. -/
def order : LocalizedMessage where
  locale := "en"
  source := "\x7b\x7b$count :number minimumFractionDigits=1\x7d \x7b+b\x7d\x7b$what\x7d\x7d"
  message := {
    declarations := []
    selectors := []
    variants := [⟨[], [
      .expression (.operand (.variable "count")
        (some ⟨"number", .ofList [("minimumFractionDigits", .literal "1")]⟩)),
      .text " ", .markupOpen "b" .empty, .expression (.operand (.variable "what") none)]⟩] }
  registry := some .builtIn

/-- A number with a digit behind its point, and a value of the host behind markup. -/
theorem formatText_formatParts_order :
    let arguments := Dictionary.ofList [("count", Value.number ⟨.ofInt 2, .unset⟩), ("what", .host ⟨"ware", "cups"⟩)]
    Message.parse order.source = .ok order.message ∧
      (∀ name ∈ order.message.freeVariables Element.textVariables, ∀ item,
        arguments.get? name = some (.host item) → (Value.host item).Spelled) ∧
      (∀ mention ∈ order.message.functions, ∀ function,
        (order.functions .empty).find? mention.1 mention.2 = some function → function.Keeps Value.Spelled) ∧
      order.formatParts .empty arguments = .ok [.text "integer" "2", .text "decimal" ".", .text "fraction" "0",
        .literal " ", .markupOpen "b" .empty, .literal "cups"] ∧
      order.formatText .empty arguments = .ok "2.0 cups" := by
  intro arguments
  have values : ∀ name ∈ order.message.freeVariables Element.textVariables, ∀ item,
      arguments.get? name = some (.host item) → (Value.host item).Spelled := fun _ _ _ _ => Value.spelled_ofText rfl
  have functions : ∀ mention ∈ order.message.functions, ∀ function,
      (order.functions .empty).find? mention.1 mention.2 = some function → function.Keeps Value.Spelled :=
    fun mention _ function finds => (Registry.builtIn_ofLibrary mention.1 mention.2 function finds).keeps _
  have parts : order.formatParts .empty arguments = .ok [.text "integer" "2", .text "decimal" ".",
      .text "fraction" "0", .literal " ", .markupOpen "b" .empty, .literal "cups"] := by decide +kernel
  exact ⟨by decide +kernel, values, functions, parts,
    (formatText_formatParts order .empty arguments values functions).1 _ parts rfl⟩

end

end LocalizedMessage
end Localizable
