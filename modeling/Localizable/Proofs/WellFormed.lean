import Localizable.Proofs.LayoutMeaning
import Mathlib.Data.List.Chain

/-!
# Well-formed messages

A message may be built of any texts. It is well formed if its names are names, the
text of a pattern is not empty and not split, and the variants fit the selectors
(`Message.WellFormed`). The message of a layout that breaks no rule is well formed
(`Layout.message_wellFormed`).
-/

namespace Localizable
open Text

def Operand.WellFormed : Operand → Prop
  | .literal _ => True
  | .variable name => isName name.toList = true

def Options.WellFormed (options : Options) : Prop :=
  ∀ entry ∈ options.entries, isName entry.1.toList = true ∧ entry.2.WellFormed

def Invocation.WellFormed (function : Invocation) : Prop :=
  isName function.name.toList = true ∧ Options.WellFormed function.options

def Expression.WellFormed : Expression → Prop
  | .operand item function => item.WellFormed ∧ ∀ invocation ∈ function, invocation.WellFormed
  | .call function => function.WellFormed

def Element.isText : Element → Bool
  | .text _ => true
  | _ => false

def Element.WellFormed : Element → Prop
  | .text value => value ≠ ""
  | .expression content => content.WellFormed
  | .markupOpen name options => isName name.toList = true ∧ Options.WellFormed options
  | .markupClose name => isName name.toList = true

/-- No text of the pattern is empty, and no two texts stand side by side. -/
structure Pattern.WellFormed (pattern : Pattern) : Prop where
  elements : ∀ element ∈ pattern, element.WellFormed
  apart : pattern.IsChain fun left right => ¬ (left.isText = true ∧ right.isText = true)

def Declaration.WellFormed (declaration : Declaration) : Prop :=
  isName declaration.name.toList = true ∧ declaration.expression.WellFormed

structure Message.WellFormed (message : Message) : Prop where
  declarations : ∀ declaration ∈ message.declarations, declaration.WellFormed
  selectors : ∀ selector ∈ message.selectors, selector.WellFormed
  patterns : ∀ variant ∈ message.variants, Pattern.WellFormed variant.pattern
  /-- Without selectors there is one variant, and it has no keys. -/
  plain : message.selectors = [] → ∃ pattern, message.variants = [⟨[], pattern⟩]
  /-- With selectors there is a variant, and every variant has a key for each selector. -/
  selected : message.selectors ≠ [] →
    message.variants ≠ [] ∧ ∀ variant ∈ message.variants, variant.keys.length = message.selectors.length

theorem Dictionary.mem_ofList {α : Type} {entry : String × α} {entries : List (String × α)}
    (member : entry ∈ (ofList entries).entries) : entry ∈ entries := by
  have folded : ∀ (entries : List (String × α)) (base : Dictionary α),
      entry ∈ (entries.foldl (fun dictionary entry => dictionary.insert entry.1 entry.2) base).entries →
        entry ∈ base.entries ∨ entry ∈ entries := by
    intro entries
    induction entries with
    | nil => exact fun base member => .inl member
    | cons head rest ih =>
      intro base member
      rcases ih _ member with placed | later
      · rcases mem_place placed with rfl | before
        · exact .inr (by simp)
        · exact .inl before
      · exact .inr (by simp [later])
  rcases folded entries empty member with none | listed
  · cases none
  · exact listed

namespace Layout

/-! ## The meanings of layouts are well formed -/

@[simp] theorem Name.text_isName (name : Name) : isName name.text.toList = true := by
  simp [Name.text, name.valid]

theorem Operand.meaning_wellFormed (item : Operand) : item.meaning.WellFormed := by
  cases item with
  | «variable» name => exact name.text_isName
  | literal signs => trivial

theorem Value.meaning_wellFormed (value : Value) : value.meaning.WellFormed := by
  cases value with
  | operand item => exact item.meaning_wellFormed
  | bare token => trivial

theorem Options.entries_wellFormed (options : Options) :
    ∀ entry ∈ options.entries, isName entry.1.toList = true ∧ entry.2.WellFormed := by
  induction options with
  | close gap => simp [entries]
  | option gap name before after value rest ih =>
    intro entry member
    rcases List.mem_cons.1 member with rfl | later
    · exact ⟨name.text_isName, value.meaning_wellFormed⟩
    · exact ih entry later

theorem Options.meaning_wellFormed (options : Options) : Localizable.Options.WellFormed options.meaning :=
  fun entry member => options.entries_wellFormed entry (Dictionary.mem_ofList member)

theorem Tail.function?_wellFormed (tail : Tail) : ∀ invocation ∈ tail.function?, invocation.WellFormed := by
  cases tail with
  | close gap => simp [function?]
  | function gap name options =>
    rintro invocation ⟨rfl⟩
    exact ⟨name.text_isName, options.meaning_wellFormed⟩

theorem Inside.expression_wellFormed (inside : Inside) : inside.expression.WellFormed := by
  cases inside with
  | call name options => exact ⟨name.text_isName, options.meaning_wellFormed⟩
  | operand item tail => exact ⟨item.meaning_wellFormed, tail.function?_wellFormed⟩
  | markupOpen name options => exact ⟨name.text_isName, options.meaning_wellFormed⟩
  | markupClose name gap => exact ⟨name.text_isName, fun entry member => by cases member⟩

theorem Inside.element_wellFormed (inside : Inside) :
    inside.element.WellFormed ∧ inside.element.isText = false := by
  cases inside with
  | call name options => exact ⟨Inside.expression_wellFormed (.call name options), rfl⟩
  | operand item tail => exact ⟨Inside.expression_wellFormed (.operand item tail), rfl⟩
  | markupOpen name options => exact ⟨⟨name.text_isName, options.meaning_wellFormed⟩, rfl⟩
  | markupClose name gap => exact ⟨name.text_isName, rfl⟩

theorem textElements_wellFormed (text : List TextSign) : ∀ element ∈ textElements text, element.WellFormed := by
  cases text with
  | nil => simp [textElements]
  | cons sign rest =>
    rintro element member
    obtain rfl := List.mem_singleton.1 member
    simp [Element.WellFormed]

theorem Body.pattern_wellFormed (body : Body) : Pattern.WellFormed body.pattern := by
  induction body with
  | close text =>
    refine ⟨textElements_wellFormed text, ?_⟩
    cases text with
    | nil => exact .nil
    | cons sign rest => exact .singleton _
  | placeholder text content rest ih =>
    obtain ⟨wellFormed, noText⟩ := content.inside.element_wellFormed
    have behind : List.IsChain (fun left right : Element => ¬ (left.isText = true ∧ right.isText = true))
        (content.inside.element :: rest.pattern) := by
      refine List.isChain_cons.2 ⟨fun other _ => ?_, ih.apart⟩
      simp [noText]
    constructor
    · intro element member
      rcases List.mem_append.1 member with front | back
      · exact textElements_wellFormed text element front
      · rcases List.mem_cons.1 back with rfl | later
        · exact wellFormed
        · exact ih.elements element later
    · cases text with
      | nil => exact behind
      | cons sign others => exact List.isChain_cons_cons.2 ⟨by simp [noText], behind⟩

theorem Variants.list_patterns (variants : Variants) :
    ∀ variant ∈ variants.list, Pattern.WellFormed variant.pattern := by
  induction variants with
  | last variant gap =>
    rintro item member
    obtain rfl := List.mem_singleton.1 member
    exact variant.body.pattern_wellFormed
  | more variant gap rest ih =>
    intro item member
    rcases List.mem_cons.1 member with rfl | later
    · exact variant.body.pattern_wellFormed
    · exact ih item later

theorem Variant.keys_of_violations {variant : Variant} {offset selectors : Nat}
    (none : variant.violations offset selectors = []) : variant.keys.length = selectors := by
  by_contra other
  rw [Variant.violations, if_neg other] at none
  cases none

/-- Where nothing is violated every variant has a key for each selector. -/
theorem Variants.keys_of_violations {variants : Variants} {offset selectors : Nat}
    (none : variants.violations offset selectors = []) :
    variants.list ≠ [] ∧ ∀ variant ∈ variants.list, variant.keys.length = selectors := by
  induction variants generalizing offset with
  | last variant gap =>
    refine ⟨List.cons_ne_nil _ _, fun item member => ?_⟩
    obtain rfl := List.mem_singleton.1 member
    exact Variant.keys_of_violations none
  | more variant gap rest ih =>
    obtain ⟨first, later⟩ := List.append_eq_nil_iff.1 none
    refine ⟨List.cons_ne_nil _ _, fun item member => ?_⟩
    rcases List.mem_cons.1 member with rfl | behind
    · exact Variant.keys_of_violations first
    · exact (ih later).2 item behind

theorem Selectors.meaning_wellFormed (selectors : Selectors) :
    (∀ selector ∈ selectors.expressions, selector.WellFormed) ∧
      ∀ variant ∈ selectors.list, Pattern.WellFormed variant.pattern := by
  induction selectors with
  | variants gap items => exact ⟨by simp [expressions], items.list_patterns⟩
  | selector gap content rest ih =>
    refine ⟨fun selector member => ?_, ih.2⟩
    rcases List.mem_cons.1 member with rfl | later
    · exact content.inside.expression_wellFormed
    · exact ih.1 selector later

theorem Selectors.keys_of_violations {selectors : Selectors} {offset count : Nat}
    (none : selectors.violations offset count = []) :
    selectors.list ≠ [] ∧ ∀ variant ∈ selectors.list, variant.keys.length = count := by
  induction selectors generalizing offset with
  | variants gap items => exact Variants.keys_of_violations none
  | selector gap content rest ih => exact ih (List.append_eq_nil_iff.1 none).2

end Layout

theorem Layout.message_wellFormed {layout : Layout} {offset : Nat} (none : layout.violationsFrom offset = []) :
    layout.message.WellFormed := by
  induction layout generalizing offset with
  | declaration gap item rest ih =>
    have later := ih (List.append_eq_nil_iff.1 none).2
    refine { later with declarations := fun declaration member => ?_ }
    rcases List.mem_cons.1 member with rfl | behind
    · exact ⟨item.name.text_isName, item.content.inside.expression_wellFormed⟩
    · exact later.declarations declaration behind
  | pattern gap body after =>
    refine ⟨by simp [message], by simp [message], ?_, fun _ => ⟨_, rfl⟩, fun some => absurd rfl some⟩
    intro variant member
    obtain rfl := List.mem_singleton.1 member
    exact body.pattern_wellFormed
  | selection gap before first rest =>
    obtain ⟨expressions, patterns⟩ := rest.meaning_wellFormed
    obtain ⟨some, keys⟩ := Selectors.keys_of_violations (List.append_eq_nil_iff.1 none).2
    refine ⟨by simp [message], ?_, patterns, fun empty => absurd empty (List.cons_ne_nil _ _), fun _ => ⟨some, keys⟩⟩
    intro selector member
    rcases List.mem_cons.1 member with rfl | behind
    · exact first.inside.expression_wellFormed
    · exact expressions selector behind

end Localizable
