import Localizable.Message.Source
import Localizable.Proofs.Dictionaries
import Localizable.Proofs.MessageOfLayout
import Localizable.Proofs.WellFormed

/-!
# Printed messages are read back

The source of a well-formed message has a layout that means the message and breaks
no rule. With `Layout.message_wellFormed` this makes printing and reading inverse
on the well-formed messages, and on no others.
-/

namespace Localizable
open Text

namespace Layout

theorem exists_signs_of_chars {ends brackets : List Char} (covered : ∀ c ∈ ends, c ∈ brackets) (text : List Char) :
    ∃ signs : List (Sign ends brackets),
      signs.flatMap Sign.chars = escape brackets text ∧ signs.map Sign.value = text := by
  induction text with
  | nil => exact ⟨[], rfl, rfl⟩
  | cons c rest ih =>
    obtain ⟨signs, chars, value⟩ := ih
    by_cases special : c = '\\' ∨ c ∈ brackets
    · refine ⟨.escaped c special :: signs, ?_, congrArg (c :: ·) value⟩
      rw [escape, if_pos special, ← chars]
      rfl
    · have plain : c ≠ '\\' ∧ c ∉ ends :=
        ⟨fun same => special (.inl same), fun member => special (.inr (covered c member))⟩
      refine ⟨.bare c plain :: signs, ?_, congrArg (c :: ·) value⟩
      rw [escape, if_neg special, ← chars]
      rfl

theorem exists_literal (value : String) : ∃ signs : List LiteralSign,
    (literalStretch signs).chars = quoted value.toList ∧ literalText signs = value := by
  have covered : ∀ c ∈ [')'], c ∈ ['(', ')'] := by simp
  obtain ⟨signs, chars, meaning⟩ := exists_signs_of_chars covered value.toList
  refine ⟨signs, ?_, ?_⟩
  · rw [literalStretch, Stretch.token_chars, chars]
    rfl
  · rw [literalText, meaning, String.ofList_toList]

/-- A name that is a text of its own. -/
def Name.of (name : String) (valid : isName name.toList = true) : Name := ⟨name.toList, valid⟩

@[simp] theorem Name.of_chars {name : String} (valid : isName name.toList = true) :
    (Name.of name valid).chars = name.toList := rfl

@[simp] theorem Name.of_text {name : String} (valid : isName name.toList = true) : (Name.of name valid).text = name :=
  String.ofList_toList

/-! ## Placeholders -/

theorem exists_operand {operand : Localizable.Operand} (wellFormed : operand.WellFormed) : ∃ item : Operand,
    item.stretch.chars = operand.source ∧ item.meaning = operand := by
  cases operand with
  | literal value =>
    obtain ⟨signs, chars, meaning⟩ := exists_literal value
    exact ⟨.literal signs, chars, congrArg Localizable.Operand.literal meaning⟩
  | «variable» name =>
    exact ⟨.variable (.of name wellFormed), rfl, congrArg Localizable.Operand.variable (Name.of_text _)⟩

theorem exists_value {operand : Localizable.Operand} (wellFormed : operand.WellFormed) : ∃ value : Value,
    value.stretch.chars = operand.optionSource ∧ value.meaning = operand := by
  cases operand with
  | literal value =>
    by_cases bare : isNmtoken value.toList = true
    · exact ⟨.bare ⟨value.toList, bare⟩, (if_pos bare).symm, congrArg Localizable.Operand.literal String.ofList_toList⟩
    · obtain ⟨signs, chars, meaning⟩ := exists_literal value
      exact ⟨.operand (.literal signs), chars.trans (if_neg bare).symm, congrArg Localizable.Operand.literal meaning⟩
  | «variable» name =>
    exact ⟨.operand (.variable (.of name wellFormed)), rfl, congrArg Localizable.Operand.variable (Name.of_text _)⟩

/-- Options are printed one by one; none is repeated if their names are distinct. -/
theorem exists_entries {entries : List (String × Localizable.Operand)}
    (wellFormed : ∀ entry ∈ entries, isName entry.1.toList = true ∧ entry.2.WellFormed)
    (distinct : entries.Pairwise fun left right => left.1 ≠ right.1) : ∃ options : Options,
    charsOf options.stretches =
        entries.flatMap (fun (name, value) => ' ' :: name.toList ++ '=' :: value.optionSource) ++ ['}'] ∧
      options.entries = entries ∧
      ∀ offset given, (∀ entry ∈ entries, entry.1 ∉ given) → options.violations offset given = [] := by
  induction entries with
  | nil => exact ⟨.close .none, rfl, rfl, fun _ _ _ => rfl⟩
  | cons head rest ih =>
    obtain ⟨name, operand⟩ := head
    obtain ⟨apart, others⟩ := List.pairwise_cons.1 distinct
    obtain ⟨valid, good⟩ := wellFormed _ List.mem_cons_self
    obtain ⟨options, chars, same, none⟩ := ih (fun entry member => wellFormed entry (by simp [member])) others
    obtain ⟨value, written, meaning⟩ := exists_value good
    refine ⟨.option .space (.of name valid) .none .none value options, ?_, ?_, ?_⟩
    · simp [Options.stretches, chars, written, Break.space, Gap.none]
    · simp [Options.entries, same, meaning]
    · intro offset given fresh
      have own : name ∉ given := fresh _ List.mem_cons_self
      rw [Options.violations, Name.of_text, if_neg own]
      refine none _ _ fun entry member => ?_
      simp only [List.mem_cons, not_or]
      exact ⟨(apart entry member).symm, fresh entry (by simp [member])⟩

theorem exists_options {options : Localizable.Options} (wellFormed : Localizable.Options.WellFormed options) :
    ∃ item : Options, charsOf item.stretches = optionsSource options ++ ['}'] ∧ item.meaning = options ∧
      ∀ offset, item.violations offset [] = [] := by
  have distinct : options.entries.Pairwise fun left right => left.1 ≠ right.1 := by
    refine options.ascending.imp fun {left right} before same => ?_
    rw [same] at before
    exact String.lt_irrefl _ before
  obtain ⟨item, chars, entries, none⟩ := exists_entries wellFormed distinct
  exact ⟨item, chars, by rw [Options.meaning, entries, Dictionary.ofList_entries],
    fun offset => none offset [] (by simp)⟩

/-- An expression is printed as the inside of braces that hold no markup. -/
theorem exists_expression {content : Expression} (wellFormed : content.WellFormed) : ∃ item : Placeholder,
    charsOf item.stretches = braced content.source ∧ item.inside.expression = content ∧
      item.inside.element = .expression content ∧ ∀ offset, item.violationsAsExpression offset = [] := by
  cases content with
  | call function =>
    obtain ⟨valid, good⟩ := wellFormed
    obtain ⟨options, chars, meaning, none⟩ := exists_options good
    refine ⟨⟨.none, .call (.of function.name valid) options⟩, ?_, ?_, ?_, fun offset => none _⟩
    · simp [Placeholder.stretches, Placeholder.within, Inside.stretches, chars, braced, Expression.source,
        Invocation.source, Gap.none]
    · simp [Inside.expression, meaning]
    · simp [Inside.element, Inside.expression, meaning]
  | operand value function =>
    obtain ⟨item, written, same⟩ := exists_operand wellFormed.1
    cases function with
    | none =>
      refine ⟨⟨.none, .operand item (.close .none)⟩, ?_, ?_, ?_, fun offset => rfl⟩
      · simp [Placeholder.stretches, Placeholder.within, Inside.stretches, Tail.stretches, written, braced,
          Expression.source, Gap.none]
      · simp [Inside.expression, Tail.function?, same]
      · simp [Inside.element, Inside.expression, Tail.function?, same]
    | some function =>
      obtain ⟨valid, good⟩ := wellFormed.2 function rfl
      obtain ⟨options, chars, meaning, none⟩ := exists_options good
      refine ⟨⟨.none, .operand item (.function .space (.of function.name valid) options)⟩, ?_, ?_, ?_,
        fun offset => none _⟩
      · simp [Placeholder.stretches, Placeholder.within, Inside.stretches, Tail.stretches, written, chars, braced,
          Expression.source, Invocation.source, Gap.none, Break.space]
      · simp [Inside.expression, Tail.function?, same, meaning]
      · simp [Inside.element, Inside.expression, Tail.function?, same, meaning]

theorem exists_placeholder {element : Element} (wellFormed : element.WellFormed) (noText : element.isText = false) :
    ∃ item : Placeholder, charsOf item.stretches = element.source ∧ item.inside.element = element ∧
      ∀ offset, item.violations offset = [] := by
  cases element with
  | text value => cases noText
  | expression content =>
    obtain ⟨item, chars, _, same, none⟩ := exists_expression wellFormed
    exact ⟨item, chars, same, fun offset => (List.append_eq_nil_iff.1 (none offset)).2⟩
  | markupOpen name options =>
    obtain ⟨valid, good⟩ := wellFormed
    obtain ⟨item, chars, meaning, none⟩ := exists_options good
    refine ⟨⟨.none, .markupOpen (.of name valid) item⟩, ?_, ?_, fun offset => none _⟩
    · simp [Placeholder.stretches, Placeholder.within, Inside.stretches, chars, braced, Element.source, Gap.none]
    · simp [Inside.element, meaning]
  | markupClose name =>
    have valid : isName name.toList = true := wellFormed
    refine ⟨⟨.none, .markupClose (.of name valid) .none⟩, ?_, ?_, fun offset => rfl⟩
    · simp [Placeholder.stretches, Placeholder.within, Inside.stretches, braced, Element.source, Gap.none]
    · simp [Inside.element]

/-- A text is printed with its escapes. -/
theorem exists_text (value : String) : ∃ signs : List TextSign,
    charsOf (textStretches signs) = (Element.text value).source ∧
      (value ≠ "" → textElements signs = [.text value]) := by
  have covered : ∀ c ∈ ['{', '}'], c ∈ ['{', '}'] := fun _ member => member
  obtain ⟨signs, chars, meaning⟩ := exists_signs_of_chars covered value.toList
  refine ⟨signs, ?_, ?_⟩
  · rw [Element.source, ← chars]
    cases signs <;> simp [textStretches]
  · intro filled
    cases signs with
    | nil =>
      have empty : value = "" := String.toList_eq_nil_iff.1 meaning.symm
      exact absurd empty filled
    | cons sign rest =>
      have whole : String.ofList ((sign :: rest).map Sign.value) = value := by
        rw [meaning, String.ofList_toList]
      exact congrArg (fun text => [Element.text text]) whole

theorem Pattern.wellFormed_cons {element : Element} {rest : Pattern}
    (wellFormed : Pattern.WellFormed (element :: rest)) : element.WellFormed ∧ Pattern.WellFormed rest ∧
      (element.isText = true → ∀ next ∈ rest.head?, next.isText = false) := by
  obtain ⟨first, chain⟩ := List.isChain_cons.1 wellFormed.apart
  refine ⟨wellFormed.elements _ (by simp), ⟨fun item member => wellFormed.elements _ (by simp [member]), chain⟩, ?_⟩
  intro text next head
  simpa [text] using first next head

/-- A pattern is printed as it is, and behind a text if it does not begin with one. -/
theorem exists_body {pattern : Pattern} (wellFormed : Pattern.WellFormed pattern) :
    (∃ body : Body, charsOf body.stretches = patternSource pattern ++ ['}'] ∧ body.pattern = pattern ∧
        ∀ offset, body.violations offset = []) ∧
      ((∀ next ∈ pattern.head?, next.isText = false) → ∀ text : List TextSign, ∃ body : Body,
        charsOf body.stretches = charsOf (textStretches text) ++ patternSource pattern ++ ['}'] ∧
          body.pattern = textElements text ++ pattern ∧ ∀ offset, body.violations offset = []) := by
  induction pattern with
  | nil =>
    have close : ∀ text : List TextSign, ∃ body : Body,
        charsOf body.stretches = charsOf (textStretches text) ++ patternSource [] ++ ['}'] ∧
          body.pattern = textElements text ++ [] ∧ ∀ offset, body.violations offset = [] :=
      fun text => ⟨.close text, by simp [Body.stretches, patternSource], by simp [Body.pattern], fun _ => rfl⟩
    exact ⟨close [], fun _ => close⟩
  | cons element rest ih =>
    obtain ⟨good, behind, apart⟩ := Pattern.wellFormed_cons wellFormed
    obtain ⟨whole, joined⟩ := ih behind
    cases isText : element.isText with
    | true =>
      cases element with
      | text value =>
        obtain ⟨signs, chars, meaning⟩ := exists_text value
        obtain ⟨body, source, same, none⟩ := joined (apart rfl) signs
        refine ⟨⟨body, ?_, ?_, none⟩, fun noText => ?_⟩
        · rw [source, chars]
          simp [patternSource]
        · rw [same, meaning good]
          rfl
        · cases noText _ rfl
      | _ => cases isText
    | false =>
      obtain ⟨item, chars, meaning, nothing⟩ := exists_placeholder good isText
      obtain ⟨body, source, same, none⟩ := whole
      have placed : ∀ text : List TextSign, ∃ body : Body,
          charsOf body.stretches = charsOf (textStretches text) ++ patternSource (element :: rest) ++ ['}'] ∧
            body.pattern = textElements text ++ element :: rest ∧ ∀ offset, body.violations offset = [] := by
        intro text
        refine ⟨.placeholder text item body, ?_, ?_, ?_⟩
        · simp [Body.stretches, chars, source, patternSource]
        · rw [Body.pattern, meaning, same]
        · intro offset
          rw [Body.violations, nothing, none]
          rfl
      exact ⟨placed [], fun _ => placed⟩

/-! ## Variants and messages -/

theorem exists_key (key : Localizable.Key) : ∃ item : Key, item.stretch.chars = key.source ∧ item.meaning = key := by
  cases key with
  | any => exact ⟨.any, rfl, rfl⟩
  | literal value =>
    by_cases bare : isNmtoken value.toList = true
    · exact ⟨.bare ⟨value.toList, bare⟩, (if_pos bare).symm, congrArg Localizable.Key.literal String.ofList_toList⟩
    · obtain ⟨signs, chars, meaning⟩ := exists_literal value
      exact ⟨.literal signs, chars.trans (if_neg bare).symm, congrArg Localizable.Key.literal meaning⟩

theorem exists_keys (keys : List Localizable.Key) : ∃ items : Keys,
    charsOf items.stretches = keys.flatMap (fun key => ' ' :: key.source) ++ [' ', '{'] ∧ items.list = keys := by
  induction keys with
  | nil => exact ⟨.brace Break.space.toGap, rfl, rfl⟩
  | cons key rest ih =>
    obtain ⟨item, written, meaning⟩ := exists_key key
    obtain ⟨items, chars, same⟩ := ih
    refine ⟨.key .space item items, ?_, ?_⟩
    · simp [Keys.stretches, written, chars, Break.space]
    · simp [Keys.list, meaning, same]

-- The equation that is derived for a source evaluates the words in it, so it is stated here as it is written.
theorem source_of_variant (variant : Localizable.Variant) : variant.source = "when".toList ++
    variant.keys.flatMap (fun key => ' ' :: key.source) ++ ' ' :: braced (patternSource variant.pattern) := rfl

theorem exists_variant {variant : Localizable.Variant} (wellFormed : Pattern.WellFormed variant.pattern)
    (some : variant.keys ≠ []) : ∃ item : Variant, charsOf item.stretches = variant.source ∧ item.meaning = variant ∧
      ∀ offset, item.violations offset variant.keys.length = [] := by
  obtain ⟨keys, pattern⟩ := variant
  obtain ⟨first, others, rfl⟩ := List.exists_cons_of_ne_nil some
  obtain ⟨key, written, meaning⟩ := exists_key first
  obtain ⟨items, chars, same⟩ := exists_keys others
  obtain ⟨body, source, elements, none⟩ := (exists_body wellFormed).1
  refine ⟨⟨.space, key, items, body⟩, ?_, ?_, fun offset => ?_⟩
  · simp [Variant.stretches, Variant.within, whenStretch, written, chars, source, Break.space, source_of_variant,
      braced]
  · simp [Variant.meaning, Variant.keys, meaning, same, elements]
  · rw [Variant.violations, none, Variant.keys, meaning, same, if_pos rfl]
    rfl

theorem exists_variants {variants : List Localizable.Variant} {count : Nat} (some : variants ≠ []) (keyed : count ≠ 0)
    (patterns : ∀ variant ∈ variants, Pattern.WellFormed variant.pattern)
    (keys : ∀ variant ∈ variants, variant.keys.length = count) : ∃ items : Variants,
      '\n' :: charsOf items.stretches = variants.flatMap (fun variant => '\n' :: variant.source) ∧
        items.list = variants ∧ ∀ offset, items.violations offset count = [] := by
  induction variants with
  | nil => exact absurd rfl some
  | cons variant rest ih =>
    have filled : variant.keys ≠ [] := by
      intro empty
      have length := keys variant (by simp)
      rw [empty] at length
      exact keyed length.symm
    obtain ⟨item, written, meaning, nothing⟩ := exists_variant (patterns variant (by simp)) filled
    rw [keys variant (by simp)] at nothing
    by_cases last : rest = []
    · subst last
      refine ⟨.last item .none, ?_, ?_, fun offset => nothing _⟩
      · simp [Variants.stretches, written, Gap.none]
      · simp [Variants.list, meaning]
    · obtain ⟨items, chars, same, none⟩ := ih last (fun other member => patterns other (by simp [member]))
        fun other member => keys other (by simp [member])
      refine ⟨.more item Break.line.toGap items, ?_, ?_, fun offset => ?_⟩
      · simp [Variants.stretches, written, Break.line, chars]
      · simp [Variants.list, meaning, same]
      · rw [Variants.violations, nothing, none]
        rfl

theorem exists_selectors {selectors : List Expression} {variants : List Localizable.Variant} {count : Nat}
    (wellFormed : ∀ selector ∈ selectors, selector.WellFormed) (some : variants ≠ []) (keyed : count ≠ 0)
    (patterns : ∀ variant ∈ variants, Pattern.WellFormed variant.pattern)
    (keys : ∀ variant ∈ variants, variant.keys.length = count) : ∃ items : Selectors,
      charsOf items.stretches = selectors.flatMap (fun selector => ' ' :: braced selector.source)
          ++ variants.flatMap (fun variant => '\n' :: variant.source) ∧
        items.expressions = selectors ∧ items.list = variants ∧ ∀ offset, items.violations offset count = [] := by
  induction selectors with
  | nil =>
    obtain ⟨items, chars, same, none⟩ := exists_variants some keyed patterns keys
    exact ⟨.variants Break.line.toGap items, by simp [Selectors.stretches, Break.line, chars], rfl, same,
      fun offset => none _⟩
  | cons selector rest ih =>
    obtain ⟨content, written, meaning, _, nothing⟩ := exists_expression (wellFormed selector (by simp))
    obtain ⟨items, chars, same, list, none⟩ := ih fun other member => wellFormed other (by simp [member])
    refine ⟨.selector Break.space.toGap content items, ?_, ?_, list, fun offset => ?_⟩
    · simp [Selectors.stretches, Break.space, written, chars]
    · simp [Selectors.expressions, meaning, same]
    · rw [Selectors.violations, nothing, none]
      rfl

/-- What is printed behind the declarations may stand behind whitespace. -/
theorem exists_layout_of_body {message : Message} (wellFormed : message.WellFormed)
    (undeclared : message.declarations = []) (gap : Gap) : ∃ layout : Layout,
      layout.chars = gap.chars ++ message.bodySource ∧ layout.message = message ∧
        ∀ offset, layout.violationsFrom offset = [] := by
  obtain ⟨declarations, selectors, variants⟩ := message
  subst undeclared
  cases selectors with
  | nil =>
    obtain ⟨pattern, rfl⟩ := wellFormed.plain rfl
    obtain ⟨body, source, same, none⟩ := (exists_body (wellFormed.patterns ⟨[], pattern⟩ (by simp))).1
    refine ⟨.pattern gap body .none, ?_, ?_, fun offset => none _⟩
    · simp [Layout.chars, Layout.stretches, source, Message.bodySource, braced, Gap.none]
    · simp [Layout.message, same]
  | cons selector rest =>
    obtain ⟨some, keys⟩ := wellFormed.selected (List.cons_ne_nil _ _)
    obtain ⟨content, written, meaning, _, nothing⟩ := exists_expression (wellFormed.selectors selector (by simp))
    have others : ∀ other ∈ rest, other.WellFormed := fun other member => wellFormed.selectors other (by simp [member])
    obtain ⟨items, chars, same, list, none⟩ := exists_selectors others some (by simp) wellFormed.patterns keys
    refine ⟨.selection gap Break.space.toGap content items, ?_, ?_, fun offset => ?_⟩
    · simp [Layout.chars, Layout.stretches, matchStretch, written, chars, Break.space, Message.bodySource]
    · simp [Layout.message, meaning, same, list]
    · have count : items.expressions.length + 1 = (selector :: rest).length := by simp [same]
      rw [Layout.violationsFrom, nothing, count, none]
      rfl

theorem source_of_declaration (declaration : Localizable.Declaration) : declaration.source =
    "let $".toList ++ declaration.name.toList ++ " = ".toList ++ braced declaration.expression.source := rfl

theorem exists_declaration {declaration : Localizable.Declaration} (wellFormed : declaration.WellFormed) :
    ∃ item : Declaration, charsOf item.stretches = declaration.source ∧ item.meaning = declaration ∧
      ∀ offset, item.violations offset = [] := by
  obtain ⟨valid, good⟩ := wellFormed
  obtain ⟨content, written, meaning, _, none⟩ := exists_expression good
  refine ⟨⟨.space, .of declaration.name valid, .space, .space, content⟩, ?_, ?_, fun offset => none _⟩
  · simp [Declaration.stretches, letStretch, Break.space, written, source_of_declaration]
  · simp [Declaration.meaning, meaning]

/-- A well-formed message is printed as a source that has a layout, also behind whitespace. -/
theorem exists_layout {message : Message} (wellFormed : message.WellFormed) (gap : Gap) : ∃ layout : Layout,
    layout.chars = gap.chars ++ message.sourceChars ∧ layout.message = message ∧
      ∀ offset, layout.violationsFrom offset = [] := by
  obtain ⟨declarations, selectors, variants⟩ := message
  induction declarations generalizing gap with
  | nil => exact exists_layout_of_body wellFormed rfl gap
  | cons declaration rest ih =>
    obtain ⟨item, written, meaning, nothing⟩ := exists_declaration (wellFormed.declarations declaration (by simp))
    have others : Message.WellFormed ⟨rest, selectors, variants⟩ :=
      { wellFormed with declarations := fun other member => wellFormed.declarations other (by simp [member]) }
    obtain ⟨layout, chars, same, none⟩ := ih Break.line.toGap others
    refine ⟨.declaration gap item layout, ?_, ?_, fun offset => ?_⟩
    · rw [Layout.chars] at chars
      simp [Layout.chars, Layout.stretches, written, chars, Break.line, Message.sourceChars, Message.bodySource]
    · simp [Layout.message, meaning, same]
    · rw [Layout.violationsFrom, nothing, none]
      rfl

end Layout

/-- Printing and reading are inverse on the well-formed messages and on no others, and only such messages are read. -/
theorem Message.parse_source_eq_ok_iff :
    (∀ message : Message, Message.parse message.source = .ok message ↔ message.WellFormed) ∧
      ∀ (source : String) (message : Message), Message.parse source = .ok message → message.WellFormed := by
  have sound : ∀ (source : String) (message : Message), Message.parse source = .ok message → message.WellFormed := by
    intro source message parsed
    obtain ⟨layout, _, none, rfl⟩ := exists_layout_of_parse parsed
    exact Layout.message_wellFormed none
  refine ⟨fun message => ⟨sound _ message, fun wellFormed => ?_⟩, sound⟩
  obtain ⟨layout, chars, rfl, none⟩ := Layout.exists_layout wellFormed .none
  have read := layout.parseChars
  rw [Layout.violations, none] at read
  rw [Message.parse, Message.source, String.toList_ofList]
  rwa [chars] at read

end Localizable
