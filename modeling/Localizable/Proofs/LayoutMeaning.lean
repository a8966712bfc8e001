import Localizable.Proofs.Layout

/-!
# What layouts mean

Every layout has a message (`Layout.message`), and a list of the rules that it
breaks besides (`Layout.violations`): an expression has to stand in declarations
and selectors, a variant has a key for each selector, and no option is given
twice. The violations are listed in the order in which they stand in the source
(`Layout.violations_spread`).
-/

namespace Localizable
open Text

/-- A rule that a layout breaks, and where. -/
inductive Violation
  /-- Markup where an expression has to stand, at its name. -/
  | strayMarkup (span : Span)
  /-- A variant with a wrong number of keys, from its keyword to the brace of its pattern. -/
  | keyCount (keys selectors : Nat) (span : Span)
  /-- An option that has been given before, at its name. -/
  | repeatedOption (name : String) (span : Span)
deriving DecidableEq, Repr

namespace Violation

def span : Violation → Span
  | .strayMarkup span => span
  | .keyCount _ _ span => span
  | .repeatedOption _ span => span

/-- How the violation is reported. -/
def fault : Violation → SyntaxFault
  | .strayMarkup _ => .expectedOperand
  | .keyCount keys selectors _ => .keyCount keys selectors
  | .repeatedOption name _ => .duplicateOption name

/-- Violations between two offsets, each of them behind the one before. -/
def Spread (low high : Nat) (violations : List Violation) : Prop :=
  violations.Pairwise (fun left right => left.span.stop ≤ right.span.start) ∧
    ∀ violation ∈ violations, low ≤ violation.span.start ∧ violation.span.stop ≤ high

namespace Spread

theorem nil {low high : Nat} : Spread low high [] := ⟨.nil, by simp⟩

theorem single {low high : Nat} {violation : Violation} (start : low ≤ violation.span.start)
    (stop : violation.span.stop ≤ high) : Spread low high [violation] := ⟨by simp, by simp [start, stop]⟩

theorem append {low high middle : Nat} {left right : List Violation} (first : Spread low middle left)
    (second : Spread middle high right) (before : low ≤ middle) (behind : middle ≤ high) :
    Spread low high (left ++ right) := by
  refine ⟨List.pairwise_append.2 ⟨first.1, second.1, fun violation member other behindMember => ?_⟩, ?_⟩
  · exact Nat.le_trans (first.2 violation member).2 (second.2 other behindMember).1
  · intro violation member
    rcases List.mem_append.1 member with front | back
    · exact ⟨(first.2 violation front).1, Nat.le_trans (first.2 violation front).2 behind⟩
    · exact ⟨Nat.le_trans before (second.2 violation back).1, (second.2 violation back).2⟩

theorem widen {low high lower higher : Nat} {violations : List Violation} (spread : Spread low high violations)
    (below : lower ≤ low) (above : high ≤ higher) : Spread lower higher violations :=
  ⟨spread.1, fun violation member =>
    ⟨Nat.le_trans below (spread.2 violation member).1, Nat.le_trans (spread.2 violation member).2 above⟩⟩

end Spread
end Violation

namespace Layout

def literalText (signs : List LiteralSign) : String := String.ofList (signs.map Sign.value)

def Operand.meaning : Operand → Localizable.Operand
  | .variable name => .variable name.text
  | .literal signs => .literal (literalText signs)

def Value.meaning : Value → Localizable.Operand
  | .operand item => item.meaning
  | .bare token => .literal (String.ofList token.chars)

/-- The options in the order in which they stand. -/
def Options.entries : Options → List (String × Localizable.Operand)
  | .close _ => []
  | .option _ name _ _ value rest => (name.text, value.meaning) :: rest.entries

def Options.meaning (options : Options) : Localizable.Options := Dictionary.ofList options.entries

def Tail.function? : Tail → Option Invocation
  | .close _ => none
  | .function _ name options => some ⟨name.text, options.meaning⟩

/-- The expression inside of braces. Markup counts as a call of its name where it may not stand. -/
def Inside.expression : Inside → Expression
  | .call name options => .call ⟨name.text, options.meaning⟩
  | .operand item tail => .operand item.meaning tail.function?
  | .markupOpen name options => .call ⟨name.text, options.meaning⟩
  | .markupClose name _ => .call ⟨name.text, .empty⟩

def Inside.element : Inside → Element
  | .markupOpen name options => .markupOpen name.text options.meaning
  | .markupClose name _ => .markupClose name.text
  | inside => .expression inside.expression

/-- Option names that have been given before, where the options start at an offset. -/
def Options.violations (offset : Nat) (given : List String) : Options → List Violation
  | .close _ => []
  | .option gap name before after value rest =>
    let start := offset + byteWidth gap.chars
    let stop := start + byteWidth name.chars
    let behind := stop + byteWidth before.chars + byteWidth ['='] + byteWidth after.chars
      + byteWidth value.stretch.chars
    (if name.text ∈ given then [.repeatedOption name.text ⟨start, stop⟩] else [])
      ++ rest.violations behind (name.text :: given)

def Tail.violations (offset : Nat) : Tail → List Violation
  | .close _ => []
  | .function gap name options => options.violations (offset + byteWidth gap.chars + byteWidth (':' :: name.chars)) []

def Inside.violations (offset : Nat) : Inside → List Violation
  | .call name options => options.violations (offset + byteWidth (':' :: name.chars)) []
  | .operand item tail => tail.violations (offset + byteWidth item.stretch.chars)
  | .markupOpen name options => options.violations (offset + byteWidth ('+' :: name.chars)) []
  | .markupClose _ _ => []

/-- Markup, where an expression has to stand. -/
def Inside.strays (offset : Nat) : Inside → List Violation
  | .markupOpen name _ => [.strayMarkup ⟨offset, offset + byteWidth ('+' :: name.chars)⟩]
  | .markupClose name _ => [.strayMarkup ⟨offset, offset + byteWidth ('-' :: name.chars)⟩]
  | _ => []

/-- Violations in a placeholder of a pattern, whose opening brace starts at the offset. -/
def Placeholder.violations (offset : Nat) (content : Placeholder) : List Violation :=
  content.inside.violations (offset + byteWidth ['{'] + byteWidth content.gap.chars)

/-- Violations in a placeholder that has to hold an expression. -/
def Placeholder.violationsAsExpression (offset : Nat) (content : Placeholder) : List Violation :=
  content.inside.strays (offset + byteWidth ['{'] + byteWidth content.gap.chars) ++ content.violations offset

def textElements : List TextSign → List Element
  | [] => []
  | sign :: rest => [.text (String.ofList ((sign :: rest).map Sign.value))]

def Body.pattern : Body → Pattern
  | .close text => textElements text
  | .placeholder text content rest => textElements text ++ content.inside.element :: rest.pattern

def Body.violations (offset : Nat) : Body → List Violation
  | .close _ => []
  | .placeholder text content rest =>
    let start := offset + byteWidth (charsOf (textStretches text))
    content.violations start ++ rest.violations (start + byteWidth (charsOf content.stretches))

def Key.meaning : Key → Localizable.Key
  | .any => .any
  | .literal signs => .literal (literalText signs)
  | .bare token => .literal (String.ofList token.chars)

def Keys.list : Keys → List Localizable.Key
  | .brace _ => []
  | .key _ item rest => item.meaning :: rest.list

def Variant.keys (variant : Variant) : List Localizable.Key := variant.first.meaning :: variant.others.list

def Variant.meaning (variant : Variant) : Localizable.Variant := ⟨variant.keys, variant.body.pattern⟩

/-- A variant from its keyword through the opening brace of its pattern. -/
def Variant.head (variant : Variant) : List Stretch :=
  whenStretch :: variant.gap.stretch :: variant.first.stretch :: variant.others.stretches

def Variant.violations (offset selectors : Nat) (variant : Variant) : List Violation :=
  let behind := offset + byteWidth (charsOf variant.head)
  (if variant.keys.length = selectors then [] else [.keyCount variant.keys.length selectors ⟨offset, behind⟩])
    ++ variant.body.violations behind

def Variants.list : Variants → List Localizable.Variant
  | .last variant _ => [variant.meaning]
  | .more variant _ rest => variant.meaning :: rest.list

def Variants.violations (offset selectors : Nat) : Variants → List Violation
  | .last variant _ => variant.violations offset selectors
  | .more variant gap rest => variant.violations offset selectors
      ++ rest.violations (offset + byteWidth (charsOf variant.stretches) + byteWidth gap.chars) selectors

/-! ## Whole layouts -/

def Selectors.expressions : Selectors → List Expression
  | .variants _ _ => []
  | .selector _ content rest => content.inside.expression :: rest.expressions

def Selectors.list : Selectors → List Localizable.Variant
  | .variants _ items => items.list
  | .selector _ _ rest => rest.list

/-- Violations behind the first selector, where there is some number of selectors in all. -/
def Selectors.violations (offset selectors : Nat) : Selectors → List Violation
  | .variants gap items => items.violations (offset + byteWidth gap.chars) selectors
  | .selector gap content rest =>
    let start := offset + byteWidth gap.chars
    content.violationsAsExpression start
      ++ rest.violations (start + byteWidth (charsOf content.stretches)) selectors

def Declaration.meaning (declaration : Declaration) : Localizable.Declaration :=
  ⟨declaration.name.text, declaration.content.inside.expression⟩

/-- A declaration from its keyword up to its opening brace. -/
def Declaration.head (declaration : Declaration) : List Stretch :=
  [letStretch, declaration.gap.stretch, .sigil .variableName '$' declaration.name.chars, declaration.before.stretch,
    .mark '=', declaration.after.stretch]

def Declaration.violations (offset : Nat) (declaration : Declaration) : List Violation :=
  declaration.content.violationsAsExpression (offset + byteWidth (charsOf declaration.head))

end Layout

namespace Layout

def message : Layout → Message
  | .declaration _ item rest => { rest.message with declarations := item.meaning :: rest.message.declarations }
  | .pattern _ body _ => ⟨[], [], [⟨[], body.pattern⟩]⟩
  | .selection _ _ first rest => ⟨[], first.inside.expression :: rest.expressions, rest.list⟩

/-- The violations in a layout that starts at an offset. -/
def violationsFrom (offset : Nat) : Layout → List Violation
  | .declaration gap item rest =>
    let start := offset + byteWidth gap.chars
    item.violations start ++ rest.violationsFrom (start + byteWidth (charsOf item.stretches))
  | .pattern gap body _ => body.violations (offset + byteWidth gap.chars + byteWidth ['{'])
  | .selection gap before first rest =>
    let start := offset + byteWidth gap.chars + byteWidth "match".toList + byteWidth before.chars
    first.violationsAsExpression start
      ++ rest.violations (start + byteWidth (charsOf first.stretches)) (rest.expressions.length + 1)

/-- The violations in a source of this layout. -/
def violations (layout : Layout) : List Violation := layout.violationsFrom 0

/-! ## Violations stand in the order of the source -/

open Violation

theorem Options.violations_spread (options : Options) (offset : Nat) (given : List String) :
    Spread offset (offset + byteWidth (charsOf options.stretches)) (options.violations offset given) := by
  induction options generalizing offset given with
  | close gap => exact .nil
  | option gap name before after value rest ih =>
    have own : Spread offset (offset + byteWidth gap.chars + byteWidth name.chars)
        (if name.text ∈ given then [.repeatedOption name.text
          ⟨offset + byteWidth gap.chars, offset + byteWidth gap.chars + byteWidth name.chars⟩] else []) := by
      split
      · exact .single (Nat.le_add_right ..) (Nat.le_refl _)
      · exact .nil
    have later := ih (offset + byteWidth gap.chars + byteWidth name.chars + byteWidth before.chars + byteWidth ['=']
      + byteWidth after.chars + byteWidth value.stretch.chars) (name.text :: given)
    simp only [Options.stretches, byteWidth_charsOf_cons, Gap.stretch_chars, Stretch.token_chars, Stretch.mark_chars]
    exact own.append (later.widen (by omega) (by omega)) (by omega) (by omega)

theorem Tail.violations_spread (tail : Tail) (offset : Nat) :
    Spread offset (offset + byteWidth (charsOf tail.stretches)) (tail.violations offset) := by
  cases tail with
  | close gap => exact .nil
  | function gap name options =>
    simp only [Tail.stretches, byteWidth_charsOf_cons, Gap.stretch_chars, Stretch.sigil_chars]
    exact (options.violations_spread ..).widen (by omega) (by omega)

/-- Markup in the place of an expression stands before what is wrong with its options. -/
theorem Inside.violations_spread (inside : Inside) (offset : Nat) :
    Spread offset (offset + byteWidth (charsOf inside.stretches)) (inside.violations offset) ∧
      Spread offset (offset + byteWidth (charsOf inside.stretches))
        (inside.strays offset ++ inside.violations offset) := by
  cases inside with
  | call name options =>
    simp only [Inside.stretches, byteWidth_charsOf_cons, Stretch.sigil_chars]
    have later := (options.violations_spread (offset + byteWidth (':' :: name.chars)) []).widen
      (Nat.le_add_right offset _) (Nat.le_refl _)
    rw [Nat.add_assoc] at later
    exact ⟨later, later⟩
  | operand item tail =>
    simp only [Inside.stretches, byteWidth_charsOf_cons]
    have later := (tail.violations_spread (offset + byteWidth item.stretch.chars)).widen
      (Nat.le_add_right offset _) (Nat.le_refl _)
    rw [Nat.add_assoc] at later
    exact ⟨later, later⟩
  | markupOpen name options =>
    simp only [Inside.stretches, byteWidth_charsOf_cons, Stretch.sigil_chars]
    have later := options.violations_spread (offset + byteWidth ('+' :: name.chars)) []
    rw [Nat.add_assoc] at later
    refine ⟨later.widen (Nat.le_add_right ..) (Nat.le_refl _), ?_⟩
    have stray : Spread offset (offset + byteWidth ('+' :: name.chars))
        [.strayMarkup ⟨offset, offset + byteWidth ('+' :: name.chars)⟩] := .single (Nat.le_refl _) (Nat.le_refl _)
    exact stray.append (later.widen (by omega) (by omega)) (by omega) (by omega)
  | markupClose name gap =>
    simp only [Inside.stretches, byteWidth_charsOf_cons, Stretch.sigil_chars]
    refine ⟨.nil, .single (Nat.le_refl _) ?_⟩
    simp only [Violation.span]
    omega

theorem Placeholder.violations_spread (content : Placeholder) (offset : Nat) :
    Spread offset (offset + byteWidth (charsOf content.stretches)) (content.violations offset) ∧
      Spread offset (offset + byteWidth (charsOf content.stretches)) (content.violationsAsExpression offset) := by
  obtain ⟨inner, asExpression⟩ :=
    content.inside.violations_spread (offset + byteWidth ['{'] + byteWidth content.gap.chars)
  simp only [Placeholder.stretches, Placeholder.within, byteWidth_charsOf_cons, Gap.stretch_chars, Stretch.mark_chars]
  exact ⟨inner.widen (by omega) (by omega), asExpression.widen (by omega) (by omega)⟩

theorem Body.violations_spread (body : Body) (offset : Nat) :
    Spread offset (offset + byteWidth (charsOf body.stretches)) (body.violations offset) := by
  induction body generalizing offset with
  | close text => exact .nil
  | placeholder text content rest ih =>
    have first := (content.violations_spread (offset + byteWidth (charsOf (textStretches text)))).1
    have later := ih (offset + byteWidth (charsOf (textStretches text)) + byteWidth (charsOf content.stretches))
    simp only [Body.stretches, byteWidth_charsOf_append]
    exact (first.widen (by omega) (Nat.le_refl _)).append (later.widen (by omega) (by omega)) (by omega) (by omega)

theorem Variant.violations_spread (variant : Variant) (offset selectors : Nat) :
    Spread offset (offset + byteWidth (charsOf variant.stretches)) (variant.violations offset selectors) := by
  have shape : variant.stretches = variant.head ++ variant.body.stretches := by
    simp [Variant.stretches, Variant.within, Variant.head]
  have own : Spread offset (offset + byteWidth (charsOf variant.head))
      (if variant.keys.length = selectors then [] else
        [.keyCount variant.keys.length selectors ⟨offset, offset + byteWidth (charsOf variant.head)⟩]) := by
    split
    · exact .nil
    · exact .single (Nat.le_refl _) (Nat.le_refl _)
  have later := variant.body.violations_spread (offset + byteWidth (charsOf variant.head))
  rw [shape, byteWidth_charsOf_append]
  exact own.append (later.widen (by omega) (by omega)) (by omega) (by omega)

theorem Variants.violations_spread (variants : Variants) (offset selectors : Nat) :
    Spread offset (offset + byteWidth (charsOf variants.stretches)) (variants.violations offset selectors) := by
  induction variants generalizing offset with
  | last variant gap =>
    simp only [Variants.stretches, byteWidth_charsOf_append]
    exact (variant.violations_spread offset selectors).widen (Nat.le_refl _) (by omega)
  | more variant gap rest ih =>
    have first := variant.violations_spread offset selectors
    have later := ih (offset + byteWidth (charsOf variant.stretches) + byteWidth gap.chars)
    simp only [Variants.stretches, byteWidth_charsOf_append, byteWidth_charsOf_cons, Gap.stretch_chars]
    exact first.append (later.widen (by omega) (by omega)) (by omega) (by omega)

theorem Selectors.violations_spread (selectors : Selectors) (offset count : Nat) :
    Spread offset (offset + byteWidth (charsOf selectors.stretches)) (selectors.violations offset count) := by
  induction selectors generalizing offset with
  | variants gap items =>
    have later := items.violations_spread (offset + byteWidth gap.chars) count
    simp only [Selectors.stretches, byteWidth_charsOf_cons, Gap.stretch_chars]
    exact later.widen (by omega) (by omega)
  | selector gap content rest ih =>
    have first := (content.violations_spread (offset + byteWidth gap.chars)).2
    have later := ih (offset + byteWidth gap.chars + byteWidth (charsOf content.stretches))
    simp only [Selectors.stretches, byteWidth_charsOf_append, byteWidth_charsOf_cons, Gap.stretch_chars]
    exact (first.widen (by omega) (Nat.le_refl _)).append (later.widen (by omega) (by omega)) (by omega) (by omega)

theorem Declaration.violations_spread (declaration : Declaration) (offset : Nat) :
    Spread offset (offset + byteWidth (charsOf declaration.stretches)) (declaration.violations offset) := by
  have shape : declaration.stretches = declaration.head ++ declaration.content.stretches := rfl
  have later := (declaration.content.violations_spread (offset + byteWidth (charsOf declaration.head))).2
  rw [shape, byteWidth_charsOf_append]
  exact later.widen (by omega) (by omega)

theorem violationsFrom_spread (layout : Layout) (offset : Nat) :
    Spread offset (offset + byteWidth (charsOf layout.stretches)) (layout.violationsFrom offset) := by
  induction layout generalizing offset with
  | declaration gap item rest ih =>
    have first := item.violations_spread (offset + byteWidth gap.chars)
    have later := ih (offset + byteWidth gap.chars + byteWidth (charsOf item.stretches))
    simp only [stretches, byteWidth_charsOf_append, byteWidth_charsOf_cons, Gap.stretch_chars]
    exact (first.widen (by omega) (Nat.le_refl _)).append (later.widen (by omega) (by omega)) (by omega) (by omega)
  | pattern gap body after =>
    have inner := body.violations_spread (offset + byteWidth gap.chars + byteWidth ['{'])
    simp only [stretches, byteWidth_charsOf_append, byteWidth_charsOf_cons, Gap.stretch_chars, Stretch.mark_chars]
    exact inner.widen (by omega) (by omega)
  | selection gap before first rest =>
    have inner := (first.violations_spread
      (offset + byteWidth gap.chars + byteWidth "match".toList + byteWidth before.chars)).2
    have later := rest.violations_spread (offset + byteWidth gap.chars + byteWidth "match".toList
      + byteWidth before.chars + byteWidth (charsOf first.stretches)) (rest.expressions.length + 1)
    simp only [stretches, byteWidth_charsOf_append, byteWidth_charsOf_cons, Gap.stretch_chars, matchStretch,
      Stretch.token_chars]
    exact (inner.widen (by omega) (Nat.le_refl _)).append (later.widen (by omega) (by omega)) (by omega) (by omega)

/-- Each violation stands behind the one before. -/
theorem violations_spread (layout : Layout) : Spread 0 (byteWidth layout.chars) layout.violations := by
  simpa [chars, violations] using layout.violationsFrom_spread 0

end Layout
end Localizable
