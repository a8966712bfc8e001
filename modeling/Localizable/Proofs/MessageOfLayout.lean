import Localizable.Message.OfTokens
import Localizable.Proofs.LayoutMeaning
import Localizable.Proofs.TokensOfLayout

/-!
# Messages of sources that have layouts

The tokens of a layout are read as its message if the layout breaks no rule, and
are refused with its first violation otherwise (`Layout.read_tokens`). As layouts
are what the tokens of sources are read from, this is all that can happen to a
source whose tokens are complete.
-/

namespace Localizable
open Text

/-- A reading that is refused with the first of the violations, if there is one. -/
def settle {α : Type} (violations : List Violation) (reading : Except TokenError α) : Except TokenError α :=
  match violations with
  | [] => reading
  | first :: _ => .error (.fault first.fault first.span)

section
variable {α β : Type}

@[simp] theorem settle_nil (reading : Except TokenError α) : settle [] reading = reading := rfl

@[simp] theorem settle_cons (first : Violation) (others : List Violation) (reading : Except TokenError α) :
    settle (first :: others) reading = .error (.fault first.fault first.span) := rfl

theorem settle_append (left right : List Violation) (reading : Except TokenError α) :
    settle (left ++ right) reading = settle left (settle right reading) := by
  cases left <;> rfl

theorem map_settle (build : α → β) (violations : List Violation) (value : α) :
    (settle violations (.ok value)).map build = settle violations (.ok (build value)) := by
  cases violations <;> rfl

@[simp] theorem into_settle (build : α → β) (violations : List Violation) (value : α) (rest : List Token) :
    Reading.into build (settle violations (.ok (value, rest))) = settle violations (.ok (build value, rest)) := by
  cases violations <;> rfl

end

namespace Reading

/-- One option, and what stands behind it. -/
theorem options_cons {name value : Token} {equals : Span} {operand : Operand} (named : name.kind = .name)
    (meaning : optionValue? value = some operand) (before : Options) (rest : List Token) :
    options before (name :: ⟨.punctuator, ['='], equals⟩ :: value :: rest) =
      if before.contains name.value then .error (.fault (.duplicateOption name.value) name.span)
      else options (before.insert name.value operand) rest := by
  rw [options.eq_def]
  simp [named, meaning, Token.isPunctuator]

theorem pattern_placeholder (span : Span) (tokens : List Token) :
    pattern (⟨.punctuator, ['{'], span⟩ :: tokens) =
      match placeholder tokens with
      | .error error => .error error
      | .ok (element, later) => into (element :: ·) (pattern later) := by
  have close : ¬ (⟨.punctuator, ['{'], span⟩ : Token).isPunctuator '}' = true := by simp [Token.isPunctuator]
  have isOpen : (⟨.punctuator, ['{'], span⟩ : Token).isPunctuator '{' = true := rfl
  rw [pattern, if_neg close, if_pos isOpen]
  split
  next error read => simp only [read]
  next element later read => simp only [read]

theorem pattern_text {token : Token} (text : token.kind = .text) (tokens : List Token) :
    pattern (token :: tokens) = into (.text token.value :: ·) (pattern tokens) := by
  rw [pattern]
  simp [Token.isPunctuator, text]

theorem into_nil_append (reading : Reading Pattern) : into (([] : Pattern) ++ ·) reading = reading := by
  cases reading <;> rfl

theorem variants_cons {keyword : Token} (isWhen : keyword.isKeyword "when" = true) (selectors : Nat)
    (tokens : List Token) :
    variants selectors (keyword :: tokens) =
      match variant keyword.span.start selectors tokens with
      | .error error => .error error
      | .ok (result, []) => .ok [result]
      | .ok (result, next :: later) => (variants selectors (next :: later)).map (result :: ·) := by
  rw [variants, if_neg (not_not_intro isWhen)]
  split
  next error read => simp only [read]
  next result read => simp only [read]
  next result next later read =>
    simp only [read]
    cases variants selectors (next :: later) <;> rfl

theorem selectors_selector (span : Span) (tokens : List Token) :
    selectors (⟨.punctuator, ['{'], span⟩ :: tokens) =
      match expression tokens with
      | .error error => .error error
      | .ok (selector, later) => into (selector :: ·) (selectors later) := by
  have isOpen : (⟨.punctuator, ['{'], span⟩ : Token).isPunctuator '{' = true := rfl
  rw [selectors, if_pos isOpen]
  split
  next error read => simp only [read]
  next selector later read => simp only [read]

theorem message_declaration {keyword : Token} (isLet : keyword.isKeyword "let" = true) (tokens : List Token) :
    message (keyword :: tokens) =
      match declaration tokens with
      | .error error => .error error
      | .ok (item, later) => (message later).map
          fun message => { message with declarations := item :: message.declarations } := by
  have first : declarations (keyword :: tokens) =
      match declaration tokens with
      | .error error => .error error
      | .ok (item, later) => into (item :: ·) (declarations later) := by
    rw [declarations, if_pos isLet]
    split
    next error read => simp only [read]
    next item later read => simp only [read]
  rw [message, first]
  cases declaration tokens with
  | error error => rfl
  | ok result =>
    obtain ⟨item, later⟩ := result
    dsimp only
    rw [message]
    cases declarations later with
    | error error => rfl
    | ok result =>
      obtain ⟨items, rest⟩ := result
      simp only [into]
      cases body rest <;> rfl

/-- Without declarations the message is what stands in their place. -/
theorem message_body {first : Token} (other : first.isKeyword "let" = false) (tokens : List Token) :
    message (first :: tokens) =
      (body (first :: tokens)).map fun (selectors, variants) => ⟨[], selectors, variants⟩ := by
  rw [message, declarations, if_neg (by simp [other])]
  dsimp only
  cases body (first :: tokens) <;> rfl

end Reading

namespace Layout
open Reading

/-! ## Placeholders -/

@[simp] theorem tokensOf_gap (offset : Nat) (gap : Gap) (rest : List Stretch) :
    tokensOf offset (gap.stretch :: rest) = tokensOf (offset + byteWidth gap.chars) rest := rfl

@[simp] theorem tokensOf_mark (offset : Nat) (c : Char) (rest : List Stretch) :
    tokensOf offset (.mark c :: rest) =
      ⟨.punctuator, [c], ⟨offset, offset + byteWidth [c]⟩⟩ :: tokensOf (offset + byteWidth [c]) rest := rfl

@[simp] theorem tokensOf_sigil (offset : Nat) (kind : TokenKind) (sign : Char) (name : List Char)
    (rest : List Stretch) : tokensOf offset (.sigil kind sign name :: rest) =
      ⟨kind, name, ⟨offset, offset + byteWidth (sign :: name)⟩⟩ :: tokensOf (offset + byteWidth (sign :: name)) rest :=
  rfl

theorem Value.token (value : Value) (offset : Nat) (rest : List Stretch) : ∃ token : Token,
    tokensOf offset (value.stretch :: rest) = token :: tokensOf (offset + byteWidth value.stretch.chars) rest ∧
      optionValue? token = some value.meaning := by
  match value with
  | .operand (.variable name) => exact ⟨_, rfl, rfl⟩
  | .operand (.literal signs) => exact ⟨_, rfl, rfl⟩
  | .bare token => exact ⟨_, rfl, rfl⟩

theorem Options.read (options : Options) (offset : Nat) {before : Localizable.Options} {given : List String}
    (same : ∀ name, before.contains name = true ↔ name ∈ given) (rest : List Token) :
    Reading.options before (tokensOf offset options.stretches ++ rest) = settle (options.violations offset given)
      (.ok (options.entries.foldl (fun dictionary entry => dictionary.insert entry.1 entry.2) before, rest)) := by
  induction options generalizing offset before given with
  | close gap =>
    rw [Options.stretches, tokensOf_gap, tokensOf_mark, List.cons_append, Reading.options.eq_def]
    rfl
  | option gap name blank after value others ih =>
    obtain ⟨token, tokens, meaning⟩ := value.token
      (offset + byteWidth gap.chars + byteWidth name.chars + byteWidth blank.chars + byteWidth ['=']
        + byteWidth after.chars) others.stretches
    have read : tokensOf offset (Options.option gap name blank after value others).stretches =
        ⟨.name, name.chars, ⟨offset + byteWidth gap.chars, offset + byteWidth gap.chars + byteWidth name.chars⟩⟩ ::
          ⟨.punctuator, ['='], ⟨_, _⟩⟩ :: token :: _ :=
      congrArg (fun later => _ :: _ :: later) tokens
    have grown : ∀ other,
        (before.insert name.text value.meaning).contains other = true ↔ other ∈ name.text :: given := by
      intro other
      rw [Dictionary.contains, Dictionary.get?_insert, List.mem_cons, ← same other, Dictionary.contains]
      by_cases repeated : other = name.text <;> simp [repeated]
    rw [read, List.cons_append, List.cons_append, List.cons_append, options_cons rfl meaning]
    by_cases repeated : before.contains name.text = true
    · rw [Options.violations, if_pos ((same _).1 repeated)]
      exact if_pos repeated
    · rw [Options.violations, if_neg fun member => repeated ((same _).2 member)]
      exact (if_neg repeated).trans (ih _ grown)

/-- Options in front of which none has been read. -/
theorem Options.read_all (options : Options) (offset : Nat) (rest : List Token) :
    Reading.options .empty (tokensOf offset options.stretches ++ rest) =
      settle (options.violations offset []) (.ok (options.meaning, rest)) :=
  options.read offset (by simp [Dictionary.contains, Dictionary.get?_empty]) rest

theorem Tail.read (tail : Tail) (operand : Localizable.Operand) (offset : Nat) (rest : List Token) :
    Reading.afterOperand operand (tokensOf offset tail.stretches ++ rest) =
      settle (tail.violations offset) (.ok (.operand operand tail.function?, rest)) := by
  cases tail with
  | close gap => rfl
  | function gap name options =>
    have inner := options.read_all (offset + byteWidth gap.chars + byteWidth (':' :: name.chars)) rest
    simp only [Tail.stretches, tokensOf_gap, tokensOf_sigil, List.cons_append, Reading.afterOperand, invocation, inner,
      into_settle]
    rfl

theorem Inside.read_expression (inside : Inside) (offset : Nat) (rest : List Token) :
    Reading.expression (tokensOf offset inside.stretches ++ rest) =
      settle (inside.strays offset ++ inside.violations offset) (.ok (inside.expression, rest)) := by
  match inside with
  | .call name options =>
    have inner := options.read_all (offset + byteWidth (':' :: name.chars)) rest
    simp only [Inside.stretches, tokensOf_sigil, List.cons_append, Reading.expression, invocation, inner, into_settle]
    rfl
  | .operand (.variable name) tail => exact tail.read _ _ rest
  | .operand (.literal signs) tail => exact tail.read _ _ rest
  | .markupOpen name options => rfl
  | .markupClose name gap => rfl

theorem Inside.read (inside : Inside) (offset : Nat) (rest : List Token) :
    Reading.placeholder (tokensOf offset inside.stretches ++ rest) =
      settle (inside.violations offset) (.ok (inside.element, rest)) := by
  have expression := inside.read_expression offset rest
  match inside with
  | .call name options => exact (congrArg (into Element.expression) expression).trans (into_settle ..)
  | .operand (.variable name) tail => exact (congrArg (into Element.expression) expression).trans (into_settle ..)
  | .operand (.literal signs) tail => exact (congrArg (into Element.expression) expression).trans (into_settle ..)
  | .markupOpen name options =>
    exact (congrArg (into _) (options.read_all (offset + byteWidth ('+' :: name.chars)) rest)).trans (into_settle ..)
  | .markupClose name gap => rfl

theorem Placeholder.read (content : Placeholder) (offset : Nat) (rest : List Token) :
    Reading.pattern (tokensOf offset content.stretches ++ rest) =
      settle (content.violations offset) (into (content.inside.element :: ·) (Reading.pattern rest)) := by
  rw [Placeholder.stretches, Placeholder.within, tokensOf_mark, tokensOf_gap, List.cons_append, pattern_placeholder,
    Inside.read, Placeholder.violations]
  cases content.inside.violations (offset + byteWidth ['{'] + byteWidth content.gap.chars) <;> rfl

theorem read_text (text : List TextSign) (offset : Nat) (rest : List Token) :
    Reading.pattern (tokensOf offset (textStretches text) ++ rest) =
      into (textElements text ++ ·) (Reading.pattern rest) := by
  cases text with
  | nil => exact (into_nil_append _).symm
  | cons sign others => exact pattern_text rfl rest

theorem Body.read (body : Body) (offset : Nat) (rest : List Token) :
    Reading.pattern (tokensOf offset body.stretches ++ rest) =
      settle (body.violations offset) (.ok (body.pattern, rest)) := by
  induction body generalizing offset with
  | close text =>
    rw [Body.stretches, tokensOf_append, List.append_assoc, read_text, tokensOf_mark, List.cons_append, Reading.pattern]
    simp [Token.isPunctuator, into, Body.pattern, Body.violations]
  | placeholder text content others ih =>
    rw [Body.stretches, tokensOf_append, List.append_assoc, read_text, tokensOf_append, List.append_assoc,
      Placeholder.read, ih, into_settle, ← settle_append, into_settle]
    rfl

theorem Key.token (key : Key) (offset : Nat) (rest : List Stretch) : ∃ token : Token,
    tokensOf offset (key.stretch :: rest) = token :: tokensOf (offset + byteWidth key.stretch.chars) rest ∧
      ∀ tokens, Reading.keys (token :: tokens) =
        into (fun (keys, brace) => (key.meaning :: keys, brace)) (Reading.keys tokens) := by
  match key with
  | .any => exact ⟨_, rfl, fun _ => rfl⟩
  | .literal signs => exact ⟨_, rfl, fun _ => rfl⟩
  | .bare token => exact ⟨_, rfl, fun _ => rfl⟩

theorem Keys.read (keys : Keys) (offset : Nat) (rest : List Token) : ∃ brace : Token,
    brace.span.stop = offset + byteWidth (charsOf keys.stretches) ∧
      Reading.keys (tokensOf offset keys.stretches ++ rest) = .ok ((keys.list, brace), rest) := by
  induction keys generalizing offset with
  | brace gap => exact ⟨_, by simp [Keys.stretches, byteWidth_append, Nat.add_assoc], rfl⟩
  | key gap item others ih =>
    obtain ⟨token, tokens, read⟩ := item.token (offset + byteWidth gap.chars) others.stretches
    obtain ⟨brace, stop, later⟩ := ih (offset + byteWidth gap.chars + byteWidth item.stretch.chars)
    refine ⟨brace, ?_, ?_⟩
    · rw [stop, Keys.stretches]
      simp only [byteWidth_charsOf_cons, Gap.stretch_chars, Nat.add_assoc]
    · rw [Keys.stretches, tokensOf_gap, tokens, List.cons_append, read, later]
      rfl

/-- The keys of a variant are read through the brace of its pattern. -/
theorem Variant.read_keys (variant : Variant) (offset : Nat) (rest : List Token) : ∃ brace : Token,
    brace.span.stop = offset + byteWidth (charsOf variant.head) ∧
      Reading.keys (tokensOf (offset + byteWidth whenStretch.chars) variant.within ++ rest) =
        .ok ((variant.keys, brace),
          tokensOf (offset + byteWidth (charsOf variant.head)) variant.body.stretches ++ rest) := by
  have behind : offset + byteWidth whenStretch.chars + byteWidth variant.gap.chars
      + byteWidth variant.first.stretch.chars + byteWidth (charsOf variant.others.stretches) =
        offset + byteWidth (charsOf variant.head) := by
    simp only [Variant.head, byteWidth_charsOf_cons, Gap.stretch_chars, Nat.add_assoc]
  obtain ⟨token, tokens, firstRead⟩ := variant.first.token
    (offset + byteWidth whenStretch.chars + byteWidth variant.gap.chars)
    (variant.others.stretches ++ variant.body.stretches)
  obtain ⟨brace, stop, othersRead⟩ := variant.others.read
    (offset + byteWidth whenStretch.chars + byteWidth variant.gap.chars + byteWidth variant.first.stretch.chars)
    (tokensOf (offset + byteWidth (charsOf variant.head)) variant.body.stretches ++ rest)
  refine ⟨brace, stop.trans behind, ?_⟩
  rw [Variant.within, tokensOf_gap, tokens, List.cons_append, firstRead, tokensOf_append, List.append_assoc, behind,
    othersRead]
  rfl

theorem Variant.read (variant : Variant) (offset selectors : Nat) (rest : List Token) :
    Reading.variant offset selectors (tokensOf (offset + byteWidth whenStretch.chars) variant.within ++ rest) =
      settle (variant.violations offset selectors) (.ok (variant.meaning, rest)) := by
  obtain ⟨brace, stop, keys⟩ := variant.read_keys offset rest
  have some : ¬ variant.keys.length = 0 := by simp [Variant.keys]
  rw [Reading.variant, keys, Variant.violations]
  dsimp only
  rw [keyFault?, if_neg some]
  by_cases count : variant.keys.length = selectors
  · rw [if_neg (not_not_intro count), if_pos count]
    dsimp only
    rw [Body.read, into_settle]
    rfl
  · rw [if_pos count, if_neg count, stop]
    rfl

/-- A variant at the front, which is read before those behind it. -/
theorem Variant.read_first (variant : Variant) (offset selectors : Nat) (rest : List Stretch) :
    Reading.variants selectors (tokensOf offset (variant.stretches ++ rest)) =
      settle (variant.violations offset selectors)
        (match tokensOf (offset + byteWidth (charsOf variant.stretches)) rest with
        | [] => .ok [variant.meaning]
        | next :: later => (Reading.variants selectors (next :: later)).map (variant.meaning :: ·)) := by
  have tokens : tokensOf offset variant.stretches =
      ⟨.keyword, "when".toList, ⟨offset, offset + byteWidth whenStretch.chars⟩⟩ ::
        tokensOf (offset + byteWidth whenStretch.chars) variant.within := rfl
  rw [tokensOf_append, tokens, List.cons_append, variants_cons rfl, variant.read]
  cases variant.violations offset selectors with
  | cons first others => rfl
  | nil => cases tokensOf (offset + byteWidth (charsOf variant.stretches)) rest <;> rfl

theorem Variants.exists_token (variants : Variants) (offset : Nat) : ∃ token tokens,
    tokensOf offset variants.stretches = token :: tokens ∧ token.isKeyword "when" = true := by
  cases variants with
  | last variant gap => exact ⟨_, _, rfl, rfl⟩
  | more variant gap rest => exact ⟨_, _, rfl, rfl⟩

theorem Variants.read (variants : Variants) (offset selectors : Nat) :
    Reading.variants selectors (tokensOf offset variants.stretches) =
      settle (variants.violations offset selectors) (.ok variants.list) := by
  induction variants generalizing offset with
  | last variant gap => exact variant.read_first offset selectors [gap.stretch]
  | more variant gap rest ih =>
    have first := variant.read_first offset selectors (gap.stretch :: rest.stretches)
    have later := ih (offset + byteWidth (charsOf variant.stretches) + byteWidth gap.chars)
    obtain ⟨token, tokens, split, _⟩ :=
      rest.exists_token (offset + byteWidth (charsOf variant.stretches) + byteWidth gap.chars)
    rw [tokensOf_gap, split] at first
    rw [split] at later
    rw [Variants.stretches, first, Variants.violations, settle_append]
    dsimp only
    rw [later]
    cases rest.violations (offset + byteWidth (charsOf variant.stretches) + byteWidth gap.chars) selectors <;> rfl

/-! ## Selections and declarations -/

theorem Placeholder.read_selector (content : Placeholder) (offset : Nat) (rest : List Token) :
    Reading.selectors (tokensOf offset content.stretches ++ rest) =
      settle (content.violationsAsExpression offset)
        (into (content.inside.expression :: ·) (Reading.selectors rest)) := by
  rw [Placeholder.stretches, Placeholder.within, tokensOf_mark, tokensOf_gap, List.cons_append, selectors_selector,
    Inside.read_expression, Placeholder.violationsAsExpression, Placeholder.violations]
  cases content.inside.strays (offset + byteWidth ['{'] + byteWidth content.gap.chars)
      ++ content.inside.violations (offset + byteWidth ['{'] + byteWidth content.gap.chars) <;> rfl

/-- The selectors behind the first one are read up to the variants. -/
theorem Selectors.read (selectors : Selectors) (offset count : Nat) :
    ∃ (own : List Violation) (items : Variants) (start : Nat), items.list = selectors.list ∧
      selectors.violations offset count = own ++ items.violations start count ∧
      Reading.selectors (tokensOf offset selectors.stretches) =
        settle own (.ok (selectors.expressions, tokensOf start items.stretches)) := by
  induction selectors generalizing offset with
  | variants gap items =>
    refine ⟨[], items, offset + byteWidth gap.chars, rfl, rfl, ?_⟩
    obtain ⟨token, tokens, split, isWhen⟩ := items.exists_token (offset + byteWidth gap.chars)
    have apart : ¬ token.isPunctuator '{' = true := by
      simp only [Token.isKeyword, Bool.and_eq_true, beq_iff_eq] at isWhen
      simp [Token.isPunctuator, isWhen]
    rw [Selectors.stretches, tokensOf_gap, split, Reading.selectors, if_neg apart]
    rfl
  | selector gap content rest ih =>
    obtain ⟨own, items, start, list, violations, read⟩ :=
      ih (offset + byteWidth gap.chars + byteWidth (charsOf content.stretches))
    refine ⟨content.violationsAsExpression (offset + byteWidth gap.chars) ++ own, items, start, list, ?_, ?_⟩
    · rw [Selectors.violations, violations, List.append_assoc]
    · rw [Selectors.stretches, tokensOf_gap, tokensOf_append, Placeholder.read_selector, read, into_settle,
        ← settle_append]
      rfl

/-- All selectors are read, and then the variants, which need a key for each of them. -/
theorem Selectors.read_selection (first : Placeholder) (rest : Selectors) (offset : Nat) :
    Reading.selection (tokensOf offset (first.stretches ++ rest.stretches)) =
      settle (first.violationsAsExpression offset
          ++ rest.violations (offset + byteWidth (charsOf first.stretches)) (rest.expressions.length + 1))
        (.ok (first.inside.expression :: rest.expressions, rest.list)) := by
  obtain ⟨own, items, start, list, violations, read⟩ :=
    rest.read (offset + byteWidth (charsOf first.stretches)) (rest.expressions.length + 1)
  have selectors := first.read_selector offset
    (tokensOf (offset + byteWidth (charsOf first.stretches)) rest.stretches)
  rw [read, into_settle, ← settle_append] at selectors
  rw [Reading.selection, tokensOf_append, selectors, violations, ← List.append_assoc,
    settle_append _ (items.violations ..)]
  cases first.violationsAsExpression offset ++ own with
  | cons violation others => rfl
  | nil =>
    simp only [settle_nil, List.length_cons, items.read]
    cases items.violations start (rest.expressions.length + 1) with
    | cons violation others => rfl
    | nil => rw [settle_nil, settle_nil, ← list]

theorem Declaration.read (declaration : Declaration) (offset : Nat) (rest : List Token) : ∃ keyword tokens,
    tokensOf offset declaration.stretches = keyword :: tokens ∧ keyword.isKeyword "let" = true ∧
      Reading.declaration (tokens ++ rest) =
        settle (declaration.violations offset) (.ok (declaration.meaning, rest)) := by
  have shape : declaration.stretches = declaration.head ++ declaration.content.stretches := rfl
  have inner := declaration.content.inside.read_expression
    (offset + byteWidth (charsOf declaration.head) + byteWidth ['{'] + byteWidth declaration.content.gap.chars) rest
  rw [shape, tokensOf_append]
  refine ⟨_, _, rfl, rfl, ?_⟩
  calc
    _ = into (fun expression => Localizable.Declaration.mk declaration.name.text expression) (Reading.expression
          (tokensOf (offset + byteWidth (charsOf declaration.head) + byteWidth ['{']
            + byteWidth declaration.content.gap.chars) declaration.content.inside.stretches ++ rest)) := rfl
    _ = _ := by
      rw [inner, into_settle]
      rfl

end Layout

theorem Layout.read_tokens (layout : Layout) (offset : Nat) :
    Reading.message (tokensOf offset layout.stretches) =
      settle (layout.violationsFrom offset) (.ok layout.message) := by
  induction layout generalizing offset with
  | declaration gap item rest ih =>
    obtain ⟨keyword, tokens, split, isLet, read⟩ := item.read (offset + byteWidth gap.chars)
      (tokensOf (offset + byteWidth gap.chars + byteWidth (charsOf item.stretches)) rest.stretches)
    rw [stretches, tokensOf_gap, tokensOf_append, split, List.cons_append, Reading.message_declaration isLet, read,
      violationsFrom, settle_append]
    cases item.violations (offset + byteWidth gap.chars) with
    | cons first others => rfl
    | nil =>
      rw [settle_nil, settle_nil]
      dsimp only
      rw [ih]
      exact map_settle ..
  | pattern gap body after =>
    have inner := body.read (offset + byteWidth gap.chars + byteWidth ['{']) []
    have read : tokensOf (offset + byteWidth gap.chars + byteWidth ['{']) (body.stretches ++ [after.stretch]) =
        tokensOf (offset + byteWidth gap.chars + byteWidth ['{']) body.stretches ++ [] := tokensOf_append ..
    have isOpen : ∀ span, (⟨.punctuator, ['{'], span⟩ : Token).isPunctuator '{' = true := fun _ => rfl
    rw [stretches, tokensOf_gap, tokensOf_mark, Reading.message_body rfl, read, Reading.body, if_pos (isOpen _), inner,
      violationsFrom]
    cases body.violations (offset + byteWidth gap.chars + byteWidth ['{']) <;> rfl
  | selection gap before first rest =>
    have read := Selectors.read_selection first rest
      (offset + byteWidth gap.chars + byteWidth "match".toList + byteWidth before.chars)
    have isMatch : ∀ span, (⟨.keyword, "match".toList, span⟩ : Token).isKeyword "match" = true := fun _ => rfl
    have tokens : tokensOf offset (selection gap before first rest).stretches =
        ⟨.keyword, "match".toList,
          ⟨offset + byteWidth gap.chars, offset + byteWidth gap.chars + byteWidth "match".toList⟩⟩
          :: tokensOf (offset + byteWidth gap.chars + byteWidth "match".toList + byteWidth before.chars)
            (first.stretches ++ rest.stretches) := rfl
    rw [tokens, Reading.message_body rfl, Reading.body, if_neg (by simp [Token.isPunctuator]), if_pos (isMatch _), read,
      violationsFrom]
    exact map_settle ..

/-- A source that has a layout is refused with the first violation of the layout, or else read as its message. -/
theorem Layout.parseChars (layout : Layout) : Message.parseChars layout.chars =
    match layout.violations with
    | [] => .ok layout.message
    | first :: _ => .error (.grammar first.fault first.span) := by
  have complete := complete_eq_ok_iff_layout.2 ⟨layout, rfl, rfl⟩
  have read : Reading.message layout.tokens = settle layout.violations (.ok layout.message) := layout.read_tokens 0
  rw [Message.parseChars, complete]
  dsimp only
  rw [read]
  cases layout.violations <;> rfl

/-- A source whose tokens are complete is refused only for a violation, and for the first one in the source. -/
theorem Message.parse_of_complete {source : String} {tokens : List Token}
    (complete : (TokenStream.ofSource source).complete = .ok tokens) :
    (∃ layout : Layout, layout.chars = source.toList) ∧
      ∀ layout : Layout, layout.chars = source.toList →
        layout.violations.Pairwise (fun left right => left.span.stop ≤ right.span.start) ∧
          Message.parse source =
            match layout.violations with
            | [] => .ok layout.message
            | first :: _ => .error (.grammar first.fault first.span) := by
  constructor
  · obtain ⟨layout, same, _⟩ := complete_eq_ok_iff_layout.1 complete
    exact ⟨layout, same⟩
  · intro layout same
    refine ⟨layout.violations_spread.1, ?_⟩
    rw [Message.parse, ← same]
    exact layout.parseChars

/-- The layout of `let $x = {+b} {}`, where markup is declared. -/
def Layout.declaredMarkup : Layout :=
  .declaration .none ⟨.space, ⟨['x'], rfl⟩, .space, .space, ⟨.none, .markupOpen ⟨['b'], rfl⟩ (.close .none)⟩⟩
    (.pattern Break.space.toGap (.close []) .none)

theorem Message.parse_of_complete_declaredMarkup :
    (TokenStream.ofSource "let $x = \x7b+b\x7d \x7b\x7d").complete = .ok Layout.declaredMarkup.tokens ∧
      Message.parse "let $x = \x7b+b\x7d \x7b\x7d" = .error (.grammar .expectedOperand ⟨10, 12⟩) :=
  ⟨rfl, ((Message.parse_of_complete rfl).2 Layout.declaredMarkup rfl).2⟩

theorem Message.exists_layout_of_parse {source : String} {message : Message}
    (parsed : Message.parse source = .ok message) :
    ∃ layout : Layout, layout.chars = source.toList ∧ layout.violations = [] ∧ layout.message = message := by
  cases complete : (TokenStream.ofChars source.toList).complete with
  | error error =>
    rw [Message.parse, Message.parseChars, complete] at parsed
    cases parsed
  | ok tokens =>
    obtain ⟨layout, same, _⟩ := complete_eq_ok_iff_layout.1 complete
    rw [Message.parse, ← same, layout.parseChars] at parsed
    cases violations : layout.violations with
    | nil =>
      rw [violations] at parsed
      cases parsed
      exact ⟨layout, same, violations, rfl⟩
    | cons first others =>
      rw [violations] at parsed
      cases parsed

/-- A source is read as a message exactly if it has a layout that breaks no rule and has this message. -/
theorem Message.parse_eq_ok_iff {source : String} {message : Message} :
    Message.parse source = .ok message ↔
      ∃ layout : Layout, layout.chars = source.toList ∧ layout.violations = [] ∧ layout.message = message := by
  constructor
  · exact exists_layout_of_parse
  · rintro ⟨layout, same, violations, rfl⟩
    rw [Message.parse, ← same, layout.parseChars, violations]

/-- The layout of `match {$x} when a b {}`, where the variant has a key too many. -/
def Layout.twoKeys : Layout :=
  .selection .none Break.space.toGap ⟨.none, .operand (.variable ⟨['x'], rfl⟩) (.close .none)⟩
    (.variants Break.space.toGap (.last
      ⟨.space, .bare ⟨['a'], rfl⟩, .key .space (.bare ⟨['b'], rfl⟩) (.brace Break.space.toGap), .close []⟩ .none))

/-- The layout of `{{:f a=b a=b}}`, where an option is given twice. -/
def Layout.optionTwice : Layout :=
  .pattern .none (.placeholder [] ⟨.none, .call ⟨['f'], rfl⟩
    (.option .space ⟨['a'], rfl⟩ .none .none (.bare ⟨['b'], rfl⟩)
      (.option .space ⟨['a'], rfl⟩ .none .none (.bare ⟨['b'], rfl⟩) (.close .none)))⟩ (.close [])) .none

/-- The grammar alone does not make a message: it allows any number of keys, and an option to be given twice. -/
theorem Layout.twoKeys_optionTwice_refused :
    (Layout.twoKeys.chars = "match \x7b$x\x7d when a b \x7b\x7d".toList ∧
      Layout.twoKeys.violations = [.keyCount 2 1 ⟨11, 21⟩] ∧
      Message.parse "match \x7b$x\x7d when a b \x7b\x7d" = .error (.grammar (.keyCount 2 1) ⟨11, 21⟩)) ∧
    (Layout.optionTwice.chars = "\x7b\x7b:f a=b a=b\x7d\x7d".toList ∧
      Layout.optionTwice.violations = [.repeatedOption "a" ⟨9, 10⟩] ∧
      Message.parse "\x7b\x7b:f a=b a=b\x7d\x7d" = .error (.grammar (.duplicateOption "a") ⟨9, 10⟩)) :=
  ⟨⟨rfl, rfl, Layout.twoKeys.parseChars⟩, rfl, rfl, Layout.optionTwice.parseChars⟩

end Localizable
