import Localizable.Message
import Localizable.Token.Stream

/-!
# Messages of tokens

A message is built from its tokens without looking ahead. The reader accepts
any list of tokens and refuses one that is no message; besides the grammar it checks that
every variant has a key for each selector and that no option is given twice.
-/

namespace Localizable
open Text

/-- Why a list of tokens is no message: it ends too early, or a token breaks a rule. -/
inductive TokenError
  | ended
  | fault (cause : SyntaxFault) (span : Span)
deriving DecidableEq, Repr

/-- What has been read, and the tokens behind it. -/
abbrev Reading (α : Type) := Except TokenError (α × List Token)

namespace Reading

variable {α β : Type}

/-- Builds something else of what has been read. -/
def into (build : α → β) : Reading α → Reading β
  | .error error => .error error
  | .ok (value, rest) => .ok (build value, rest)

theorem into_eq_ok {build : α → β} {reading : Reading α} {result : β} {rest : List Token} :
    into build reading = .ok (result, rest) ↔ ∃ value, reading = .ok (value, rest) ∧ build value = result := by
  rcases reading with error | ⟨value, later⟩
  · simp [into]
  · simp only [into, Except.ok.injEq, Prod.mk.injEq]; grind

/-- A given punctuation mark. -/
def mark (c : Char) : List Token → Reading Unit
  | [] => .error .ended
  | token :: rest =>
    if token.isPunctuator c then .ok ((), rest) else .error (.fault (.expectedPunctuation c) token.span)

/-- The value that a token gives an option. -/
def optionValue? (token : Token) : Option Operand :=
  match token.kind with
  | .variableName => some (.variable token.value)
  | .literal => some (.literal token.value)
  | .nmtoken => some (.literal token.value)
  | _ => none

/-- Options up to and with the closing brace, added to the options read before. -/
def options (before : Options) : List Token → Reading Options
  | [] => .error .ended
  | name :: rest =>
    if name.isPunctuator '}' then .ok (before, rest)
    else if name.kind ≠ .name then .error (.fault .expectedOptionName name.span)
    else match rest with
      | [] => .error .ended
      | equals :: rest =>
        if ¬ equals.isPunctuator '=' then .error (.fault (.expectedPunctuation '=') equals.span)
        else match rest with
          | [] => .error .ended
          | value :: rest =>
            match optionValue? value with
            | none => .error (.fault .expectedOptionValue value.span)
            | some operand =>
              if before.contains name.value then .error (.fault (.duplicateOption name.value) name.span)
              else options (before.insert name.value operand) rest

/-- A function whose name has been read, through its closing brace. -/
def invocation (name : Token) (tokens : List Token) : Reading Invocation :=
  into (⟨name.value, ·⟩) (options .empty tokens)

/-- What stands behind an operand: the closing brace, or a function through it. -/
def afterOperand (operand : Operand) : List Token → Reading Expression
  | [] => .error .ended
  | next :: rest =>
    if next.kind = .functionName then into (fun function => .operand operand (some function)) (invocation next rest)
    else if next.isPunctuator '}' then .ok (.operand operand none, rest)
    else .error (.fault .expectedFunctionOrClose next.span)

/-- An expression behind its opening brace, through its closing brace. -/
def expression : List Token → Reading Expression
  | [] => .error .ended
  | first :: rest =>
    match first.kind with
    | .functionName => into .call (invocation first rest)
    | .variableName => afterOperand (.variable first.value) rest
    | .literal => afterOperand (.literal first.value) rest
    | _ => .error (.fault .expectedOperand first.span)

/-- A placeholder behind its opening brace: markup, or else an expression. -/
def placeholder : List Token → Reading Element
  | [] => .error .ended
  | first :: rest =>
    match first.kind with
    | .markupStart => into (.markupOpen first.value) (options .empty rest)
    | .markupEnd => into (fun _ => .markupClose first.value) (mark '}' rest)
    | _ => into .expression (expression (first :: rest))

/-! ## A reading leaves fewer tokens -/

private theorem mark_shorter {c : Char} {tokens rest : List Token}
    (read : mark c tokens = .ok ((), rest)) : rest.length < tokens.length := by
  unfold mark at read
  split at read
  · simp at read
  · split at read
    · simp only [Except.ok.injEq, Prod.mk.injEq, true_and] at read
      simp [read]
    · simp at read

private theorem options_shorter {before result : Options} {tokens rest : List Token}
    (read : options before tokens = .ok (result, rest)) : rest.length < tokens.length := by
  fun_induction options before tokens with
  | case2 =>
    simp only [Except.ok.injEq, Prod.mk.injEq] at read
    simp [read.2]
  | case9 =>
    rename_i ih
    have := ih read
    simp only [List.length_cons]; omega
  | _ => simp_all

private theorem invocation_shorter {name : Token} {function : Invocation} {tokens rest : List Token}
    (read : invocation name tokens = .ok (function, rest)) : rest.length < tokens.length := by
  obtain ⟨_, inner, _⟩ := into_eq_ok.1 read
  exact options_shorter inner

private theorem afterOperand_shorter {operand : Operand} {result : Expression} {tokens rest : List Token}
    (read : afterOperand operand tokens = .ok (result, rest)) : rest.length < tokens.length := by
  unfold afterOperand at read
  split at read
  · simp at read
  · split at read
    · obtain ⟨_, inner, _⟩ := into_eq_ok.1 read
      have := invocation_shorter inner
      simp only [List.length_cons]; omega
    · split at read
      · simp only [Except.ok.injEq, Prod.mk.injEq] at read
        simp [read.2]
      · simp at read

theorem expression_shorter {result : Expression} {tokens rest : List Token}
    (read : expression tokens = .ok (result, rest)) : rest.length < tokens.length := by
  unfold expression at read
  split at read
  · simp at read
  · split at read
    · obtain ⟨_, inner, _⟩ := into_eq_ok.1 read
      have := invocation_shorter inner
      simp only [List.length_cons]; omega
    · have := afterOperand_shorter read; simp only [List.length_cons]; omega
    · have := afterOperand_shorter read; simp only [List.length_cons]; omega
    · simp at read

theorem placeholder_shorter {element : Element} {tokens rest : List Token}
    (read : placeholder tokens = .ok (element, rest)) : rest.length < tokens.length := by
  unfold placeholder at read
  split at read
  · simp at read
  · split at read
    all_goals obtain ⟨_, inner, _⟩ := into_eq_ok.1 read
    · have := options_shorter inner; simp only [List.length_cons]; omega
    · have := mark_shorter inner; simp only [List.length_cons]; omega
    · exact expression_shorter inner

/-! ## Patterns and variants -/

/-- A pattern behind its opening brace, through its closing brace. -/
def pattern : List Token → Reading Pattern
  | [] => .error .ended
  | first :: rest =>
    if first.isPunctuator '}' then .ok ([], rest)
    else if first.isPunctuator '{' then
      match read : placeholder rest with
      | .error error => .error error
      | .ok (element, later) =>
        have := placeholder_shorter read
        into (element :: ·) (pattern later)
    else if first.kind = .text then into (.text first.value :: ·) (pattern rest)
    else .error (.fault .unexpectedInPattern first.span)
termination_by tokens => tokens.length
decreasing_by all_goals simp only [List.length_cons]; omega

theorem pattern_shorter {elements : Pattern} {tokens rest : List Token}
    (read : pattern tokens = .ok (elements, rest)) : rest.length < tokens.length := by
  fun_induction pattern tokens generalizing elements rest with
  | case2 => simp_all
  | case4 first rest _ _ element later placeholderRead shorter ih =>
    obtain ⟨_, inner, _⟩ := into_eq_ok.1 read
    have := ih inner
    simp only [List.length_cons]; omega
  | case5 first rest _ _ _ ih =>
    obtain ⟨_, inner, _⟩ := into_eq_ok.1 read
    have := ih inner
    simp only [List.length_cons]; omega
  | _ => simp_all

/-- The keys of a variant through the opening brace of its pattern, with that brace. -/
def keys : List Token → Reading (List Key × Token)
  | [] => .error .ended
  | token :: rest =>
    if token.isPunctuator '{' then .ok (([], token), rest)
    else match token.kind with
      | .asterisk => into (fun (keys, brace) => (.any :: keys, brace)) (keys rest)
      | .literal => into (fun (keys, brace) => (.literal token.value :: keys, brace)) (keys rest)
      | .nmtoken => into (fun (keys, brace) => (.literal token.value :: keys, brace)) (keys rest)
      | _ => .error (.fault .expectedKey token.span)

private theorem keys_shorter {result : List Key × Token} {tokens rest : List Token}
    (read : keys tokens = .ok (result, rest)) : rest.length < tokens.length := by
  induction tokens generalizing result rest with
  | nil => simp [keys] at read
  | cons token later ih =>
    unfold keys at read
    split at read
    · simp only [Except.ok.injEq, Prod.mk.injEq] at read
      simp [read.2]
    · split at read
      · obtain ⟨_, inner, _⟩ := into_eq_ok.1 read
        have := ih inner
        simp only [List.length_cons]; omega
      · obtain ⟨_, inner, _⟩ := into_eq_ok.1 read
        have := ih inner
        simp only [List.length_cons]; omega
      · obtain ⟨_, inner, _⟩ := into_eq_ok.1 read
        have := ih inner
        simp only [List.length_cons]; omega
      · simp at read

/-- Whether a variant has a key for each selector, and at least one. -/
def keyFault? (keys selectors : Nat) : Option SyntaxFault :=
  if keys = 0 then some .expectedSomeKey
  else if keys ≠ selectors then some (.keyCount keys selectors)
  else none

/-- A variant behind its keyword, which starts at `start`. -/
def variant (start selectors : Nat) (tokens : List Token) : Reading Variant :=
  match keys tokens with
  | .error error => .error error
  | .ok ((keys, brace), rest) =>
    match keyFault? keys.length selectors with
    | some cause => .error (.fault cause ⟨start, brace.span.stop⟩)
    | none => into (⟨keys, ·⟩) (pattern rest)

theorem variant_shorter {start selectors : Nat} {result : Variant} {tokens rest : List Token}
    (read : variant start selectors tokens = .ok (result, rest)) : rest.length < tokens.length := by
  unfold variant at read
  split at read
  · simp at read
  next keysRead =>
    split at read
    · simp at read
    · obtain ⟨_, inner, _⟩ := into_eq_ok.1 read
      have := keys_shorter keysRead
      have := pattern_shorter inner
      omega

/-- Variants through the last token. -/
def variants (selectors : Nat) : List Token → Except TokenError (List Variant)
  | [] => .error .ended
  | first :: rest =>
    if ¬ first.isKeyword "when" then .error (.fault .expectedWhen first.span)
    else match read : variant first.span.start selectors rest with
      | .error error => .error error
      | .ok (result, []) => .ok [result]
      | .ok (result, next :: later) =>
        have := variant_shorter read
        match variants selectors (next :: later) with
        | .error error => .error error
        | .ok others => .ok (result :: others)
termination_by tokens => tokens.length
decreasing_by all_goals simp_all only [List.length_cons]; omega

/-- Selectors up to the first token that opens none. -/
def selectors : List Token → Reading (List Expression)
  | [] => .error .ended
  | first :: rest =>
    if first.isPunctuator '{' then
      match read : expression rest with
      | .error error => .error error
      | .ok (selector, later) =>
        have := expression_shorter read
        into (selector :: ·) (selectors later)
    else .ok ([], first :: rest)
termination_by tokens => tokens.length
decreasing_by all_goals simp only [List.length_cons]; omega

/-- A declaration behind its keyword. -/
def declaration : List Token → Reading Declaration
  | [] => .error .ended
  | name :: rest =>
    if name.kind ≠ .variableName then .error (.fault .expectedVariableName name.span)
    else match mark '=' rest with
      | .error error => .error error
      | .ok (_, rest) =>
        match mark '{' rest with
        | .error error => .error error
        | .ok (_, rest) => into (⟨name.value, ·⟩) (expression rest)

private theorem declaration_shorter {result : Declaration} {tokens rest : List Token}
    (read : declaration tokens = .ok (result, rest)) : rest.length < tokens.length := by
  unfold declaration at read
  split at read
  · simp at read
  · split at read
    · simp at read
    · split at read
      · simp at read
      next equalsRead =>
        split at read
        · simp at read
        next braceRead =>
          obtain ⟨_, inner, _⟩ := into_eq_ok.1 read
          have := mark_shorter equalsRead
          have := mark_shorter braceRead
          have := expression_shorter inner
          simp only [List.length_cons]; omega

/-- Declarations up to the first token that opens none. -/
def declarations : List Token → Reading (List Declaration)
  | [] => .error .ended
  | first :: rest =>
    if first.isKeyword "let" then
      match read : declaration rest with
      | .error error => .error error
      | .ok (result, later) =>
        have := declaration_shorter read
        into (result :: ·) (declarations later)
    else .ok ([], first :: rest)
termination_by tokens => tokens.length
decreasing_by all_goals simp only [List.length_cons]; omega

/-- The selectors and variants behind the keyword of a selection. -/
def selection (tokens : List Token) : Except TokenError (List Expression × List Variant) :=
  match selectors tokens with
  | .error error => .error error
  | .ok ([], []) => .error .ended
  | .ok ([], first :: _) => .error (.fault .expectedSelector first.span)
  | .ok (selectors, rest) =>
    match variants selectors.length rest with
    | .error error => .error error
    | .ok variants => .ok (selectors, variants)

/-- What follows the declarations: a pattern or a selection. -/
def body : List Token → Except TokenError (List Expression × List Variant)
  | [] => .error .ended
  | first :: rest =>
    if first.isPunctuator '{' then
      match pattern rest with
      | .error error => .error error
      | .ok (pattern, []) => .ok ([], [⟨[], pattern⟩])
      | .ok (_, trailing :: _) => .error (.fault .expectedEnd trailing.span)
    else if first.isKeyword "match" then selection rest
    else .error (.fault .expectedMessage first.span)

/-- The message that a whole list of tokens makes up. -/
def message (tokens : List Token) : Except TokenError Message :=
  match declarations tokens with
  | .error error => .error error
  | .ok (declarations, rest) =>
    match body rest with
    | .error error => .error error
    | .ok (selectors, variants) => .ok ⟨declarations, selectors, variants⟩

end Reading

/-- Places an error among tokens in a source of the given length. -/
def ParseError.ofTokenError (length : Nat) : TokenError → ParseError
  | .ended => .endOfTokens length
  | .fault cause span => .grammar cause span

/-- Reads a message from the characters of a source. A fault among the tokens comes before any other. -/
def Message.parseChars (source : List Char) : Except ParseError Message :=
  match (TokenStream.ofChars source).complete with
  | .error error => .error (.lexing error)
  | .ok tokens => (Reading.message tokens).mapError (.ofTokenError (byteWidth source))

/-- Reads a message from its source. -/
def Message.parse (source : String) : Except ParseError Message := parseChars source.toList

end Localizable
