import Localizable.Proofs.LayoutOfTokens

/-!
# Layouts are read

Every part of a layout is read in the region that it is for, wherever it stands
and whatever is read behind it (`Accepts`). What stands behind matters to words
and gaps only, which end where another kind of character begins. Hence the tokens
of a source are complete exactly if it has a layout (`complete_eq_ok_iff_layout`).
-/

namespace Localizable
open Text

theorem ofKind_word_of_isNameChar {c : Char} (nameChar : isNameChar c = true) : OfKind .word c := by
  have none : [' ', '\t', '\r', '\n', '{', '}', '=', '*', '(', ')', '\\'].all (fun d => !isNameChar d) = true := rfl
  have apart : ∀ d ∈ [' ', '\t', '\r', '\n', '{', '}', '=', '*', '(', ')', '\\'], c ≠ d := by
    rintro d member rfl
    have other := List.all_eq_true.1 none c member
    rw [nameChar] at other
    cases other
  rw [ofKind_word]
  simp only [List.forall_mem_cons] at apart
  simp [isSpacing, isPunctuation, apart]

/-- Characters of another kind end a run. -/
theorem Stops.of_run {kind other : AtomKind} {chars rest : List Char} (same : ∀ c ∈ chars, OfKind other c)
    (filled : chars ≠ []) (apart : other ≠ kind) : Stops kind (chars ++ rest) := by
  obtain ⟨c, later, rfl⟩ := List.exists_cons_of_ne_nil filled
  rw [List.cons_append, stops_cons]
  exact fun own => apart ((same c (by simp)).unique own)

/-- A word ends whitespace. -/
theorem Stops.word {c : Char} {rest : List Char} (word : OfKind .word c) : Stops .whitespace (c :: rest) := by
  rw [stops_cons]
  exact fun same => nomatch word.unique same

/-- A mark ends words and whitespace. -/
theorem Stops.mark {kind : AtomKind} {c : Char} {rest : List Char} (joins : kind = .word ∨ kind = .whitespace)
    (mark : isPunctuation c = true) : Stops kind (c :: rest) := by
  rw [stops_cons]
  intro same
  obtain rfl := (ofKind_punctuator.2 mark).unique same
  rcases joins with word | whitespace
  · cases word
  · cases whitespace

namespace Layout

theorem Nmtoken.ofKind (token : Nmtoken) : ∀ c ∈ token.chars, OfKind .word c := by
  obtain ⟨chars, valid⟩ := token
  cases chars with
  | nil => cases valid
  | cons c rest => exact fun d member => ofKind_word_of_isNameChar (List.all_eq_true.1 valid d member)

theorem Nmtoken.filled (token : Nmtoken) : token.chars ≠ [] := by
  intro empty
  have valid := token.valid
  rw [empty] at valid
  cases valid

theorem Nmtoken.stops (token : Nmtoken) {rest : List Char} : Stops .whitespace (token.chars ++ rest) :=
  .of_run token.ofKind token.filled (by decide)

theorem Nmtoken.head_ne (token : Nmtoken) {c : Char} (other : isNameChar c = false) : token.chars.head? ≠ some c := by
  obtain ⟨chars, valid⟩ := token
  cases chars with
  | nil => simp
  | cons d rest =>
    intro same
    obtain rfl := Option.some.inj same
    have nameChar := List.all_eq_true.1 valid d (by simp)
    rw [other] at nameChar
    cases nameChar

def Name.nmtoken (name : Name) : Nmtoken := ⟨name.chars, isNmtoken_of_isName name.valid⟩

@[simp] theorem Name.nmtoken_chars (name : Name) : name.nmtoken.chars = name.chars := rfl

theorem Break.stops (gap : Break) (rest : List Char) : Stops .word (gap.chars ++ rest) :=
  .of_run gap.toGap.ofKind gap.filled (by decide)

/-- A gap ends a word if nothing of the word stands behind it. -/
theorem Gap.stops (gap : Gap) {rest : List Char} (stops : Stops .word rest) : Stops .word (gap.chars ++ rest) := by
  by_cases empty : gap.chars = []
  · rwa [empty]
  · exact Break.stops ⟨gap, empty⟩ rest

theorem Gap.stops_mark (gap : Gap) {c : Char} (rest : List Char) (mark : isPunctuation c = true) :
    Stops .word (gap.chars ++ c :: rest) := gap.stops (.mark (.inl rfl) mark)

end Layout

/-- Where whitespace leads that is passed over. -/
def Region.behindBlank : Region → Option Region
  | .opening => some .opening
  | .gapAfterLet => some .declaredName
  | .gapBeforeEquals => some .declarationEquals
  | .gapAfterEquals => some .declarationBrace
  | .firstSelector => some .firstSelector
  | .nextSelector => some .nextSelector
  | .gapAfterWhen => some .firstKey
  | .behindKey => some .nextKey
  | .nextVariant => some .nextVariant
  | .complete => some .complete
  | .expression seat => some (.expression seat)
  | .behindOperand seat => some (.function seat)
  | .markupClose seat => some (.markupClose seat)
  | .behindOption seat => some (.optionName seat)
  | .optionEquals seat => some (.optionEquals seat)
  | .optionValue seat => some (.optionValue seat)
  | _ => none

theorem Region.step_blank {region next : Region} (leads : region.behindBlank = some next) {atom : Atom}
    (blank : atom.isWhitespace = true) : region.step atom = .ok (next, []) := by
  have mark : ∀ c, atom.isPunctuator c = false := by
    intro c
    simp only [Atom.isWhitespace, beq_iff_eq] at blank
    simp [Atom.isPunctuator, blank]
  cases region <;> cases leads <;> simp [Region.step, Region.expressionStep, Region.gap, Region.skip, blank, mark]

/-! ## Stretches that are read -/

/-- Stretches are read from a region to the next if they stand in front of some text. -/
def Accepts (region : Region) (stretches : List Stretch) (next : Region) (behind : List Char) : Prop :=
  ∀ ⦃offset : Nat⦄ ⦃later : List Token⦄, Reads next (offset + byteWidth (charsOf stretches)) behind later →
    Reads region offset (charsOf stretches ++ behind) (tokensOf offset stretches ++ later)

namespace Accepts

variable {region next : Region} {behind : List Char}

theorem append (middle : Region) {left right : List Stretch}
    (first : Accepts region left middle (charsOf right ++ behind))
    (second : Accepts middle right next behind) : Accepts region (left ++ right) next behind := by
  intro offset later reads
  rw [charsOf_append, byteWidth_append, ← Nat.add_assoc] at reads
  rw [charsOf_append, List.append_assoc, tokensOf_append, List.append_assoc]
  exact first (second reads)

theorem cons (middle : Region) {stretch : Stretch} {rest : List Stretch}
    (first : Accepts region [stretch] middle (charsOf rest ++ behind)) (second : Accepts middle rest next behind) :
    Accepts region (stretch :: rest) next behind := append middle first second

/-- A run or a mark that is one token. -/
theorem token {kind : TokenKind} {value : List Char} {piece : Piece} (heads : Heads piece behind)
    (taken : ∀ span, region.step ⟨piece.kind, piece.chars, span⟩ = .ok (next, [⟨kind, value, span⟩])) :
    Accepts region [.token kind value piece.chars] next behind := by
  intro offset later reads
  simp only [charsOf_cons, charsOf_nil, Stretch.chars, List.append_nil] at reads ⊢
  exact (reads_append heads).2 ⟨next, _, later, taken _, rfl, reads⟩

theorem word {kind : TokenKind} {value chars : List Char} (filled : chars ≠ [])
    (same : ∀ c ∈ chars, OfKind .word c) (stops : Stops .word behind)
    (taken : ∀ span, region.step ⟨.word, chars, span⟩ = .ok (next, [⟨kind, value, span⟩])) :
    Accepts region [.token kind value chars] next behind := token (.run (.inl rfl) filled same stops) taken

theorem mark {kind : TokenKind} {c : Char} (mark : isPunctuation c = true)
    (taken : ∀ span, region.step ⟨.punctuator, [c], span⟩ = .ok (next, [⟨kind, [c], span⟩])) :
    Accepts region [.token kind [c] [c]] next behind := token (.punctuator mark) taken

theorem blank (gap : Layout.Break) (stops : Stops .whitespace behind) (leads : region.behindBlank = some next) :
    Accepts region [gap.stretch] next behind := by
  intro offset later reads
  simp only [Layout.Gap.stretch, charsOf_cons, charsOf_nil, Stretch.chars, List.append_nil] at reads ⊢
  have heads : Heads ⟨.whitespace, gap.chars⟩ behind := .run (.inr rfl) gap.filled gap.toGap.ofKind stops
  exact (reads_append heads).2 ⟨next, [], later, Region.step_blank leads rfl, rfl, reads⟩

theorem absent {gap : Layout.Gap} (empty : gap.chars = []) : Accepts region [gap.stretch] region behind := by
  intro offset later reads
  simpa [Layout.Gap.stretch, Stretch.chars, empty, byteWidth, tokensOf] using reads

/-- Where whitespace may stand it may be left out. -/
theorem gap (gap : Layout.Gap) (stops : Stops .whitespace behind) (loops : region.behindBlank = some region) :
    Accepts region [gap.stretch] region behind := by
  by_cases empty : gap.chars = []
  · exact absent empty
  · exact blank ⟨gap, empty⟩ stops loops

/-- A mark that may stand behind a gap or without one. -/
theorem gap_mark (middle : Region) (gap : Layout.Gap) {kind : TokenKind} {c : Char} (isMark : isPunctuation c = true)
    (spaced : region.behindBlank = some middle)
    (close : ∀ span, region.step ⟨.punctuator, [c], span⟩ = .ok (next, [⟨kind, [c], span⟩]))
    (closeBehind : ∀ span, middle.step ⟨.punctuator, [c], span⟩ = .ok (next, [⟨kind, [c], span⟩])) :
    Accepts region [gap.stretch, .token kind [c] [c]] next behind := by
  by_cases empty : gap.chars = []
  · exact .cons region (absent empty) (mark isMark close)
  · exact .cons middle (blank ⟨gap, empty⟩ (.mark (.inr rfl) isMark) spaced) (mark isMark closeBehind)

theorem literal (role : LiteralRole) (signs : List Layout.LiteralSign)
    (opens : ∀ span, region.step ⟨.punctuator, ['('], span⟩ = .ok (.literal role span.start [], [])) :
    Accepts region [Layout.literalStretch signs] (Region.afterLiteral role) behind := by
  intro offset later reads
  have width : offset + byteWidth (Layout.literalStretch signs).chars =
      offset + byteWidth ['('] + byteWidth (signs.flatMap Layout.Sign.chars) + byteWidth [')'] := by
    rw [Layout.literalStretch, Stretch.chars, ← List.singleton_append, List.append_assoc, byteWidth_append,
      byteWidth_append]
    omega
  simp only [charsOf_cons, charsOf_nil, List.append_nil, width] at reads
  have inside := (reads_literal role offset signs).2 ⟨later, rfl, reads⟩
  have whole : Reads region offset (['('] ++ (signs.flatMap Layout.Sign.chars ++ ')' :: behind)) _ :=
    (reads_append (.punctuator rfl)).2 ⟨_, [], _, opens _, rfl, inside⟩
  have tokens : tokensOf offset [Layout.literalStretch signs] ++ later = [] ++
      ⟨.literal, signs.map Layout.Sign.value, ⟨offset, offset + byteWidth (Layout.literalStretch signs).chars⟩⟩
        :: later := rfl
  rw [tokens, width]
  simpa [Layout.literalStretch, Stretch.chars] using whole

end Accepts

/-! ## Parts of layouts are read -/

namespace Layout

variable {seat : Seat} {next : Region} {behind : List Char}

theorem Name.takes_sigil (name : Name) (sign : Char) (kind : TokenKind) (fault : LexFault) (next : Region)
    (span : Span) : Region.sigilName ⟨.word, sign :: name.chars, span⟩ sign kind fault next =
      .ok (next, [⟨kind, name.chars, span⟩]) := by
  simp [Region.sigilName, Region.nameBehind, name.valid]

theorem Name.accepts_sigil {region : Region} (name : Name) {kind : TokenKind} {sign : Char}
    (word : OfKind .word sign) (stops : Stops .word behind)
    (taken : ∀ span, region.step ⟨.word, sign :: name.chars, span⟩ = .ok (next, [⟨kind, name.chars, span⟩])) :
    Accepts region [.sigil kind sign name.chars] next behind := by
  refine .word (by simp) ?_ stops taken
  intro c member
  rcases List.mem_cons.1 member with rfl | inside
  · exact word
  · exact name.nmtoken.ofKind c inside

theorem Value.accepts (value : Value) (stops : Stops .word behind) :
    Accepts (.optionValue seat) [value.stretch] (.behindOption seat) behind := by
  match value with
  | .operand (.variable name) => exact name.accepts_sigil (by decide) stops fun span => name.takes_sigil ..
  | .operand (.literal signs) => exact .literal (.option seat) signs fun _ => rfl
  | .bare token =>
    refine .word token.filled token.ofKind stops fun span => ?_
    have noVariable : token.chars.head? ≠ some '$' := token.head_ne (by decide)
    simp [Region.step, Atom.isWhitespace, Atom.isPunctuator, noVariable, Region.bareToken, token.valid, Region.emit]

theorem Value.stops (value : Value) : Stops .whitespace (value.stretch.chars ++ behind) := by
  match value with
  | .operand (.variable _) => exact .word (by decide)
  | .operand (.literal _) => exact .mark (.inr rfl) rfl
  | .bare token => exact token.stops

theorem Options.stops (options : Options) : Stops .word (charsOf options.stretches ++ behind) := by
  cases options with
  | close gap => simpa [Options.stretches] using gap.stops_mark behind rfl
  | option gap => simpa [Options.stretches] using gap.stops _

theorem Options.accepts (options : Options) :
    Accepts (.behindOption seat) options.stretches (Region.afterExpression seat) behind := by
  induction options with
  | close gap => exact .gap_mark (.optionName seat) gap rfl rfl (fun _ => rfl) fun _ => rfl
  | option gap name before after value rest ih =>
    refine .cons (.optionName seat) (.blank gap ?_ rfl) <|
      .cons (.optionEquals seat) (.word name.nmtoken.filled name.nmtoken.ofKind ?_ fun _ => ?_) <|
      .cons (.optionEquals seat) (.gap before ?_ rfl) <|
      .cons (.optionValue seat) (.mark rfl fun _ => rfl) <|
      .cons (.optionValue seat) (.gap after ?_ rfl) <|
      .cons (.behindOption seat) (value.accepts rest.stops) ih
    · simpa using name.nmtoken.stops
    · simpa using before.stops_mark _ rfl
    · simp [Region.step, Atom.isPunctuator, name.valid, Region.emit]
    · exact .mark (.inr rfl) rfl
    · simpa using value.stops

theorem Tail.stops (tail : Tail) : Stops .word (charsOf tail.stretches ++ behind) := by
  cases tail with
  | close gap => simpa [Tail.stretches] using gap.stops_mark behind rfl
  | function gap => simpa [Tail.stretches] using gap.stops _

theorem Tail.accepts (tail : Tail) :
    Accepts (.behindOperand seat) tail.stretches (Region.afterExpression seat) behind := by
  cases tail with
  | close gap => exact .gap_mark (.function seat) gap rfl rfl (fun _ => rfl) fun _ => rfl
  | function gap name options =>
    refine .cons (.function seat) (.blank gap ?_ rfl) <|
      .cons (.behindOption seat) (name.accepts_sigil (by decide) options.stops fun _ => ?_) options.accepts
    · exact .word (by decide)
    · exact name.takes_sigil ..

theorem Operand.accepts (item : Operand) (stops : Stops .word behind) :
    Accepts (.expression seat) [item.stretch] (.behindOperand seat) behind := by
  cases item with
  | «variable» name => exact name.accepts_sigil (by decide) stops fun _ => name.takes_sigil ..
  | literal signs => exact .literal (.operand seat) signs fun _ => rfl

theorem Inside.stops (inside : Inside) : Stops .whitespace (charsOf inside.stretches ++ behind) := by
  match inside with
  | .call _ _ => exact .word (by decide)
  | .operand (.variable _) _ => exact .word (by decide)
  | .operand (.literal _) _ => exact .mark (.inr rfl) rfl
  | .markupOpen _ _ => exact .word (by decide)
  | .markupClose _ _ => exact .word (by decide)

theorem Inside.accepts (inside : Inside) :
    Accepts (.expression seat) inside.stretches (Region.afterExpression seat) behind := by
  cases inside with
  | call name options =>
    exact .cons (.behindOption seat) (name.accepts_sigil (by decide) options.stops fun _ => name.takes_sigil ..)
      options.accepts
  | operand item tail => exact .cons (.behindOperand seat) (item.accepts tail.stops) tail.accepts
  | markupOpen name options =>
    exact .cons (.behindOption seat) (name.accepts_sigil (by decide) options.stops fun _ => name.takes_sigil ..)
      options.accepts
  | markupClose name gap =>
    refine .cons (.markupClose seat) (name.accepts_sigil (by decide) ?_ fun _ => name.takes_sigil ..) <|
      .gap_mark (.markupClose seat) gap rfl rfl (fun _ => rfl) fun _ => rfl
    simpa using gap.stops_mark behind rfl

theorem Placeholder.accepts (content : Placeholder) :
    Accepts (.expression seat) content.within (Region.afterExpression seat) behind :=
  .cons (.expression seat) (.gap content.gap content.inside.stops rfl) content.inside.accepts

/-- Placeholders are read where a brace opens an expression. -/
theorem Placeholder.accepts_braced {region : Region} (content : Placeholder) (seat : Seat)
    (opens : ∀ span, region.step ⟨.punctuator, ['{'], span⟩ = .ok (.expression seat, [⟨.punctuator, ['{'], span⟩])) :
    Accepts region content.stretches (Region.afterExpression seat) behind :=
  .cons (.expression seat) (.mark rfl opens) content.accepts

theorem accepts_text (text : List TextSign) {c : Char}
    (brace : c = '}' ∧ next = Region.afterPattern seat ∨ c = '{' ∧ next = .expression seat) :
    Accepts (.pattern seat none) (textStretches text ++ [.mark c]) next behind := by
  have front : charsOf (textStretches text) = text.flatMap Sign.chars := by
    cases text <;> simp [textStretches]
  intro offset later reads
  rw [charsOf_append, byteWidth_append, ← Nat.add_assoc, front] at reads
  rw [charsOf_append, front]
  simpa using (reads_text brace text).2 ⟨later, rfl, reads⟩

theorem Body.accepts (again : Region.afterExpression seat = .pattern seat none) (body : Body) :
    Accepts (.pattern seat none) body.stretches (Region.afterPattern seat) behind := by
  induction body with
  | close text => exact accepts_text text (.inl ⟨rfl, rfl⟩)
  | placeholder text content rest ih =>
    have shape : (Body.placeholder text content rest).stretches =
        textStretches text ++ [.mark '{'] ++ (content.within ++ rest.stretches) := by
      simp [Body.stretches, Placeholder.stretches]
    rw [shape]
    refine .append (.expression seat) (accepts_text text (.inr ⟨rfl, rfl⟩)) ?_
    exact .append (Region.afterExpression seat) content.accepts (again ▸ ih)

theorem Key.stops (key : Key) : Stops .whitespace (key.stretch.chars ++ behind) := by
  match key with
  | .any => exact .mark (.inr rfl) rfl
  | .literal _ => exact .mark (.inr rfl) rfl
  | .bare token => exact token.stops

/-- A key is read where the first key is, and where another one is. -/
theorem Key.accepts {region : Region} (key : Key) (stops : Stops .word behind)
    (opens : ∀ atom, atom.isPunctuator '{' = false → region.step atom = Region.keyStep atom) :
    Accepts region [key.stretch] .behindKey behind := by
  match key with
  | .any => exact .mark rfl fun _ => opens _ rfl
  | .literal signs => exact .literal .key signs fun _ => opens _ rfl
  | .bare token =>
    refine .word token.filled token.ofKind stops fun _ => ?_
    rw [opens _ rfl]
    simp [Region.keyStep, Region.bareToken, token.valid, Region.emit]

theorem Keys.stops (keys : Keys) : Stops .word (charsOf keys.stretches ++ behind) := by
  cases keys with
  | brace gap => simpa [Keys.stretches] using gap.stops_mark behind rfl
  | key gap => simpa [Keys.stretches] using gap.stops _

theorem Keys.accepts (keys : Keys) : Accepts .behindKey keys.stretches (.pattern .variant none) behind := by
  induction keys with
  | brace gap => exact .gap_mark .nextKey gap rfl rfl (fun _ => rfl) fun _ => rfl
  | key gap key rest ih =>
    refine .cons .nextKey (.blank gap ?_ rfl) <| .cons .behindKey (key.accepts rest.stops ?_) ih
    · simpa using key.stops
    · intro atom noBrace
      simp [Region.step, noBrace]

theorem Variant.accepts (variant : Variant) : Accepts .gapAfterWhen variant.within .nextVariant behind := by
  refine .cons .firstKey (.blank variant.gap ?_ rfl) <|
    .cons .behindKey (variant.first.accepts ?_ fun _ _ => rfl) <|
    .append (.pattern .variant none) variant.others.accepts (variant.body.accepts rfl)
  · simpa using variant.first.stops
  · simpa using variant.others.stops

theorem plain_of_isWord {atom : Atom} {word : String} (isWord : atom.isWord word = true) :
    atom.isWhitespace = false ∧ ∀ c, atom.isPunctuator c = false := by
  simp only [Atom.isWord, Bool.and_eq_true, beq_iff_eq] at isWord
  simp [Atom.isWhitespace, Atom.isPunctuator, isWord]

/-- The keyword of a variant is read wherever a variant may stand. -/
theorem accepts_when {region : Region} (stops : Stops .word behind)
    (opens : ∀ atom, atom.isWord "when" = true → region.step atom = Region.emit atom .keyword .gapAfterWhen) :
    Accepts region [whenStretch] .gapAfterWhen behind :=
  .word (Nmtoken.filled ⟨_, rfl⟩) (Nmtoken.ofKind ⟨_, rfl⟩) stops fun _ => opens _ (by simp [Atom.isWord])

theorem Variants.stops (variants : Variants) : Stops .whitespace (charsOf variants.stretches ++ behind) := by
  cases variants with
  | last variant gap => exact .word (by decide)
  | more variant gap rest => exact .word (by decide)

theorem Variants.accepts {region : Region} (variants : Variants)
    (opens : ∀ atom, atom.isWord "when" = true → region.step atom = Region.emit atom .keyword .gapAfterWhen) :
    Accepts region variants.stretches .nextVariant [] := by
  have again : ∀ atom, atom.isWord "when" = true →
      Region.nextVariant.step atom = Region.emit atom .keyword .gapAfterWhen := by
    intro atom word
    simp [Region.step, Region.keyword, plain_of_isWord word, word]
  induction variants generalizing region with
  | last variant gap =>
    refine .cons .gapAfterWhen (accepts_when ?_ opens) <|
      .append .nextVariant variant.accepts (.gap gap (stops_nil _) rfl)
    simpa [Variant.within] using variant.gap.stops _
  | more variant gap rest ih =>
    refine .cons .gapAfterWhen (accepts_when ?_ opens) <|
      .append .nextVariant variant.accepts <| .cons .nextVariant (.gap gap rest.stops rfl) (ih again)
    simpa [Variant.within] using variant.gap.stops _

theorem Selectors.accepts (selectors : Selectors) :
    Accepts .nextSelector selectors.stretches .nextVariant [] := by
  induction selectors with
  | variants gap variants =>
    refine .cons .nextSelector (.gap gap variants.stops rfl) (variants.accepts ?_)
    intro atom word
    simp [Region.step, Region.keyword, plain_of_isWord word, word]
  | selector gap content rest ih =>
    refine .cons .nextSelector (.gap gap ?_ rfl) <|
      .append .nextSelector (content.accepts_braced .selector fun _ => rfl) ih
    exact .mark (.inr rfl) rfl

theorem Declaration.accepts (declaration : Declaration) :
    Accepts .opening declaration.stretches .opening behind := by
  refine .cons .gapAfterLet (.word (Nmtoken.filled ⟨_, rfl⟩) (Nmtoken.ofKind ⟨_, rfl⟩) ?_ fun _ => ?_) <|
    .cons .declaredName (.blank declaration.gap ?_ rfl) <|
    .cons .gapBeforeEquals (declaration.name.accepts_sigil (by decide) ?_ fun _ => declaration.name.takes_sigil ..) <|
    .cons .declarationEquals (.blank declaration.before ?_ rfl) <|
    .cons .gapAfterEquals (.mark rfl fun _ => rfl) <|
    .cons .declarationBrace (.blank declaration.after ?_ rfl) <|
    declaration.content.accepts_braced .declaration fun _ => rfl
  · simpa using declaration.gap.stops _
  · simp [Region.step, Atom.isWhitespace, Atom.isWord, Region.emit]
  · exact .word (by decide)
  · simpa using declaration.before.stops _
  · exact .mark (.inr rfl) rfl
  · exact .mark (.inr rfl) rfl

end Layout

theorem Layout.accepts (layout : Layout) :
    ∃ final : Region, final.mayEnd = true ∧ Accepts .opening layout.stretches final [] := by
  induction layout with
  | declaration gap declaration rest ih =>
    obtain ⟨final, may, accepts⟩ := ih
    refine ⟨final, may, .cons .opening (.gap gap ?_ rfl) <| .append .opening declaration.accepts accepts⟩
    exact .word (by decide)
  | pattern gap body after =>
    refine ⟨.complete, rfl, .cons .opening (.gap gap ?_ rfl) <| .cons (.pattern .plain none) (.mark rfl fun _ => rfl) <|
      .append .complete (body.accepts rfl) (.gap after (stops_nil _) rfl)⟩
    exact .mark (.inr rfl) rfl
  | selection gap before first rest =>
    refine ⟨.nextVariant, rfl, .cons .opening (.gap gap ?_ rfl) <|
      .cons .firstSelector (.word (Nmtoken.filled ⟨_, rfl⟩) (Nmtoken.ofKind ⟨_, rfl⟩) ?_ fun _ => ?_) <|
      .cons .firstSelector (.gap before ?_ rfl) <|
      .append .nextSelector (first.accepts_braced .selector fun _ => rfl) rest.accepts⟩
    · exact .word (by decide)
    · simpa [Placeholder.stretches] using before.stops_mark _ rfl
    · simp [Region.step, Atom.isWhitespace, Atom.isWord, Region.emit]
    · exact .mark (.inr rfl) rfl

/-- The tokens of a source are complete exactly if it has a layout, and then they are the tokens of the layout. -/
theorem complete_eq_ok_iff_layout {source : List Char} {tokens : List Token} :
    (TokenStream.ofChars source).complete = .ok tokens ↔
      ∃ layout : Layout, layout.chars = source ∧ layout.tokens = tokens := by
  rw [complete_eq_ok]
  constructor
  · intro reads
    obtain ⟨layout, leads⟩ := Layout.of_reads reads
    obtain ⟨_, _, rfl, rfl, rfl, rfl⟩ := leads_iff.1 leads
    exact ⟨layout, by simp [Layout.chars], by simp [Layout.tokens]⟩
  · rintro ⟨layout, rfl, rfl⟩
    obtain ⟨final, may, accepts⟩ := layout.accepts
    simpa [Layout.chars, Layout.tokens] using accepts (reads_nil.2 ⟨may, rfl⟩)

end Localizable
