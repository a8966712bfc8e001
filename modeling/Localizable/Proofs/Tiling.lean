import Localizable.Proofs.LayoutOfTokens

/-!
# Tokens tile their source

The tokens of a source, or of a source with a fault the tokens in front of it,
lie in it one behind the other. Each says what it is written as: its value can be
had back from its bytes (`TokenKind.valueOf?`), and the bytes between tokens are
whitespace. `TokenStream.tiles` says so of every source.

It is shown by what a region holds back of what it has read: nothing, or the
signs of a text or a literal that goes on (`Region.Holds`). Every step keeps the
characters that it reads, in tokens, in a gap or in what it holds (`Keeps`).
-/

namespace Localizable
open Text

/-- The character that a byte of a text belongs to. -/
def charAtByte : List Char → Nat → Option Char
  | [], _ => none
  | c :: rest, offset => if offset < c.utf8Size then some c else charAtByte rest (offset - c.utf8Size)

/-- A character of the text starts at the offset, or the text ends there. -/
def Boundary (source : List Char) (offset : Nat) : Prop :=
  ∃ front back, source = front ++ back ∧ byteWidth front = offset

theorem charAtByte_append_left {left : List Char} {offset : Nat} (inside : offset < byteWidth left)
    (right : List Char) : charAtByte (left ++ right) offset = charAtByte left offset := by
  induction left generalizing offset with
  | nil => exact absurd inside (Nat.not_lt_zero _)
  | cons c rest ih =>
    rw [List.cons_append, charAtByte, charAtByte]
    split
    · rfl
    · exact ih (by simp only [byteWidth] at inside; omega)

theorem charAtByte_append_right (left right : List Char) (offset : Nat) :
    charAtByte (left ++ right) (byteWidth left + offset) = charAtByte right offset := by
  induction left with
  | nil => rw [List.nil_append, byteWidth, Nat.zero_add]
  | cons c rest ih =>
    have behind : c.utf8Size + byteWidth rest + offset - c.utf8Size = byteWidth rest + offset := by omega
    rw [List.cons_append, charAtByte, byteWidth, if_neg (by omega), behind, ih]

theorem exists_charAtByte {text : List Char} {offset : Nat} (inside : offset < byteWidth text) :
    ∃ c ∈ text, charAtByte text offset = some c := by
  induction text generalizing offset with
  | nil => exact absurd inside (Nat.not_lt_zero _)
  | cons c rest ih =>
    rw [charAtByte]
    split
    · exact ⟨c, by simp, rfl⟩
    · obtain ⟨d, member, found⟩ := @ih (offset - c.utf8Size) (by simp only [byteWidth] at inside; omega)
      exact ⟨d, by simp [member], found⟩

theorem takeBytes_byteWidth (left right : List Char) : takeBytes (byteWidth left) (left ++ right) = left := by
  induction left with
  | nil =>
    cases right with
    | nil => rfl
    | cons c rest =>
      have wide := c.utf8Size_pos
      rw [List.nil_append, byteWidth, takeBytes, if_neg (by omega)]
  | cons c rest ih =>
    rw [List.cons_append, byteWidth, takeBytes, if_pos (Nat.le_add_right ..), Nat.add_sub_cancel_left, ih]

theorem dropBytes_byteWidth (left right : List Char) : dropBytes (byteWidth left) (left ++ right) = right := by
  have whole := takeBytes_append_dropBytes (byteWidth left) (left ++ right)
  rw [takeBytes_byteWidth] at whole
  exact List.append_cancel_left whole

/-- A slice between two boundaries is what stands there. -/
theorem slice_append (front written back : List Char) :
    slice (front ++ (written ++ back)) ⟨byteWidth front, byteWidth front + byteWidth written⟩ = written := by
  have stop : takeBytes (byteWidth front + byteWidth written) (front ++ (written ++ back)) = front ++ written := by
    rw [← byteWidth_append, ← List.append_assoc, takeBytes_byteWidth]
  simp only [slice, floorBoundary, takeBytes_byteWidth, dropBytes_byteWidth, stop, byteWidth_append,
    Nat.add_sub_cancel_left]

theorem byteWidth_pos {text : List Char} (filled : text ≠ []) : 0 < byteWidth text := by
  obtain ⟨c, rest, rfl⟩ := List.exists_cons_of_ne_nil filled
  have wide := c.utf8Size_pos
  simp only [byteWidth]
  omega

/-- A text without the backslashes of its escapes. -/
def unescape : List Char → List Char
  | [] => []
  | '\\' :: c :: rest => c :: unescape rest
  | c :: rest => c :: unescape rest

/-- What stands behind a sign. -/
def behind? (sign : Char) : List Char → Option (List Char)
  | [] => none
  | c :: rest => if c = sign then some rest else none

/-- What stands between parentheses. -/
def inParentheses? (written : List Char) : Option (List Char) :=
  (behind? '(' written).bind fun rest => if rest.getLast? = some ')' then some rest.dropLast else none

/-- The value of a token that is written like this. -/
def TokenKind.valueOf? (kind : TokenKind) (written : List Char) : Option (List Char) :=
  match kind with
  | .variableName => behind? '$' written
  | .functionName => behind? ':' written
  | .markupStart => behind? '+' written
  | .markupEnd => behind? '-' written
  | .text => some (unescape written)
  | .literal => (inParentheses? written).map unescape
  | .keyword | .punctuator | .name | .nmtoken | .asterisk => some written

theorem unescape_cons {c : Char} (backslash : c ≠ '\\') (rest : List Char) :
    unescape (c :: rest) = c :: unescape rest := by
  rw [unescape]
  rintro d later rfl
  exact absurd rfl backslash

@[simp] theorem unescape_signs {ends brackets : List Char} (signs : List (Layout.Sign ends brackets)) :
    unescape (signs.flatMap Layout.Sign.chars) = signs.map Layout.Sign.value := by
  induction signs with
  | nil => rfl
  | cons sign rest ih =>
    rw [List.flatMap_cons, List.map_cons, ← ih]
    cases sign with
    | bare c plain => exact unescape_cons plain.1 _
    | escaped c special => rfl

theorem inParentheses?_signs (signs : List Layout.LiteralSign) :
    inParentheses? ('(' :: signs.flatMap Layout.Sign.chars ++ [')']) = some (signs.flatMap Layout.Sign.chars) := by
  simp [inParentheses?, behind?]

/-- A gap is whitespace, and a token is written as something and has its value from that. -/
def Stretch.Faithful : Stretch → Prop
  | .gap chars => ∀ c ∈ chars, isSpacing c = true
  | .token kind value chars => chars ≠ [] ∧ kind.valueOf? chars = some value

theorem faithful_mark (c : Char) : (Stretch.mark c).Faithful := ⟨List.cons_ne_nil _ _, rfl⟩

theorem faithful_textStretches (signs : List Layout.TextSign) :
    ∀ stretch ∈ Layout.textStretches signs, stretch.Faithful := by
  cases signs with
  | nil => simp [Layout.textStretches]
  | cons sign rest =>
    simp only [Layout.textStretches, List.mem_singleton, forall_eq]
    refine ⟨?_, congrArg some (unescape_signs _)⟩
    cases sign <;> simp [Layout.Sign.chars]

theorem faithful_literalStretch (signs : List Layout.LiteralSign) : (Layout.literalStretch signs).Faithful :=
  ⟨by simp, by rw [TokenKind.valueOf?, inParentheses?_signs, Option.map_some, unescape_signs]⟩

/-! ## What a region holds back -/

namespace Region

/-- Nothing is read that belongs to a token to come. -/
def fresh : Region → Bool
  | .pattern _ (some _) => false
  | .literal .. => false
  | _ => true

theorem fresh_afterExpression (seat : Seat) : (afterExpression seat).fresh = true := by cases seat <;> rfl

theorem fresh_afterPattern (seat : Seat) : (afterPattern seat).fresh = true := by cases seat <;> rfl

theorem fresh_afterLiteral (role : LiteralRole) : (afterLiteral role).fresh = true := by cases role <;> rfl

/-- The characters from an offset on that are read and belong to a token to come. -/
inductive Holds : Region → Nat → List Char → Prop
  | nothing {region : Region} {start : Nat} (fresh : region.fresh = true) : Holds region start []
  | text {seat : Seat} {start : Nat} (signs : List Layout.TextSign) :
    Holds (.pattern seat (Gathers.gathered growPending none start signs)) start (signs.flatMap Layout.Sign.chars)
  | literal {role : LiteralRole} {start : Nat} (signs : List Layout.LiteralSign) :
    Holds (.literal role start (signs.map Layout.Sign.value)) start ('(' :: signs.flatMap Layout.Sign.chars)

/-- Where the source may end nothing is held back. -/
theorem Holds.eq_nil {region : Region} {start : Nat} {held : List Char} (holds : region.Holds start held)
    (may : region.mayEnd = true) : held = [] := by
  cases holds with
  | nothing fresh => rfl
  | text signs => cases may
  | literal signs => cases may

/-- Characters from an offset on stand in tokens that are completed, in gaps, or are held back. -/
def Passes (start : Nat) (chars : List Char) (next : Region) (own : List Token) : Prop :=
  ∃ stretches held, chars = charsOf stretches ++ held ∧ own = tokensOf start stretches ∧
    (∀ stretch ∈ stretches, stretch.Faithful) ∧ next.Holds (start + byteWidth (charsOf stretches)) held

/-- A step, if it is taken, passes on the characters of its atom. -/
def Keeps (atom : Atom) (step : Step) : Prop :=
  ∀ next own, step = .ok (next, own) → Passes atom.span.start atom.chars next own

namespace Keeps

theorem fault {atom : Atom} {fault : LexFault} : Keeps atom (.error fault) := by
  rintro _ _ ⟨⟩

theorem ite {atom : Atom} {test : Prop} [Decidable test] {yes no : Step} (first : test → Keeps atom yes)
    (second : ¬ test → Keeps atom no) : Keeps atom (if test then yes else no) := by
  split
  next passed => exact first passed
  next failed => exact second failed

variable {piece : Piece} {rest : List Char} {start : Nat} {next : Region}

theorem token (heads : Heads piece rest) {kind : TokenKind} {value : List Char}
    (written : kind.valueOf? piece.chars = some value) (fresh : next.fresh = true) :
    Keeps (piece.at start) (.ok (next, [⟨kind, value, (piece.at start).span⟩])) := by
  rintro _ _ ⟨⟩
  refine ⟨[.token kind value piece.chars], [], by simp [Piece.at], rfl, ?_, .nothing fresh⟩
  simpa [Stretch.Faithful] using ⟨heads.filled, written⟩

theorem skip (heads : Heads piece rest) (fresh : next.fresh = true)
    (blank : (piece.at start).isWhitespace = true) : Keeps (piece.at start) (Region.skip next) := by
  rintro _ _ ⟨⟩
  obtain ⟨gap, chars, _⟩ := heads.isWhitespace blank
  refine ⟨[gap.stretch], [], by simp [Piece.at, chars], rfl, ?_, .nothing fresh⟩
  simpa [Stretch.Faithful, Layout.Gap.stretch] using gap.blank

/-- An opening parenthesis is held back until the literal closes. -/
theorem opened {role : LiteralRole} (mark : (piece.at start).isPunctuator '(' = true) :
    Keeps (piece.at start) (Region.skip (.literal role (piece.at start).span.start [])) := by
  rintro _ _ ⟨⟩
  exact ⟨[], ['('], Piece.chars_of_isPunctuator mark, rfl, by simp, .literal []⟩

theorem mark (heads : Heads piece rest) {c : Char} {fault : LexFault} (fresh : next.fresh = true) :
    Keeps (piece.at start) (Region.mark (piece.at start) c fault next) :=
  .ite (fun _ => .token heads rfl fresh) fun _ => .fault

theorem keyword (heads : Heads piece rest) {word : String} {fault : LexFault} (fresh : next.fresh = true) :
    Keeps (piece.at start) (Region.keyword (piece.at start) word fault next) :=
  .ite (fun _ => .token heads rfl fresh) fun _ => .fault

theorem gap (heads : Heads piece rest) {fault : LexFault} (fresh : next.fresh = true) :
    Keeps (piece.at start) (Region.gap (piece.at start) fault next) :=
  .ite (.skip heads fresh) fun _ => .fault

theorem bareToken (heads : Heads piece rest) (fresh : next.fresh = true) :
    Keeps (piece.at start) (Region.bareToken (piece.at start) next) :=
  .ite (fun _ => .token heads rfl fresh) fun _ => .fault

/-- The token of a word of a sigil and a name leaves out the sigil. -/
theorem sigilName (heads : Heads piece rest) {sigil : Char} {kind : TokenKind} {fault : LexFault}
    (leaves : kind.valueOf? = behind? sigil) (fresh : next.fresh = true) :
    Keeps (piece.at start) (Region.sigilName (piece.at start) sigil kind fault next) := by
  unfold Region.sigilName
  cases found : nameBehind sigil (piece.at start) with
  | none => exact .fault
  | some name =>
    refine .token heads ?_ fresh
    unfold nameBehind at found
    cases chars : piece.chars with
    | nil => exact absurd chars heads.filled
    | cons c behind =>
      simp only [Piece.at, chars] at found
      split at found
      next named =>
        cases found
        rw [leaves, behind?, if_pos named.2.1]
      next => cases found

theorem variableName (heads : Heads piece rest) (fresh : next.fresh = true) :
    Keeps (piece.at start) (Region.variableName (piece.at start) next) := .sigilName heads rfl fresh

theorem functionName (heads : Heads piece rest) (fresh : next.fresh = true) :
    Keeps (piece.at start) (Region.functionName (piece.at start) next) := .sigilName heads rfl fresh

theorem keyStep (heads : Heads piece rest) : Keeps (piece.at start) (Region.keyStep (piece.at start)) :=
  .ite (fun _ => .bareToken heads rfl) fun _ =>
    .ite (fun _ => .token heads rfl rfl) fun _ => .ite .opened fun _ => .fault

theorem expressionStep (heads : Heads piece rest) (seat : Seat) :
    Keeps (piece.at start) (Region.expressionStep seat (piece.at start)) := by
  refine .ite (.skip heads rfl) fun _ => .ite .opened fun _ => ?_
  split
  · exact .functionName heads rfl
  · exact .sigilName heads rfl rfl
  · exact .sigilName heads rfl rfl
  · exact .variableName heads rfl
  · exact .fault

end Keeps

end Region

theorem exists_bareSigns {ends brackets : List Char} {chars : List Char}
    (plain : ∀ c ∈ chars, c ≠ '\\' ∧ c ∉ ends) : ∃ signs : List (Layout.Sign ends brackets),
      signs.map Layout.Sign.value = chars ∧ signs.flatMap Layout.Sign.chars = chars := by
  induction chars with
  | nil => exact ⟨[], rfl, rfl⟩
  | cons c rest ih =>
    obtain ⟨own, others⟩ := List.forall_mem_cons.1 plain
    obtain ⟨signs, values, chars⟩ := ih others
    exact ⟨.bare c own :: signs, congrArg _ values, congrArg _ chars⟩

namespace Gathers

variable {σ : Type} {region : σ → Region} {grow : σ → List Char → Span → σ} {ends brackets : List Char}

/-- An atom that does not end what is gathered is signs of it. -/
theorem exists_signs_of_step (gathers : Gathers region grow ends brackets) {state : σ} {piece : Piece}
    {rest : List Char} (heads : Heads piece rest) {offset : Nat}
    (goes : ∀ c ∈ ends, (piece.at offset).isPunctuator c = false) {next : Region} {own : List Token}
    (taken : (region state).step (piece.at offset) = .ok (next, own)) :
    ∃ signs : List (Layout.Sign ends brackets), signs.flatMap Layout.Sign.chars = piece.chars ∧ own = [] ∧
      next = region (grow state (signs.map Layout.Sign.value) (piece.at offset).span) := by
  have bare : piece.kind ≠ .escape → (∀ c ∈ piece.chars, c ≠ '\\' ∧ c ∉ ends) →
      ∃ signs : List (Layout.Sign ends brackets), signs.flatMap Layout.Sign.chars = piece.chars ∧ own = [] ∧
        next = region (grow state (signs.map Layout.Sign.value) (piece.at offset).span) := by
    intro escape plain
    rw [gathers.bare state _ escape goes] at taken
    cases taken
    obtain ⟨signs, values, chars⟩ := @exists_bareSigns ends brackets _ plain
    exact ⟨signs, chars, rfl, by rw [values]; rfl⟩
  cases heads with
  | run joins filled same stops =>
    refine bare (by rcases joins with rfl | rfl <;> simp) fun c member => ⟨(same c member).1, fun ended => ?_⟩
    obtain rfl := (same c member).unique (ofKind_punctuator.2 (gathers.marks c ended))
    rcases joins with word | whitespace
    · cases word
    · cases whitespace
  | @punctuator c _ mark =>
    refine bare (by simp) fun d member => ?_
    obtain rfl := List.mem_singleton.1 member
    refine ⟨(ofKind_punctuator.2 mark).1, fun ended => ?_⟩
    have stays := goes d ended
    simp [Atom.isPunctuator, Piece.at] at stays
  | @escape c _ =>
    rw [gathers.escape state _ rfl] at taken
    by_cases special : c = '\\' ∨ c ∈ brackets
    · simp only [Piece.at, Region.escaped?, if_pos special] at taken
      cases taken
      exact ⟨[.escaped c special], rfl, rfl, rfl⟩
    · simp only [Piece.at, Region.escaped?, if_neg special] at taken
      cases taken

/-- Signs that are gathered go on with more of them. -/
theorem gathered_append (gathers : Gathers region grow ends brackets) (state : σ) (offset : Nat)
    (signs more : List (Layout.Sign ends brackets)) (filled : more ≠ []) :
    grow (gathered grow state offset signs) (more.map Layout.Sign.value)
        ⟨offset + byteWidth (signs.flatMap Layout.Sign.chars),
          offset + byteWidth (signs.flatMap Layout.Sign.chars) + byteWidth (more.flatMap Layout.Sign.chars)⟩ =
      gathered grow state offset (signs ++ more) := by
  obtain ⟨second, others, rfl⟩ := List.exists_cons_of_ne_nil filled
  cases signs with
  | nil => simp [gathered, byteWidth]
  | cons sign rest =>
    rw [gathered, gathers.assoc, List.cons_append, gathered, ← List.cons_append, List.map_append, List.flatMap_append,
      byteWidth_append, Nat.add_assoc]

end Gathers

namespace Region

theorem passes_pattern {seat : Seat} {start : Nat} {signs : List Layout.TextSign} {piece : Piece} {rest : List Char}
    (heads : Heads piece rest) {next : Region} {own : List Token}
    (taken : (Region.pattern seat (Gathers.gathered growPending none start signs)).step
      (piece.at (start + byteWidth (signs.flatMap Layout.Sign.chars))) = .ok (next, own)) :
    Passes start (signs.flatMap Layout.Sign.chars ++ piece.chars) next own := by
  by_cases braced : ∃ c ∈ ['{', '}'], (piece.at (start + byteWidth (signs.flatMap Layout.Sign.chars))).isPunctuator c
  · obtain ⟨c, brace, mark⟩ := braced
    obtain ⟨reached, fresh, brace⟩ : ∃ reached : Region, reached.fresh = true ∧
        (c = '}' ∧ reached = afterPattern seat ∨ c = '{' ∧ reached = .expression seat) := by
      rcases List.mem_cons.1 brace with rfl | last
      · exact ⟨_, rfl, .inr ⟨rfl, rfl⟩⟩
      · exact ⟨_, fresh_afterPattern seat, .inl ⟨List.mem_singleton.1 last, rfl⟩⟩
    obtain rfl : piece = ⟨.punctuator, [c]⟩ := by
      simp only [Atom.isPunctuator, Piece.at, Bool.and_eq_true, beq_iff_eq] at mark
      cases piece
      simp_all
    rw [Piece.at, step_brace signs brace] at taken
    cases taken
    refine ⟨Layout.textStretches signs ++ [.mark c], [], by simp [Layout.charsOf_textStretches], ?_, ?_,
      .nothing fresh⟩
    · rw [tokensOf_append, Layout.charsOf_textStretches]
      rfl
    · rintro stretch member
      rcases List.mem_append.1 member with text | last
      · exact faithful_textStretches signs stretch text
      · rw [List.mem_singleton.1 last]
        exact faithful_mark c
  · obtain ⟨more, chars, rfl, rfl⟩ := (gathers_pattern seat).exists_signs_of_step heads
      (fun c brace => Bool.eq_false_iff.2 fun mark => braced ⟨c, brace, mark⟩) taken
    refine ⟨[], (signs ++ more).flatMap Layout.Sign.chars, by simp [chars], rfl, by simp, ?_⟩
    have filled : more ≠ [] := by
      rintro rfl
      exact heads.filled chars.symm
    rw [Piece.at, ← chars, (gathers_pattern seat).gathered_append none start signs more filled]
    exact .text (signs ++ more)

theorem passes_literal {role : LiteralRole} {start : Nat} {signs : List Layout.LiteralSign} {piece : Piece}
    {rest : List Char} (heads : Heads piece rest) {next : Region} {own : List Token}
    (taken : (Region.literal role start (signs.map Layout.Sign.value)).step
      (piece.at (start + byteWidth ('(' :: signs.flatMap Layout.Sign.chars))) = .ok (next, own)) :
    Passes start ('(' :: signs.flatMap Layout.Sign.chars ++ piece.chars) next own := by
  by_cases close : (piece.at (start + byteWidth ('(' :: signs.flatMap Layout.Sign.chars))).isPunctuator ')' = true
  · have chars := Piece.chars_of_isPunctuator close
    simp only [step, literalStep, close, if_true, Except.ok.injEq, Prod.mk.injEq] at taken
    obtain ⟨rfl, rfl⟩ := taken
    refine ⟨[Layout.literalStretch signs], [], by simp [chars, Layout.literalStretch], ?_, ?_,
      .nothing (fresh_afterLiteral role)⟩
    · rw [Layout.literalStretch, tokensOf, tokensOf_nil, byteWidth_append, ← Nat.add_assoc]
      simp only [Piece.at, chars]
    · simpa using faithful_literalStretch signs
  · obtain ⟨more, chars, rfl, rfl⟩ := (gathers_literal role start).exists_signs_of_step heads (by simpa using close)
      taken
    refine ⟨[], '(' :: (signs ++ more).flatMap Layout.Sign.chars, by simp [chars], rfl, by simp, ?_⟩
    rw [← List.map_append]
    exact .literal (signs ++ more)

/-- A region with nothing held back keeps what it reads. -/
theorem keeps_step {region : Region} (fresh : region.fresh = true) {piece : Piece} {rest : List Char}
    (heads : Heads piece rest) (start : Nat) : Keeps (piece.at start) (region.step (piece.at start)) := by
  cases region with
  | opening =>
    exact .ite (.skip heads rfl) fun _ => .ite (fun _ => .token heads rfl rfl) fun _ =>
      .ite (fun _ => .token heads rfl rfl) fun _ => .mark heads rfl
  | gapAfterLet => exact .gap heads rfl
  | declaredName => exact .variableName heads rfl
  | gapBeforeEquals => exact .gap heads rfl
  | declarationEquals => exact .mark heads rfl
  | gapAfterEquals => exact .gap heads rfl
  | declarationBrace => exact .mark heads rfl
  | firstSelector => exact .ite (.skip heads rfl) fun _ => .mark heads rfl
  | nextSelector =>
    exact .ite (.skip heads rfl) fun _ => .ite (fun _ => .token heads rfl rfl) fun _ => .keyword heads rfl
  | gapAfterWhen => exact .gap heads rfl
  | firstKey => exact .keyStep heads
  | behindKey => exact .ite (fun _ => .token heads rfl rfl) fun _ => .gap heads rfl
  | nextKey => exact .ite (fun _ => .token heads rfl rfl) fun _ => .keyStep heads
  | nextVariant => exact .ite (.skip heads rfl) fun _ => .keyword heads rfl
  | complete => exact .gap heads rfl
  | pattern seat pending =>
    cases pending with
    -- without text that is pending no signs have been gathered
    | none => exact fun next own taken => @passes_pattern seat start [] piece rest heads next own taken
    | some text => cases fresh
  | expression seat => exact .expressionStep heads seat
  | behindOperand seat => exact .ite (.skip heads rfl) fun _ => .mark heads (fresh_afterExpression seat)
  | function seat =>
    exact .ite (fun _ => .token heads rfl (fresh_afterExpression seat)) fun _ => .functionName heads rfl
  | markupClose seat => exact .ite (.skip heads rfl) fun _ => .mark heads (fresh_afterExpression seat)
  | behindOption seat =>
    exact .ite (fun _ => .token heads rfl (fresh_afterExpression seat)) fun _ => .gap heads rfl
  | optionName seat =>
    exact .ite (fun _ => .token heads rfl (fresh_afterExpression seat)) fun _ =>
      .ite (fun _ => .token heads rfl rfl) fun _ => .fault
  | optionEquals seat => exact .ite (.skip heads rfl) fun _ => .mark heads rfl
  | optionValue seat =>
    exact .ite (.skip heads rfl) fun _ => .ite (fun _ => .variableName heads rfl) fun _ =>
      .ite .opened fun _ => .bareToken heads rfl
  | literal role start chars => cases fresh

/-- A step passes on the characters of its atom behind what is held back. -/
theorem Holds.step {region next : Region} {start : Nat} {held : List Char} (holds : region.Holds start held)
    {piece : Piece} {rest : List Char} (heads : Heads piece rest) {own : List Token}
    (taken : region.step (piece.at (start + byteWidth held)) = .ok (next, own)) :
    Passes start (held ++ piece.chars) next own := by
  cases holds with
  | nothing fresh => exact keeps_step fresh heads start next own taken
  | text signs => exact passes_pattern heads taken
  | literal signs => exact passes_literal heads taken

end Region

/-! ## Reading a whole source -/

/-- What is read from a region on, up to its end or a fault, are stretches behind what the region holds back. -/
theorem readFrom_passes (last : Region → Option (LexFault × Span)) {region : Region} {start : Nat}
    {held : List Char} (source : List Char) (holds : region.Holds start held)
    (ended : ∀ region, last region = none → region.mayEnd = true ∧ endsUnescaped source = false) :
    ∃ stretches rest, held ++ source = charsOf stretches ++ rest ∧
      (TokenStream.readFrom last region (Piece.locate (start + byteWidth held) (Piece.split source))).1 =
        tokensOf start stretches ∧
      (∀ stretch ∈ stretches, stretch.Faithful) ∧
      ((TokenStream.readFrom last region (Piece.locate (start + byteWidth held) (Piece.split source))).2 = none →
        rest = []) := by
  -- by induction on the length of the source; what a step leaves unfinished is held back by the region it leads to
  by_cases empty : source = []
  · subst empty
    refine ⟨[], held, by simp, rfl, by simp, fun sound => ?_⟩
    exact holds.eq_nil (ended region sound).1
  by_cases backslash : source = ['\\']
  · subst backslash
    refine ⟨[], held ++ ['\\'], by simp, rfl, by simp, fun sound => ?_⟩
    cases (ended region sound).2
  obtain ⟨piece, rest, rfl, heads⟩ := exists_heads empty backslash
  rw [heads.split, Piece.locate, TokenStream.readFrom]
  cases taken : region.step (piece.at (start + byteWidth held)) with
  | error fault =>
    refine ⟨[], held ++ (piece.chars ++ rest), by simp, ?_, by simp, fun sound => ?_⟩
    · rw [Piece.at] at taken
      rw [taken]
      rfl
    · rw [Piece.at] at taken
      rw [taken] at sound
      cases sound
  | ok result =>
    obtain ⟨next, own⟩ := result
    obtain ⟨front, kept, chars, rfl, faithful, keeps⟩ := holds.step heads taken
    have width : start + byteWidth (charsOf front) + byteWidth kept =
        start + byteWidth held + byteWidth piece.chars := by
      rw [Nat.add_assoc, ← byteWidth_append, ← chars, byteWidth_append, Nat.add_assoc]
    have shorter : rest.length < (piece.chars ++ rest).length := by
      have filled := List.length_pos_iff.2 heads.filled
      simp only [List.length_append]
      omega
    obtain ⟨back, left, onward, tokens, others, sound⟩ := readFrom_passes last rest keeps fun region none => by
      rw [← heads.endsUnescaped]
      exact ended region none
    rw [Piece.at] at taken
    rw [width] at tokens sound
    refine ⟨front ++ back, left, ?_, ?_, ?_, ?_⟩
    · rw [← List.append_assoc, chars, List.append_assoc, onward, charsOf_append, List.append_assoc]
    · rw [taken, tokensOf_append, ← tokens]
    · intro stretch member
      exact (List.mem_append.1 member).elim (faithful stretch) (others stretch)
    · rw [taken]
      exact sound
termination_by source.length

/-- The tokens of a source are those of stretches that it begins with, and that are all of it without a fault. -/
theorem TokenStream.exists_stretches (source : List Char) :
    ∃ stretches rest, source = charsOf stretches ++ rest ∧ (ofChars source).tokens = tokensOf 0 stretches ∧
      (∀ stretch ∈ stretches, stretch.Faithful) ∧ ((ofChars source).error = none → rest = []) := by
  have ended : ∀ region, faultAtEnd (Segmentation.ofChars source).unterminated (byteWidth source) region = none →
      region.mayEnd = true ∧ endsUnescaped source = false := by
    intro region none
    unfold faultAtEnd Segmentation.ofChars at none
    by_cases ends : endsUnescaped source = true
    · simp [ends] at none
    · simpa [ends] using none
  obtain ⟨stretches, rest, chars, tokens, faithful, sound⟩ :=
    readFrom_passes _ source (.nothing rfl : Region.opening.Holds 0 []) ended
  exact ⟨stretches, rest, chars, tokens, faithful, fun none => sound (Option.map_eq_none_iff.1 none)⟩

theorem exists_token_of_mem {offset : Nat} {stretches : List Stretch} {token : Token}
    (member : token ∈ tokensOf offset stretches) : ∃ left kind value chars right,
      stretches = left ++ .token kind value chars :: right ∧ token = ⟨kind, value,
        ⟨offset + byteWidth (charsOf left), offset + byteWidth (charsOf left) + byteWidth chars⟩⟩ := by
  induction stretches generalizing offset with
  | nil => cases member
  | cons stretch others ih =>
    have later : token ∈ tokensOf (offset + byteWidth stretch.chars) others → ∃ left kind value chars right,
        stretch :: others = left ++ .token kind value chars :: right ∧ token = ⟨kind, value,
          ⟨offset + byteWidth (charsOf left), offset + byteWidth (charsOf left) + byteWidth chars⟩⟩ := by
      intro member
      obtain ⟨left, kind, value, chars, right, rfl, rfl⟩ := ih member
      refine ⟨stretch :: left, kind, value, chars, right, rfl, ?_⟩
      rw [byteWidth_charsOf_cons, ← Nat.add_assoc]
    cases stretch with
    | gap chars => exact later member
    | token kind value chars =>
      rcases List.mem_cons.1 member with rfl | member
      · exact ⟨[], kind, value, chars, others, rfl, rfl⟩
      · exact later member

theorem mem_tokensOf (offset : Nat) (left right : List Stretch) (kind : TokenKind) (value chars : List Char) :
    ⟨kind, value, ⟨offset + byteWidth (charsOf left), offset + byteWidth (charsOf left) + byteWidth chars⟩⟩ ∈
      tokensOf offset (left ++ .token kind value chars :: right) := by
  rw [tokensOf_append, tokensOf]
  exact List.mem_append_right _ List.mem_cons_self

theorem tokensOf_apart (offset : Nat) (stretches : List Stretch) :
    (tokensOf offset stretches).Pairwise fun left right => left.span.stop ≤ right.span.start := by
  induction stretches generalizing offset with
  | nil => exact .nil
  | cons stretch others ih =>
    cases stretch with
    | gap chars => exact ih _
    | token kind value chars =>
      refine .cons (fun token member => ?_) (ih _)
      obtain ⟨left, _, _, _, _, _, rfl⟩ := exists_token_of_mem member
      exact Nat.le_add_right _ _

/-- Every byte of stretches is in one of them. -/
theorem exists_stretch_at {stretches : List Stretch} {offset : Nat} (inside : offset < byteWidth (charsOf stretches)) :
    ∃ left stretch right, stretches = left ++ stretch :: right ∧ byteWidth (charsOf left) ≤ offset ∧
      offset < byteWidth (charsOf left) + byteWidth stretch.chars := by
  induction stretches generalizing offset with
  | nil => exact absurd inside (Nat.not_lt_zero _)
  | cons stretch others ih =>
    rw [byteWidth_charsOf_cons] at inside
    by_cases own : offset < byteWidth stretch.chars
    · exact ⟨[], stretch, others, rfl, Nat.zero_le _, by simpa [byteWidth] using own⟩
    · obtain ⟨left, found, right, rfl, above, below⟩ := @ih (offset - byteWidth stretch.chars) (by omega)
      refine ⟨stretch :: left, found, right, rfl, ?_, ?_⟩ <;> rw [byteWidth_charsOf_cons] <;> omega

/-- Where the last of some tokens stops. -/
def endOf (tokens : List Token) : Nat :=
  match tokens.getLast? with
  | some token => token.span.stop
  | none => 0

theorem endOf_le {tokens : List Token} {limit : Nat} (within : ∀ token ∈ tokens, token.span.stop ≤ limit) :
    endOf tokens ≤ limit := by
  unfold endOf
  cases last : tokens.getLast? with
  | none => exact Nat.zero_le _
  | some token => exact within token (List.mem_of_getLast? last)

/-- Tokens stand in a source one behind the other, each with a value that is written there, and up to a limit there
is nothing else but whitespace. -/
structure Tiles (source : List Char) (limit : Nat) (tokens : List Token) : Prop where
  apart : tokens.Pairwise fun left right => left.span.stop ≤ right.span.start
  filled : ∀ token ∈ tokens, token.span.start < token.span.stop
  within : ∀ token ∈ tokens, token.span.stop ≤ byteWidth source
  boundaries : ∀ token ∈ tokens, Boundary source token.span.start ∧ Boundary source token.span.stop
  values : ∀ token ∈ tokens, token.kind.valueOf? (slice source token.span) = some token.chars
  blank : ∀ offset < limit, (∀ token ∈ tokens, ¬ (token.span.start ≤ offset ∧ offset < token.span.stop)) →
    ∃ c, charAtByte source offset = some c ∧ isSpacing c = true

theorem Tiles.mono {source : List Char} {limit less : Nat} {tokens : List Token} (tiles : Tiles source limit tokens)
    (below : less ≤ limit) : Tiles source less tokens :=
  { tiles with blank := fun offset inside => tiles.blank offset (Nat.lt_of_lt_of_le inside below) }

theorem tiles_of_stretches {stretches : List Stretch} (faithful : ∀ stretch ∈ stretches, stretch.Faithful)
    (rest : List Char) :
    Tiles (charsOf stretches ++ rest) (byteWidth (charsOf stretches)) (tokensOf 0 stretches) := by
  have parted : ∀ left stretch right, stretches = left ++ stretch :: right →
      charsOf stretches ++ rest = charsOf left ++ (stretch.chars ++ (charsOf right ++ rest)) := by
    rintro left stretch right rfl
    simp
  refine ⟨tokensOf_apart 0 stretches, ?_, ?_, ?_, ?_, ?_⟩
  · intro token member
    obtain ⟨left, kind, value, chars, right, same, rfl⟩ := exists_token_of_mem member
    have written := (faithful (.token kind value chars) (by simp [same])).1
    exact Nat.lt_add_of_pos_right (byteWidth_pos written)
  · intro token member
    obtain ⟨left, kind, value, chars, right, same, rfl⟩ := exists_token_of_mem member
    rw [parted left _ right same, byteWidth_append, byteWidth_append, Stretch.token_chars]
    dsimp only
    omega
  · intro token member
    obtain ⟨left, kind, value, chars, right, same, rfl⟩ := exists_token_of_mem member
    rw [parted left _ right same, Nat.zero_add]
    refine ⟨⟨_, _, rfl, rfl⟩, charsOf left ++ chars, charsOf right ++ rest, by simp, byteWidth_append ..⟩
  · intro token member
    obtain ⟨left, kind, value, chars, right, same, rfl⟩ := exists_token_of_mem member
    rw [parted left _ right same, Nat.zero_add, Stretch.token_chars, slice_append]
    exact (faithful (.token kind value chars) (by simp [same])).2
  · intro offset inside outside
    obtain ⟨left, stretch, right, same, above, below⟩ := exists_stretch_at inside
    have honest := faithful stretch (by simp [same])
    cases stretch with
    | token kind value chars =>
      have member := mem_tokensOf 0 left right kind value chars
      rw [← same] at member
      exact absurd ⟨by simpa using above, by simpa using below⟩ (outside _ member)
    | gap chars =>
      rw [Stretch.gap_chars] at below
      obtain ⟨behind, rfl⟩ := Nat.exists_eq_add_of_le above
      obtain ⟨c, member, found⟩ := @exists_charAtByte chars behind (by omega)
      refine ⟨c, ?_, honest c member⟩
      rw [parted left _ right same, charAtByte_append_right, Stretch.gap_chars, charAtByte_append_left (by omega),
        found]

namespace TokenStream

/-- The tokens of a source without a fault tile it, and those in front of a fault tile it up to the last of them. -/
theorem tiles (source : String) :
    ((ofSource source).error = none →
        Tiles source.toList (byteWidth source.toList) (ofSource source).tokens) ∧
      Tiles source.toList (endOf (ofSource source).tokens) (ofSource source).tokens := by
  obtain ⟨stretches, rest, chars, tokens, faithful, whole⟩ := exists_stretches source.toList
  have tiled := tiles_of_stretches faithful rest
  rw [← chars] at tiled
  rw [ofSource, tokens]
  constructor
  · intro sound
    have all : source.toList = charsOf stretches := by rw [chars, whole sound, List.append_nil]
    rwa [← all] at tiled
  · refine tiled.mono (endOf_le fun token member => ?_)
    obtain ⟨left, kind, value, own, right, rfl, rfl⟩ := exists_token_of_mem member
    simp only [charsOf_append, charsOf_cons, byteWidth_append, Stretch.token_chars]
    omega

/-- The lone brace is a fault, and the tokens in front of it stand where a character takes two bytes. -/
example : (ofSource "\x7bé \\\\\x7d \x7d").tokens.map (fun token => (token.value, token.span)) =
    [("\x7b", ⟨0, 1⟩), ("é \\", ⟨1, 6⟩), ("\x7d", ⟨6, 7⟩)] := by decide

end TokenStream

end Localizable
