import Localizable.Proofs.Tiling

/-!
# Tokens come out as a source is read

What a source begins with settles the tokens that end in it: sources that go on
differently give the same tokens up to where they part, and a fault in front of
that place is the same fault behind the same tokens (`TokenStream.append_streams`).

A step looks at its atom alone, and what it completes ends with that atom, or is a
text in front of a brace (`Region.step_ends`). Atoms inside of what two sources
share are atoms of both; only the last of them may go on, and nothing that it
completes ends before it does.
-/

namespace Localizable
open Text

namespace Region

/-- Text that is pending has been read up to an offset. -/
def ReadTo (offset : Nat) : Region → Prop
  | .pattern _ (some text) => text.span.stop = offset
  | _ => True

theorem readTo_of_fresh {region : Region} (fresh : region.fresh = true) (offset : Nat) : region.ReadTo offset := by
  unfold ReadTo
  split
  · cases fresh
  · trivial

/-- A step, if it is taken, leaves nothing of its atom unread, and its tokens end with the atom. -/
def EndsWith (atom : Atom) (step : Step) : Prop :=
  ∀ next own, step = .ok (next, own) →
    next.ReadTo atom.span.stop ∧ ∀ token ∈ own, token.span.stop = atom.span.stop

namespace EndsWith

variable {atom : Atom} {next : Region}

theorem fault {fault : LexFault} : EndsWith atom (.error fault) := by
  rintro _ _ ⟨⟩

theorem ite {test : Prop} [Decidable test] {yes no : Step} (first : EndsWith atom yes) (second : EndsWith atom no) :
    EndsWith atom (if test then yes else no) := by
  split
  · exact first
  · exact second

theorem token {kind : TokenKind} {value : List Char} {span : Span} (stop : span.stop = atom.span.stop)
    (fresh : next.fresh = true) : EndsWith atom (.ok (next, [⟨kind, value, span⟩])) := by
  rintro _ _ ⟨⟩
  exact ⟨readTo_of_fresh fresh _, by simpa using stop⟩

theorem emit {kind : TokenKind} (fresh : next.fresh = true) : EndsWith atom (Region.emit atom kind next) :=
  token rfl fresh

theorem skip (read : next.ReadTo atom.span.stop) : EndsWith atom (Region.skip next) := by
  rintro _ _ ⟨⟩
  exact ⟨read, by simp⟩

theorem mark {c : Char} {fault : LexFault} (fresh : next.fresh = true) :
    EndsWith atom (Region.mark atom c fault next) := .ite (.emit fresh) .fault

theorem keyword {word : String} {fault : LexFault} (fresh : next.fresh = true) :
    EndsWith atom (Region.keyword atom word fault next) := .ite (.emit fresh) .fault

theorem gap {fault : LexFault} (fresh : next.fresh = true) : EndsWith atom (Region.gap atom fault next) :=
  .ite (.skip (readTo_of_fresh fresh _)) .fault

theorem bareToken (fresh : next.fresh = true) : EndsWith atom (Region.bareToken atom next) :=
  .ite (.emit fresh) .fault

theorem sigilName {sigil : Char} {kind : TokenKind} {fault : LexFault} (fresh : next.fresh = true) :
    EndsWith atom (Region.sigilName atom sigil kind fault next) := by
  unfold Region.sigilName
  split
  · exact .token rfl fresh
  · exact .fault

theorem keyStep : EndsWith atom (Region.keyStep atom) :=
  .ite (.bareToken rfl) (.ite (.emit rfl) (.ite (.skip trivial) .fault))

theorem expressionStep (seat : Seat) : EndsWith atom (Region.expressionStep seat atom) := by
  refine .ite (.skip trivial) (.ite (.skip trivial) ?_)
  split
  · exact .sigilName rfl
  · exact .sigilName rfl
  · exact .sigilName rfl
  · exact .sigilName rfl
  · exact .fault

theorem literalStep (role : LiteralRole) (start : Nat) (chars : List Char) :
    EndsWith atom (Region.literalStep role start chars atom) := by
  refine .ite (.token rfl (fresh_afterLiteral role)) (.ite ?_ (.skip trivial))
  split
  · exact .skip trivial
  · exact .fault

end EndsWith

/-- Outside of a pattern the tokens of a step end with its atom. -/
theorem step_endsWith {region : Region} (outside : ∀ seat pending, region ≠ .pattern seat pending) (atom : Atom) :
    EndsWith atom (region.step atom) := by
  cases region with
  | opening => exact .ite (.skip trivial) (.ite (.emit rfl) (.ite (.emit rfl) (.mark rfl)))
  | gapAfterLet => exact .gap rfl
  | declaredName => exact .sigilName rfl
  | gapBeforeEquals => exact .gap rfl
  | declarationEquals => exact .mark rfl
  | gapAfterEquals => exact .gap rfl
  | declarationBrace => exact .mark rfl
  | firstSelector => exact .ite (.skip trivial) (.mark rfl)
  | nextSelector => exact .ite (.skip trivial) (.ite (.emit rfl) (.keyword rfl))
  | gapAfterWhen => exact .gap rfl
  | firstKey => exact .keyStep
  | behindKey => exact .ite (.emit rfl) (.gap rfl)
  | nextKey => exact .ite (.emit rfl) .keyStep
  | nextVariant => exact .ite (.skip trivial) (.keyword rfl)
  | complete => exact .gap rfl
  | pattern seat pending => exact absurd rfl (outside seat pending)
  | expression seat => exact .expressionStep seat
  | behindOperand seat => exact .ite (.skip trivial) (.mark (fresh_afterExpression seat))
  | function seat => exact .ite (.emit (fresh_afterExpression seat)) (.sigilName rfl)
  | markupClose seat => exact .ite (.skip trivial) (.mark (fresh_afterExpression seat))
  | behindOption seat => exact .ite (.emit (fresh_afterExpression seat)) (.gap rfl)
  | optionName seat => exact .ite (.emit (fresh_afterExpression seat)) (.ite (.emit rfl) .fault)
  | optionEquals seat => exact .ite (.skip trivial) (.mark rfl)
  | optionValue seat => exact .ite (.skip trivial) (.ite (.sigilName rfl) (.ite (.skip trivial) (.bareToken rfl)))
  | literal role start chars => exact .literalStep role start chars

/-- What goes on with a text in a pattern is read up to the end of its last atom. -/
theorem readTo_grown (seat : Seat) (pending : Option PendingText) (chars : List Char) (span : Span) :
    (Region.pattern seat (growPending pending chars span)).ReadTo span.stop := by
  cases pending <;> rfl

/-- The token of a text that is pending. -/
def pendingTokens : Option PendingText → List Token
  | some text => [⟨.text, text.chars, text.span⟩]
  | none => []

/-- A brace in a pattern is a token behind the text that is pending. -/
theorem step_at_brace {seat : Seat} {pending : Option PendingText} {atom : Atom} {c : Char} {next : Region}
    {own : List Token} (brace : c ∈ ['{', '}']) (mark : atom.isPunctuator c = true)
    (taken : (Region.pattern seat pending).step atom = .ok (next, own)) :
    next.fresh = true ∧ own = pendingTokens pending ++ [⟨.punctuator, atom.chars, atom.span⟩] := by
  change patternStep seat pending atom = _ at taken
  unfold patternStep at taken
  dsimp only at taken
  split at taken
  · cases taken
    exact ⟨fresh_afterPattern seat, by cases pending <;> rfl⟩
  next other =>
    have opening : atom.isPunctuator '{' = true := by
      rcases List.mem_cons.1 brace with rfl | last
      · exact mark
      · rw [List.mem_singleton.1 last] at mark
        exact absurd mark other
    rw [if_pos opening] at taken
    cases taken
    exact ⟨rfl, by cases pending <;> rfl⟩

/-- In a pattern a brace completes the text in front of it, and any other atom goes on with it. -/
theorem step_pattern_ends {seat : Seat} {pending : Option PendingText} {atom : Atom} {next : Region}
    {own : List Token} (read : (Region.pattern seat pending).ReadTo atom.span.start)
    (taken : (Region.pattern seat pending).step atom = .ok (next, own)) :
    next.ReadTo atom.span.stop ∧ ∀ token ∈ own, token.span.stop = atom.span.stop ∨
      atom.kind = .punctuator ∧ token.span.stop = atom.span.start := by
  by_cases braced : ∃ c ∈ ['{', '}'], atom.isPunctuator c = true
  · obtain ⟨c, brace, mark⟩ := braced
    obtain ⟨fresh, rfl⟩ := step_at_brace brace mark taken
    obtain ⟨kind, chars, span⟩ := atom
    have punctuator : kind = .punctuator := (Bool.and_eq_true_iff.1 mark).1 |> beq_iff_eq.1
    refine ⟨readTo_of_fresh fresh _, fun token member => ?_⟩
    rcases List.mem_append.1 member with text | last
    · cases pending with
      | none => cases text
      | some pending =>
        rw [List.mem_singleton.1 text]
        exact .inr ⟨punctuator, read⟩
    · rw [List.mem_singleton.1 last]
      exact .inl rfl
  · have goes : ∀ c ∈ ['{', '}'], atom.isPunctuator c = false :=
      fun c brace => Bool.eq_false_iff.2 fun mark => braced ⟨c, brace, mark⟩
    by_cases escape : atom.kind = .escape
    · rw [(gathers_pattern seat).escape pending atom escape] at taken
      split at taken
      · cases taken
        exact ⟨readTo_grown .., by simp⟩
      · cases taken
    · rw [(gathers_pattern seat).bare pending atom escape goes] at taken
      cases taken
      exact ⟨readTo_grown .., by simp⟩

/-- A step leaves nothing of its atom unread. Its tokens end with the atom, but for a text in front of a brace. -/
theorem step_ends {region next : Region} {atom : Atom} {own : List Token} (read : region.ReadTo atom.span.start)
    (taken : region.step atom = .ok (next, own)) :
    next.ReadTo atom.span.stop ∧ ∀ token ∈ own, token.span.stop = atom.span.stop ∨
      atom.kind = .punctuator ∧ token.span.stop = atom.span.start := by
  by_cases inside : ∃ seat pending, region = .pattern seat pending
  · obtain ⟨seat, pending, rfl⟩ := inside
    exact step_pattern_ends read taken
  · obtain ⟨reads, ends⟩ := step_endsWith (fun seat pending same => inside ⟨seat, pending, same⟩) atom next own taken
    exact ⟨reads, fun token member => .inl (ends token member)⟩

end Region

/-! ## What is read ends behind where it starts -/

namespace TokenStream

/-- What is read of a source whose first byte is at the offset. -/
def readOn (last : Region → Option (LexFault × Span)) (region : Region) (offset : Nat) (source : List Char) :
    List Token × Option (LexFault × Span) :=
  readFrom last region (Piece.locate offset (Piece.split source))

/-- The first piece is read on its own, and the rest from the region that it leads to. -/
theorem readOn_append {piece : Piece} {rest : List Char} (heads : Heads piece rest)
    (last : Region → Option (LexFault × Span)) (region : Region) (offset : Nat) :
    readOn last region offset (piece.chars ++ rest) =
      match region.step (piece.at offset) with
      | .error fault => ([], some (fault, (piece.at offset).span))
      | .ok (next, own) =>
        let outcome := readOn last next (offset + byteWidth piece.chars) rest
        (own ++ outcome.1, outcome.2) := by
  rw [readOn, heads.split, Piece.locate, readFrom]
  rfl

/-- Where no piece is left, or only a backslash that nothing follows, the region tells whether the source may end. -/
@[simp] theorem readOn_nil (last : Region → Option (LexFault × Span)) (region : Region) (offset : Nat) :
    readOn last region offset [] = ([], last region) := rfl

@[simp] theorem readOn_backslash (last : Region → Option (LexFault × Span)) (region : Region) (offset : Nat) :
    readOn last region offset ['\\'] = ([], last region) := rfl

end TokenStream

/-- All tokens that are read, and a fault that stops the reading, end at a limit or behind it. -/
structure Late (limit : Nat) (outcome : List Token × Option (LexFault × Span)) : Prop where
  tokens : ∀ token ∈ outcome.1, limit ≤ token.span.stop
  fault : ∀ fault ∈ outcome.2, limit ≤ fault.2.stop

section
open TokenStream

variable {last other : Region → Option (LexFault × Span)} {limit : Nat}

/-- What is read behind a limit is late, as the atoms follow one another. -/
theorem readOn_late (ended : ∀ region, ∀ fault ∈ last region, limit ≤ fault.2.stop) (source : List Char)
    {region : Region} {offset : Nat} (read : region.ReadTo offset) (behind : limit ≤ offset) :
    Late limit (readOn last region offset source) := by
  induction source using pieces_induction generalizing region offset with
  | empty => exact ⟨by simp, ended region⟩
  | backslash => exact ⟨by simp, ended region⟩
  | piece piece rest heads ih =>
    rw [readOn_append heads]
    cases taken : region.step (piece.at offset) with
    | error fault => exact ⟨by simp, by simp [Piece.at]; omega⟩
    | ok result =>
      obtain ⟨next, own⟩ := result
      obtain ⟨reads, ends⟩ := Region.step_ends read taken
      obtain ⟨later, fault⟩ := ih reads (by simp only [Piece.at]; omega)
      refine ⟨fun token member => ?_, fault⟩
      rcases List.mem_append.1 member with front | back
      · have ends := ends token front
        simp only [Piece.at] at ends
        omega
      · exact later token back

/-! ## What sources share -/

/-- Characters that belong to one piece, which may go on behind them. -/
def Unfinished (chars : List Char) : Prop :=
  chars = ['\\'] ∨ ∃ kind, (kind = .word ∨ kind = .whitespace) ∧ ∀ c ∈ chars, OfKind kind c

/-- The first piece of a text is the same whatever follows the text, or else it is all of the text and may go on. -/
theorem exists_heads_or_unfinished {shared : List Char} (filled : shared ≠ []) :
    (∃ piece behind, shared = piece.chars ++ behind ∧ ∀ rest, Heads piece (behind ++ rest)) ∨ Unfinished shared := by
  by_cases backslash : shared = ['\\']
  · exact .inr (.inl backslash)
  obtain ⟨piece, behind, rfl, heads⟩ := exists_heads filled backslash
  cases heads with
  | punctuator mark => exact .inl ⟨_, behind, rfl, fun _ => .punctuator mark⟩
  | escape => exact .inl ⟨_, behind, rfl, fun _ => .escape⟩
  | @run kind chars _ joins occupied same stops =>
    cases behind with
    | nil => exact .inr (.inr ⟨kind, joins, by simpa using same⟩)
    | cons c others =>
      rw [stops_cons] at stops
      exact .inl ⟨_, c :: others, rfl, fun rest => .run joins occupied same (stops_cons.2 stops)⟩

/-- A piece that goes on with unfinished characters takes all of them, and is no punctuation. -/
theorem Unfinished.covered {shared rest later : List Char} (unfinished : Unfinished shared) (filled : shared ≠ [])
    {piece : Piece} (heads : Heads piece later) (same : shared ++ rest = piece.chars ++ later) :
    piece.kind ≠ .punctuator ∧ byteWidth shared ≤ byteWidth piece.chars := by
  obtain ⟨c, others, rfl⟩ := List.exists_cons_of_ne_nil filled
  -- the piece is told by the character that both begin with
  have first : piece.chars.head? = some c := by
    obtain ⟨d, more, chars⟩ := List.exists_cons_of_ne_nil heads.filled
    rw [chars] at same ⊢
    exact congrArg some (List.cons.inj same).1.symm
  cases heads with
  | punctuator mark =>
    obtain rfl := Option.some.inj first
    obtain ⟨backslash, ofKind⟩ := ofKind_punctuator.2 mark
    rcases unfinished with whole | ⟨kind, joins, alike⟩
    · exact absurd (List.cons.inj whole).1 backslash
    · obtain rfl := (alike _ List.mem_cons_self).unique ⟨backslash, ofKind⟩
      simp at joins
  | escape =>
    obtain rfl := Option.some.inj first
    rcases unfinished with whole | ⟨kind, joins, alike⟩
    · rw [whole]
      exact ⟨by simp, by simp [byteWidth]⟩
    · exact absurd rfl (alike _ List.mem_cons_self).1
  | @run kind chars _ joins occupied alike stops =>
    refine ⟨by rcases joins with rfl | rfl <;> simp, ?_⟩
    have own : OfKind kind c := alike c (List.mem_of_mem_head? first)
    rcases unfinished with whole | ⟨other, _, shared⟩
    · exact absurd (List.cons.inj whole).1 own.1
    · obtain rfl := own.unique (shared c List.mem_cons_self)
      rcases List.append_eq_append_iff.1 same with ⟨more, longer, _⟩ | ⟨beyond, shorter, behind⟩
      · rw [longer, byteWidth_append]
        exact Nat.le_add_right ..
      · cases beyond with
        | nil => rw [shorter, List.append_nil]
        | cons d left =>
          rw [behind, List.cons_append, stops_cons] at stops
          exact absurd (shared d (by simp [shorter])) stops

theorem Unfinished.readOn_late {shared : List Char} (unfinished : Unfinished shared) (filled : shared ≠ [])
    {region : Region} {offset : Nat} (read : region.ReadTo offset)
    (ended : ∀ region, ∀ fault ∈ last region, offset + byteWidth shared ≤ fault.2.stop) (rest : List Char) :
    Late (offset + byteWidth shared) (readOn last region offset (shared ++ rest)) := by
  by_cases backslash : shared ++ rest = ['\\']
  · rw [backslash]
    exact ⟨by simp, ended region⟩
  obtain ⟨piece, later, same, heads⟩ := exists_heads (List.append_ne_nil_of_left_ne_nil filled rest) backslash
  obtain ⟨kind, covered⟩ := unfinished.covered filled heads same
  rw [same, readOn_append heads]
  cases taken : region.step (piece.at offset) with
  | error fault => exact ⟨by simp, by simpa [Piece.at] using covered⟩
  | ok result =>
    obtain ⟨next, own⟩ := result
    obtain ⟨reads, ends⟩ := Region.step_ends read taken
    have behind : offset + byteWidth shared ≤ (piece.at offset).span.stop := Nat.add_le_add_left covered offset
    obtain ⟨tokens, fault⟩ := Localizable.readOn_late ended later reads behind
    refine ⟨fun token member => ?_, fault⟩
    rcases List.mem_append.1 member with front | back
    · rcases ends token front with ends | ⟨punctuator, _⟩
      · rwa [ends]
      · exact absurd punctuator kind
    · exact tokens token back

/-- Two outcomes cannot be told apart by what ends in front of a limit. -/
structure SameBefore (limit : Nat) (left right : List Token × Option (LexFault × Span)) : Prop where
  tokens : left.1.filter (fun token => token.span.stop < limit) = right.1.filter fun token => token.span.stop < limit
  fault : ∀ fault ∈ left.2, fault.2.stop < limit → right = left

theorem Late.sameBefore {left right : List Token × Option (LexFault × Span)} (first : Late limit left)
    (second : Late limit right) : SameBefore limit left right := by
  have none : ∀ outcome, Late limit outcome → outcome.1.filter (fun token => token.span.stop < limit) = [] := by
    intro outcome late
    rw [List.filter_eq_nil_iff]
    intro token member
    have := late.tokens token member
    simpa using this
  refine ⟨by rw [none left first, none right second], fun fault found before => ?_⟩
  exact absurd (first.fault fault found) (Nat.not_le.2 before)

theorem SameBefore.behind {left right : List Token × Option (LexFault × Span)} (same : SameBefore limit left right)
    (own : List Token) : SameBefore limit (own ++ left.1, left.2) (own ++ right.1, right.2) := by
  refine ⟨by rw [List.filter_append, List.filter_append, same.tokens], fun fault found before => ?_⟩
  rw [same.fault fault found before]

/-- Sources are read alike up to where they part. -/
theorem readOn_sameBefore (shared left right : List Char) {region : Region} {offset : Nat}
    (read : region.ReadTo offset)
    (ended : ∀ region, ∀ fault ∈ last region, offset + byteWidth shared ≤ fault.2.stop)
    (others : ∀ region, ∀ fault ∈ other region, offset + byteWidth shared ≤ fault.2.stop) :
    SameBefore (offset + byteWidth shared) (readOn last region offset (shared ++ left))
      (readOn other region offset (shared ++ right)) := by
  by_cases empty : shared = []
  · subst empty
    exact (readOn_late ended left read (Nat.le_refl _)).sameBefore (readOn_late others right read (Nat.le_refl _))
  rcases exists_heads_or_unfinished empty with ⟨piece, behind, rfl, heads⟩ | unfinished
  · rw [List.append_assoc, List.append_assoc, readOn_append (heads left), readOn_append (heads right)]
    cases taken : region.step (piece.at offset) with
    | error fault => exact ⟨rfl, fun _ _ _ => rfl⟩
    | ok result =>
      obtain ⟨next, own⟩ := result
      have limit : offset + byteWidth (piece.chars ++ behind) = offset + byteWidth piece.chars + byteWidth behind := by
        rw [byteWidth_append, Nat.add_assoc]
      have shorter : behind.length < (piece.chars ++ behind).length := by
        have filled := List.length_pos_iff.2 (heads []).filled
        simp only [List.length_append]
        omega
      rw [limit] at ended others ⊢
      have later := readOn_sameBefore behind left right (Region.step_ends read taken).1 ended others
      exact later.behind own
  · exact (unfinished.readOn_late empty read ended left).sameBefore (unfinished.readOn_late empty read others right)
termination_by shared.length

end

namespace TokenStream

/-- What is read of a whole source. -/
def outcomeOf (source : List Char) : List Token × Option (LexFault × Span) :=
  readOn (faultAtEnd (Segmentation.ofChars source).unterminated (byteWidth source)) .opening 0 source

theorem ofChars_tokens (source : List Char) : (ofChars source).tokens = (outcomeOf source).1 := rfl

theorem ofChars_error (source : List Char) :
    (ofChars source).error = (outcomeOf source).2.map fun fault => .quote fault.1 fault.2 source := rfl

/-- What is wrong at the end of a source is found at its last byte. -/
theorem faultAtEnd_stop {source : List Char} {region : Region} {fault : LexFault × Span}
    (found : fault ∈ faultAtEnd (Segmentation.ofChars source).unterminated (byteWidth source) region) :
    fault.2.stop = byteWidth source := by
  unfold faultAtEnd Segmentation.ofChars at found
  by_cases ends : endsUnescaped source = true
  · simp only [ends, if_true, Option.mem_some_iff] at found
    rw [← found]
  · by_cases may : region.mayEnd = true
    · simp [ends, may] at found
    · simp only [ends, may, Bool.false_eq_true, if_false, Option.mem_some_iff] at found
      rw [← found]

/-- Sources that begin alike have the same tokens, and the same fault if there is one, up to where they part. A fault
in front of that place has the same tokens before it. -/
theorem append_streams (shared left right : String) :
    (ofSource (shared ++ left)).tokens.filter (fun token => token.span.stop < byteWidth shared.toList) =
        (ofSource (shared ++ right)).tokens.filter (fun token => token.span.stop < byteWidth shared.toList) ∧
      ∀ error, (ofSource (shared ++ left)).error = some error → error.span.stop < byteWidth shared.toList →
        (ofSource (shared ++ right)).tokens = (ofSource (shared ++ left)).tokens ∧
          ∃ other, (ofSource (shared ++ right)).error = some other ∧
            other.fault = error.fault ∧ other.span = error.span := by
  have ended : ∀ rest : String, ∀ region, ∀ fault ∈
      faultAtEnd (Segmentation.ofChars (shared.toList ++ rest.toList)).unterminated
        (byteWidth (shared.toList ++ rest.toList)) region,
      0 + byteWidth shared.toList ≤ fault.2.stop := by
    intro rest region fault found
    rw [faultAtEnd_stop found, byteWidth_append, Nat.zero_add]
    exact Nat.le_add_right ..
  have same : SameBefore (byteWidth shared.toList) (outcomeOf (shared.toList ++ left.toList))
      (outcomeOf (shared.toList ++ right.toList)) := by
    rw [← Nat.zero_add (byteWidth shared.toList)]
    exact readOn_sameBefore shared.toList left.toList right.toList (Region.readTo_of_fresh rfl 0) (ended left)
      (ended right)
  simp only [ofSource, String.toList_append, ofChars_tokens, ofChars_error]
  refine ⟨same.tokens, fun error found before => ?_⟩
  obtain ⟨fault, stopped, rfl⟩ := Option.map_eq_some_iff.1 found
  rw [same.fault fault stopped before, stopped]
  exact ⟨rfl, _, rfl, rfl, rfl⟩

/-- A text that ends where two sources part need not be a token of both. -/
example : ((ofSource "\x7bab\x7d").tokens.map Token.value, (ofSource "\x7babc\x7d").tokens.map Token.value) =
    (["\x7b", "ab", "\x7d"], ["\x7b", "abc", "\x7d"]) := by decide

end TokenStream

end Localizable
