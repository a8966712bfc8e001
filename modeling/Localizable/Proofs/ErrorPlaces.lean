import Localizable.Proofs.MessageOfLayout
import Localizable.Proofs.Streaming

/-!
# Errors point into their source

Whatever is wrong with a source, the error names bytes of the source that begin and
end between its characters (`Message.parse_error_lies`). A fault of reading tokens
lies behind all tokens that are complete: at one atom, at a backslash that nothing
follows, or at the end. What it quotes ends at a boundary, too. A fault among the
tokens reaches from the start of a token to the end of a token.
-/

namespace Localizable
open Text

/-- A span of a source lies between two of its boundaries. -/
structure Text.Span.LiesIn (span : Span) (source : List Char) : Prop where
  ordered : span.start ≤ span.stop
  within : span.stop ≤ byteWidth source
  starts : Boundary source span.start
  stops : Boundary source span.stop

theorem liesIn_append (front written back : List Char) :
    (⟨byteWidth front, byteWidth front + byteWidth written⟩ : Span).LiesIn (front ++ (written ++ back)) where
  ordered := Nat.le_add_right ..
  within := by
    rw [byteWidth_append, byteWidth_append]
    dsimp only
    omega
  starts := ⟨front, written ++ back, rfl, rfl⟩
  stops := ⟨front ++ written, back, (List.append_assoc ..).symm, byteWidth_append ..⟩

/-- The part of a source from an offset up to the last boundary that is not above a limit. -/
def QuotedUpTo (source : List Char) (start limit : Nat) (quoted : List Char) : Prop :=
  ∃ front back, source = front ++ (quoted ++ back) ∧ byteWidth front = start ∧
    byteWidth front + byteWidth quoted ≤ limit ∧
    ∀ boundary, Boundary source boundary → boundary ≤ limit → boundary ≤ byteWidth front + byteWidth quoted

theorem takeBytes_append_of_le {front : List Char} {budget : Nat} (covered : byteWidth front ≤ budget)
    (tail : List Char) : takeBytes budget (front ++ tail) = front ++ takeBytes (budget - byteWidth front) tail := by
  induction front generalizing budget with
  | nil => rfl
  | cons c rest ih =>
    simp only [byteWidth] at covered
    rw [List.cons_append, takeBytes, if_pos (by omega), ih (by omega), byteWidth, Nat.sub_sub, List.cons_append]

/-- A slice from a boundary takes what fits up to its end. -/
theorem slice_of_boundary {front : List Char} {limit : Nat} (covered : byteWidth front ≤ limit) (tail : List Char) :
    slice (front ++ tail) ⟨byteWidth front, limit⟩ = takeBytes (limit - byteWidth front) tail := by
  have again := takeBytes_byteWidth (takeBytes (limit - byteWidth front) tail)
    (dropBytes (limit - byteWidth front) tail)
  rw [takeBytes_append_dropBytes] at again
  simp only [slice, floorBoundary, takeBytes_byteWidth, dropBytes_byteWidth, takeBytes_append_of_le covered,
    byteWidth_append, Nat.add_sub_cancel_left, again]

theorem quotedUpTo_slice {source : List Char} {start limit : Nat} (starts : Boundary source start)
    (covered : start ≤ limit) :
    QuotedUpTo source start (min (byteWidth source) limit) (slice source ⟨start, limit⟩) := by
  obtain ⟨front, tail, rfl, rfl⟩ := starts
  have whole := takeBytes_append_dropBytes (limit - byteWidth front) tail
  have fits := byteWidth_takeBytes (limit - byteWidth front) tail
  have width : byteWidth (front ++ tail) = byteWidth front + (byteWidth (takeBytes (limit - byteWidth front) tail)
      + byteWidth (dropBytes (limit - byteWidth front) tail)) := by
    rw [← byteWidth_append, whole, byteWidth_append]
  rw [slice_of_boundary covered]
  refine ⟨front, dropBytes (limit - byteWidth front) tail, by rw [whole], rfl, by omega, fun boundary at' below => ?_⟩
  obtain ⟨before, behind, same, rfl⟩ := at'
  have taken : before ++ takeBytes (limit - byteWidth before) behind =
      front ++ takeBytes (limit - byteWidth front) tail := by
    rw [← takeBytes_append_of_le covered, same, takeBytes_append_of_le (by omega)]
  have widths := congrArg byteWidth taken
  rw [byteWidth_append, byteWidth_append] at widths
  omega

/-! ## Faults of reading tokens -/

/-- Where the reading of tokens can stop: at an atom, at a backslash that nothing follows, or at the end. -/
inductive FaultPlace (source : List Char) : Span → Prop
  | atom {atom : Atom} (member : atom ∈ (Segmentation.ofChars source).atoms) : FaultPlace source atom.span
  | backslash {front : List Char} (same : source = front ++ ['\\'])
      (unterminated : (Segmentation.ofChars source).unterminated = some ⟨byteWidth front, byteWidth source⟩) :
      FaultPlace source ⟨byteWidth front, byteWidth source⟩
  | ended : FaultPlace source ⟨byteWidth source, byteWidth source⟩

/-- A fault of reading tokens is found behind all tokens that are complete, and quotes the source from there. -/
structure LexError.PointsInto (error : LexError) (source : List Char) : Prop where
  place : FaultPlace source error.span
  behind : ∀ token ∈ (TokenStream.ofChars source).tokens, token.span.stop ≤ error.span.start
  snippet : QuotedUpTo source error.span.start (min (byteWidth source) (error.span.stop + 20)) error.snippet.toList

theorem exists_piece_of_mem {offset : Nat} {pieces : List Piece} {atom : Atom}
    (member : atom ∈ Piece.locate offset pieces) : ∃ left piece right, pieces = left ++ piece :: right ∧
      atom = piece.at (offset + byteWidth (left.flatMap Piece.chars)) := by
  induction pieces generalizing offset with
  | nil => cases member
  | cons piece others ih =>
    rcases List.mem_cons.1 member with rfl | later
    · exact ⟨[], piece, others, rfl, rfl⟩
    · obtain ⟨left, found, right, rfl, rfl⟩ := ih later
      refine ⟨piece :: left, found, right, rfl, ?_⟩
      rw [List.flatMap_cons, byteWidth_append, Nat.add_assoc]

theorem FaultPlace.liesIn {source : List Char} {span : Span} (place : FaultPlace source span) :
    span.LiesIn source := by
  cases place with
  | @atom atom member =>
    obtain ⟨left, piece, right, split, rfl⟩ := exists_piece_of_mem member
    have whole := split_chars source
    rw [split, List.flatMap_append, List.flatMap_cons, List.append_assoc, List.append_assoc] at whole
    rw [whole, Nat.zero_add]
    exact liesIn_append ..
  | @backslash front same unterminated =>
    have lies := liesIn_append front ['\\'] []
    rwa [List.append_nil, ← byteWidth_append, ← same] at lies
  | ended =>
    have lies := liesIn_append source [] []
    rwa [List.append_nil, List.append_nil] at lies

/-- A fault that stops the reading is at an atom, or at the end; what has been read ends in front of it. -/
theorem readOn_fault {last : Region → Option (LexFault × Span)} (source : List Char) {region : Region} {offset : Nat}
    (read : region.ReadTo offset)
    (ended : ∀ region, ∀ fault ∈ last region,
      offset + byteWidth ((Piece.split source).flatMap Piece.chars) ≤ fault.2.start)
    {fault : LexFault × Span} (found : fault ∈ (TokenStream.readOn last region offset source).2) :
    offset ≤ fault.2.start ∧
      (∀ token ∈ (TokenStream.readOn last region offset source).1, token.span.stop ≤ fault.2.start) ∧
      ((∃ atom ∈ Piece.locate offset (Piece.split source), fault.2 = atom.span) ∨
        ∃ region, last region = some fault) := by
  induction source using pieces_induction generalizing region offset with
  | empty =>
    have limit := ended region fault found
    exact ⟨by omega, by simp, .inr ⟨region, found⟩⟩
  | backslash =>
    have limit := ended region fault found
    exact ⟨by omega, by simp, .inr ⟨region, found⟩⟩
  | piece piece rest heads ih =>
    rw [TokenStream.readOn_append heads] at found ⊢
    rw [heads.split]
    cases taken : region.step (piece.at offset) with
    | error cause =>
      rw [taken] at found
      cases found
      exact ⟨Nat.le_refl _, by simp, .inl ⟨_, List.mem_cons_self, rfl⟩⟩
    | ok result =>
      obtain ⟨next, own⟩ := result
      rw [taken] at found
      obtain ⟨reads, ends⟩ := Region.step_ends read taken
      rw [heads.split, List.flatMap_cons, byteWidth_append, ← Nat.add_assoc] at ended
      obtain ⟨start, tokens, place⟩ := @ih next (offset + byteWidth piece.chars) reads ended found
      refine ⟨by omega, fun token member => ?_, ?_⟩
      · rcases List.mem_append.1 member with front | back
        · have ends := ends token front
          simp only [Piece.at] at ends
          omega
        · exact tokens token back
      · rcases place with ⟨atom, member, same⟩ | last
        · exact .inl ⟨atom, List.mem_cons_of_mem _ member, same⟩
        · exact .inr last

theorem faultAtEnd_place {source : List Char} {region : Region} {fault : LexFault × Span}
    (found : fault ∈ TokenStream.faultAtEnd (Segmentation.ofChars source).unterminated (byteWidth source) region) :
    byteWidth ((Piece.split source).flatMap Piece.chars) ≤ fault.2.start ∧ FaultPlace source fault.2 := by
  have whole := split_chars source
  unfold TokenStream.faultAtEnd at found
  by_cases ends : endsUnescaped source = true
  · rw [if_pos ends] at whole
    have width : byteWidth ((Piece.split source).flatMap Piece.chars) = byteWidth source - 1 := by
      conv_rhs => rw [whole, byteWidth_append]
      rfl
    have unterminated : (Segmentation.ofChars source).unterminated =
        some ⟨byteWidth ((Piece.split source).flatMap Piece.chars), byteWidth source⟩ := by
      rw [width]
      exact if_pos ends
    rw [unterminated] at found
    cases found
    exact ⟨Nat.le_refl _, .backslash whole unterminated⟩
  · rw [if_neg ends, List.append_nil] at whole
    have unterminated : (Segmentation.ofChars source).unterminated = none := if_neg ends
    rw [unterminated] at found
    rw [← whole]
    by_cases may : region.mayEnd = true
    · simp [may] at found
    · simp only [may, Bool.false_eq_true, if_false, Option.mem_some_iff] at found
      subst found
      exact ⟨Nat.le_refl _, .ended⟩

theorem TokenStream.error_pointsInto {source : List Char} {error : LexError}
    (found : (ofChars source).error = some error) : error.PointsInto source := by
  obtain ⟨fault, stopped, rfl⟩ := Option.map_eq_some_iff.1 found
  have limit : ∀ region, ∀ fault ∈ faultAtEnd (Segmentation.ofChars source).unterminated (byteWidth source) region,
      0 + byteWidth ((Piece.split source).flatMap Piece.chars) ≤ fault.2.start := by
    intro region fault found
    rw [Nat.zero_add]
    exact (faultAtEnd_place found).1
  have start : Region.opening.ReadTo 0 := Region.readTo_of_fresh rfl 0
  obtain ⟨_, tokens, place⟩ := readOn_fault source start limit stopped
  have place : FaultPlace source fault.2 := by
    rcases place with ⟨atom, member, same⟩ | ⟨region, found⟩
    · rw [same]
      exact .atom member
    · exact (faultAtEnd_place found).2
  have lies := place.liesIn
  refine ⟨place, tokens, ?_⟩
  simp only [LexError.quote, String.toList_ofList]
  exact quotedUpTo_slice lies.starts (Nat.le_trans lies.ordered (Nat.le_add_right ..))

/-! ## Violations reach from token to token -/

/-- A span from the start of a token to the end of one that is not in front of it. -/
def SpansTokens (tokens : List Token) (span : Span) : Prop :=
  ∃ first ∈ tokens, ∃ last ∈ tokens, span = ⟨first.span.start, last.span.stop⟩ ∧ span.start ≤ span.stop

theorem SpansTokens.mono {tokens more : List Token} {span : Span} (spans : SpansTokens tokens span)
    (included : tokens ⊆ more) : SpansTokens more span := by
  obtain ⟨first, front, last, back, same, ordered⟩ := spans
  exact ⟨first, included front, last, included back, same, ordered⟩

theorem SpansTokens.single {tokens : List Token} {token : Token} (member : token ∈ tokens)
    (ordered : token.span.start ≤ token.span.stop) : SpansTokens tokens token.span :=
  ⟨token, member, token, member, rfl, ordered⟩

namespace Layout

theorem Options.violations_span (options : Options) (offset : Nat) (given : List String) :
    ∀ violation ∈ options.violations offset given, SpansTokens (tokensOf offset options.stretches) violation.span := by
  induction options generalizing offset given with
  | close gap => simp [Options.violations]
  | option gap name before after value rest ih =>
    obtain ⟨token, tokens, _⟩ := value.token
      (offset + byteWidth gap.chars + byteWidth name.chars + byteWidth before.chars + byteWidth ['=']
        + byteWidth after.chars) rest.stretches
    have read : tokensOf offset (Options.option gap name before after value rest).stretches =
        ⟨.name, name.chars, ⟨offset + byteWidth gap.chars, offset + byteWidth gap.chars + byteWidth name.chars⟩⟩ ::
          ⟨.punctuator, ['='], ⟨_, _⟩⟩ :: token :: _ :=
      congrArg (fun later => _ :: _ :: later) tokens
    intro violation member
    rw [read]
    rcases List.mem_append.1 member with own | later
    · split at own
      · rw [List.mem_singleton.1 own]
        exact .single List.mem_cons_self (Nat.le_add_right ..)
      · cases own
    · exact (ih _ _ violation later).mono fun _ member =>
        List.mem_cons_of_mem _ (List.mem_cons_of_mem _ (List.mem_cons_of_mem _ member))

theorem Tail.violations_span (tail : Tail) (offset : Nat) :
    ∀ violation ∈ tail.violations offset, SpansTokens (tokensOf offset tail.stretches) violation.span := by
  cases tail with
  | close gap => simp [Tail.violations]
  | function gap name options =>
    intro violation member
    exact (options.violations_span _ [] violation member).mono fun _ => List.mem_cons_of_mem _

/-- Markup in the place of an expression is a token, and what is wrong with options is at their names. -/
theorem Inside.violations_span (inside : Inside) (offset : Nat) :
    ∀ violation ∈ inside.strays offset ++ inside.violations offset,
      SpansTokens (tokensOf offset inside.stretches) violation.span := by
  intro violation member
  match inside with
  | .call name options => exact (options.violations_span _ [] violation member).mono fun _ => List.mem_cons_of_mem _
  | .operand (.variable name) tail =>
    exact (tail.violations_span _ violation member).mono fun _ => List.mem_cons_of_mem _
  | .operand (.literal signs) tail =>
    exact (tail.violations_span _ violation member).mono fun _ => List.mem_cons_of_mem _
  | .markupOpen name options =>
    rcases List.mem_cons.1 member with rfl | later
    · exact .single List.mem_cons_self (Nat.le_add_right ..)
    · exact (options.violations_span _ [] violation later).mono fun _ => List.mem_cons_of_mem _
  | .markupClose name gap =>
    rw [List.mem_singleton.1 member]
    exact .single List.mem_cons_self (Nat.le_add_right ..)

theorem Placeholder.violations_span (content : Placeholder) (offset : Nat) :
    ∀ violation ∈ content.violationsAsExpression offset,
      SpansTokens (tokensOf offset content.stretches) violation.span := by
  intro violation member
  exact (content.inside.violations_span _ violation member).mono fun _ => List.mem_cons_of_mem _

theorem Body.violations_span (body : Body) (offset : Nat) :
    ∀ violation ∈ body.violations offset, SpansTokens (tokensOf offset body.stretches) violation.span := by
  induction body generalizing offset with
  | close text => simp [Body.violations]
  | placeholder text content rest ih =>
    intro violation member
    rw [Body.stretches, tokensOf_append, tokensOf_append]
    rcases List.mem_append.1 member with own | later
    · have spans := content.violations_span _ violation (List.mem_append_right _ own)
      exact spans.mono fun _ member => List.mem_append_right _ (List.mem_append_left _ member)
    · exact (ih _ violation later).mono fun _ member => List.mem_append_right _ (List.mem_append_right _ member)

/-- The keys behind the first one end with the brace of a pattern. -/
theorem Keys.exists_brace (keys : Keys) (offset : Nat) :
    ∃ brace ∈ tokensOf offset keys.stretches, brace.span.stop = offset + byteWidth (charsOf keys.stretches) := by
  induction keys generalizing offset with
  | brace gap => exact ⟨_, List.mem_cons_self, by simp [Keys.stretches, byteWidth_append, Nat.add_assoc]⟩
  | key gap item rest ih =>
    obtain ⟨token, tokens, _⟩ := item.token (offset + byteWidth gap.chars) rest.stretches
    obtain ⟨brace, member, stop⟩ := ih (offset + byteWidth gap.chars + byteWidth item.stretch.chars)
    rw [Keys.stretches, tokensOf_gap, tokens]
    refine ⟨brace, List.mem_cons_of_mem _ member, ?_⟩
    rw [stop]
    simp only [byteWidth_charsOf_cons, Gap.stretch_chars, Nat.add_assoc]

theorem Variant.exists_brace (variant : Variant) (offset : Nat) :
    ∃ brace ∈ tokensOf offset variant.head, brace.span.stop = offset + byteWidth (charsOf variant.head) := by
  obtain ⟨token, tokens, _⟩ := variant.first.token
    (offset + byteWidth whenStretch.chars + byteWidth variant.gap.chars) variant.others.stretches
  obtain ⟨brace, member, stop⟩ := variant.others.exists_brace
    (offset + byteWidth whenStretch.chars + byteWidth variant.gap.chars + byteWidth variant.first.stretch.chars)
  have head : tokensOf offset variant.head =
      ⟨.keyword, "when".toList, ⟨offset, offset + byteWidth whenStretch.chars⟩⟩ :: token :: _ :=
    congrArg (_ :: ·) tokens
  rw [head]
  refine ⟨brace, List.mem_cons_of_mem _ (List.mem_cons_of_mem _ member), ?_⟩
  rw [stop]
  simp only [Variant.head, byteWidth_charsOf_cons, Gap.stretch_chars, Nat.add_assoc]

theorem Variant.violations_span (variant : Variant) (offset selectors : Nat) :
    ∀ violation ∈ variant.violations offset selectors,
      SpansTokens (tokensOf offset variant.stretches) violation.span := by
  have shape : variant.stretches = variant.head ++ variant.body.stretches := by
    simp [Variant.stretches, Variant.within, Variant.head]
  intro violation member
  rw [shape, tokensOf_append]
  rcases List.mem_append.1 member with own | later
  · split at own
    · cases own
    · obtain ⟨brace, member, stop⟩ := variant.exists_brace offset
      rw [List.mem_singleton.1 own]
      have spans : SpansTokens (tokensOf offset variant.head) ⟨offset, offset + byteWidth (charsOf variant.head)⟩ :=
        ⟨_, List.mem_cons_self, brace, member, by rw [stop], Nat.le_add_right ..⟩
      exact spans.mono fun _ => List.mem_append_left _
  · exact (variant.body.violations_span _ violation later).mono fun _ => List.mem_append_right _

theorem Variants.violations_span (variants : Variants) (offset selectors : Nat) :
    ∀ violation ∈ variants.violations offset selectors,
      SpansTokens (tokensOf offset variants.stretches) violation.span := by
  induction variants generalizing offset with
  | last variant gap =>
    intro violation member
    rw [Variants.stretches, tokensOf_append]
    exact (variant.violations_span _ _ violation member).mono fun _ => List.mem_append_left _
  | more variant gap rest ih =>
    intro violation member
    rw [Variants.stretches, tokensOf_append, tokensOf_gap]
    rcases List.mem_append.1 member with own | later
    · exact (variant.violations_span _ _ violation own).mono fun _ => List.mem_append_left _
    · exact (ih _ violation later).mono fun _ => List.mem_append_right _

theorem Selectors.violations_span (selectors : Selectors) (offset count : Nat) :
    ∀ violation ∈ selectors.violations offset count,
      SpansTokens (tokensOf offset selectors.stretches) violation.span := by
  induction selectors generalizing offset with
  | variants gap items => exact items.violations_span _ count
  | selector gap content rest ih =>
    intro violation member
    rw [Selectors.stretches, tokensOf_gap, tokensOf_append]
    rcases List.mem_append.1 member with own | later
    · exact (content.violations_span _ violation own).mono fun _ => List.mem_append_left _
    · exact (ih _ violation later).mono fun _ => List.mem_append_right _

theorem Declaration.violations_span (declaration : Declaration) (offset : Nat) :
    ∀ violation ∈ declaration.violations offset,
      SpansTokens (tokensOf offset declaration.stretches) violation.span := by
  have shape : declaration.stretches = declaration.head ++ declaration.content.stretches := rfl
  intro violation member
  rw [shape, tokensOf_append]
  exact (declaration.content.violations_span _ violation member).mono fun _ => List.mem_append_right _

theorem violationsFrom_span (layout : Layout) (offset : Nat) :
    ∀ violation ∈ layout.violationsFrom offset, SpansTokens (tokensOf offset layout.stretches) violation.span := by
  induction layout generalizing offset with
  | declaration gap item rest ih =>
    intro violation member
    rw [stretches, tokensOf_gap, tokensOf_append]
    rcases List.mem_append.1 member with own | later
    · exact (item.violations_span _ violation own).mono fun _ => List.mem_append_left _
    · exact (ih _ violation later).mono fun _ => List.mem_append_right _
  | pattern gap body after =>
    intro violation member
    rw [stretches, tokensOf_gap, tokensOf_mark, tokensOf_append]
    exact (body.violations_span _ violation member).mono fun _ member =>
      List.mem_cons_of_mem _ (List.mem_append_left _ member)
  | selection gap before first rest =>
    have tokens : tokensOf offset (selection gap before first rest).stretches =
        ⟨.keyword, "match".toList,
          ⟨offset + byteWidth gap.chars, offset + byteWidth gap.chars + byteWidth "match".toList⟩⟩
          :: tokensOf (offset + byteWidth gap.chars + byteWidth "match".toList + byteWidth before.chars)
            (first.stretches ++ rest.stretches) := rfl
    intro violation member
    rw [tokens, tokensOf_append]
    rcases List.mem_append.1 member with own | later
    · exact (first.violations_span _ violation own).mono fun _ member =>
        List.mem_cons_of_mem _ (List.mem_append_left _ member)
    · exact (rest.violations_span _ _ violation later).mono fun _ member =>
        List.mem_cons_of_mem _ (List.mem_append_right _ member)

/-- Each violation of a layout reaches from the start of a token to the end of a token. -/
theorem violations_span (layout : Layout) :
    ∀ violation ∈ layout.violations, SpansTokens layout.tokens violation.span := layout.violationsFrom_span 0

end Layout

/-- A span from token to token lies in the source of the tokens. -/
theorem SpansTokens.liesIn {stretches : List Stretch} {span : Span} (spans : SpansTokens (tokensOf 0 stretches) span) :
    span.LiesIn (charsOf stretches) := by
  have lies : ∀ token ∈ tokensOf 0 stretches, token.span.LiesIn (charsOf stretches) := by
    intro token member
    obtain ⟨left, kind, value, chars, right, rfl, rfl⟩ := exists_token_of_mem member
    rw [charsOf_append, charsOf_cons, Nat.zero_add]
    exact liesIn_append ..
  obtain ⟨first, front, last, back, rfl, ordered⟩ := spans
  exact ⟨ordered, (lies last back).within, (lies first front).starts, (lies last back).stops⟩

/-- An error of a source lies in the source. A fault of reading tokens is at an atom, a backslash or the end, behind
all tokens that are complete, and quotes the source from there; a fault among the tokens reaches from token to token;
and the tokens of a source never end too early. -/
theorem Message.parse_error_lies {source : String} {error : ParseError}
    (refused : Message.parse source = .error error) :
    error.span.LiesIn source.toList ∧
      match error with
      | .lexing error => (TokenStream.ofSource source).error = some error ∧ error.PointsInto source.toList
      | .grammar _ span => ∃ tokens, (TokenStream.ofSource source).complete = .ok tokens ∧ SpansTokens tokens span
      | .endOfTokens _ => False := by
  cases complete : (TokenStream.ofChars source.toList).complete with
  | error fault =>
    have found : (TokenStream.ofChars source.toList).error = some fault := by
      unfold TokenStream.complete at complete
      split at complete
      next found =>
        cases complete
        exact found
      next => cases complete
    rw [Message.parse, Message.parseChars, complete] at refused
    cases refused
    have points := TokenStream.error_pointsInto found
    exact ⟨points.place.liesIn, found, points⟩
  | ok tokens =>
    obtain ⟨layout, same, rfl⟩ := complete_eq_ok_iff_layout.1 complete
    rw [Message.parse, ← same, layout.parseChars] at refused
    split at refused
    · cases refused
    next first others violations =>
      cases refused
      have spans := layout.violations_span first (by simp [violations])
      have lies := spans.liesIn
      refine ⟨?_, layout.tokens, complete, spans⟩
      rw [← same]
      exact lies

/-- Text behind a pattern: what is quoted would end inside of a character, and ends in front of it. -/
theorem Message.parse_error_lies_cut :
    Message.parse "\x7b\x7d ü ééééééééééé" = .error (.lexing ⟨.expectedEnd, ⟨3, 5⟩, "ü ééééééééé"⟩) ∧
      (⟨3, 5⟩ : Span).LiesIn "\x7b\x7d ü ééééééééééé".toList ∧
        (TokenStream.ofSource "\x7b\x7d ü ééééééééééé").error = some ⟨.expectedEnd, ⟨3, 5⟩, "ü ééééééééé"⟩ ∧
          (⟨.expectedEnd, ⟨3, 5⟩, "ü ééééééééé"⟩ : LexError).PointsInto "\x7b\x7d ü ééééééééééé".toList :=
  have refused : Message.parse "\x7b\x7d ü ééééééééééé" = .error (.lexing ⟨.expectedEnd, ⟨3, 5⟩, "ü ééééééééé"⟩) := rfl
  ⟨refused, Message.parse_error_lies refused⟩

end Localizable
