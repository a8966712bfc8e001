import Localizable.Proofs.TokenReading

/-!
# Layouts of what is read

What a region reads begins with the part of a layout that the region is for, and
goes on as the region behind that part reads (`Leads`). So every source that is
read to its end has a layout with its tokens (`Layout.of_reads`).
-/

namespace Localizable
open Text

/-- A source starts with stretches, and what stands behind them is as said. -/
def Leads (behind : Nat → List Char → List Token → Prop) : List Stretch → Nat → List Char → List Token → Prop
  | [], offset, source, tokens => behind offset source tokens
  | .gap chars :: others, offset, source, tokens =>
    ∃ rest, source = chars ++ rest ∧ Leads behind others (offset + byteWidth chars) rest tokens
  | .token kind value chars :: others, offset, source, tokens =>
    ∃ rest later, source = chars ++ rest ∧
      tokens = ⟨kind, value, ⟨offset, offset + byteWidth chars⟩⟩ :: later ∧
      Leads behind others (offset + byteWidth chars) rest later

/-- The end of a source. -/
def Ended (_ : Nat) (source : List Char) (tokens : List Token) : Prop := source = [] ∧ tokens = []

section
variable {first last : Nat → List Char → List Token → Prop} {left : List Stretch} {offset : Nat}
  {source : List Char} {tokens : List Token}

/-- What stands behind stretches may start with stretches of its own. -/
theorem Leads.andThen {α : Type} {right : α → List Stretch} (leads : Leads first left offset source tokens)
    (onward : ∀ {offset rest later}, rest.length + (charsOf left).length = source.length →
      first offset rest later → ∃ item, Leads last (right item) offset rest later) :
    ∃ item, Leads last (left ++ right item) offset source tokens := by
  induction left generalizing offset source tokens with
  | nil => exact onward rfl leads
  | cons stretch others ih =>
    cases stretch with
    | gap chars =>
      obtain ⟨rest, rfl, leads⟩ := leads
      obtain ⟨item, whole⟩ := ih leads fun width reads =>
        onward (by simp [Stretch.chars]; omega) reads
      exact ⟨item, rest, rfl, whole⟩
    | token kind value chars =>
      obtain ⟨rest, later, rfl, rfl, leads⟩ := leads
      obtain ⟨item, whole⟩ := ih leads fun width reads =>
        onward (by simp [Stretch.chars]; omega) reads
      exact ⟨item, rest, later, rfl, rfl, whole⟩

theorem leads_iff : Leads first left offset source tokens ↔
    ∃ rest later, source = charsOf left ++ rest ∧ tokens = tokensOf offset left ++ later ∧
      first (offset + byteWidth (charsOf left)) rest later := by
  induction left generalizing offset source tokens with
  | nil =>
    constructor
    · intro leads
      exact ⟨source, tokens, rfl, rfl, leads⟩
    · rintro ⟨rest, later, rfl, rfl, leads⟩
      exact leads
  | cons stretch others ih =>
    have width : offset + byteWidth stretch.chars + byteWidth (charsOf others) =
        offset + byteWidth (charsOf (stretch :: others)) := by
      rw [charsOf_cons, byteWidth_append, Nat.add_assoc]
    cases stretch with
    | gap chars =>
      simp only [Leads, ih, ← width]
      constructor
      · rintro ⟨_, rfl, rest, later, rfl, rfl, after⟩
        exact ⟨rest, later, by simp [Stretch.chars], rfl, after⟩
      · rintro ⟨rest, later, rfl, rfl, after⟩
        exact ⟨_, by simp [Stretch.chars], rest, later, rfl, rfl, after⟩
    | token kind value chars =>
      simp only [Leads, ih, ← width]
      constructor
      · rintro ⟨_, _, rfl, rfl, rest, later, rfl, rfl, after⟩
        exact ⟨rest, later, by simp [Stretch.chars], rfl, after⟩
      · rintro ⟨rest, later, rfl, rfl, after⟩
        exact ⟨_, _, by simp [Stretch.chars], rfl, rest, later, rfl, rfl, after⟩

end

namespace Layout

theorem Gap.ofKind (gap : Gap) : ∀ c ∈ gap.chars, OfKind .whitespace c :=
  fun c member => ofKind_whitespace.2 (gap.blank c member)

end Layout

/-- The atom of a first piece of whitespace is a gap, and no whitespace follows it. -/
theorem Heads.isWhitespace {piece : Piece} {rest : List Char} (heads : Heads piece rest) {offset : Nat}
    (whitespace : (piece.at offset).isWhitespace = true) :
    ∃ gap : Layout.Break, piece.chars = gap.chars ∧ Stops .whitespace rest := by
  cases heads with
  | @run kind chars _ joins filled same stops =>
    have blank : kind = .whitespace := by simpa [Atom.isWhitespace, Piece.at] using whitespace
    subst blank
    exact ⟨⟨⟨chars, fun c member => ofKind_whitespace.1 (same c member)⟩, filled⟩, rfl, stops⟩
  | punctuator mark => simp [Atom.isWhitespace, Piece.at] at whitespace
  | escape => simp [Atom.isWhitespace, Piece.at] at whitespace

theorem Piece.chars_of_isPunctuator {piece : Piece} {offset : Nat} {c : Char}
    (mark : (piece.at offset).isPunctuator c = true) : piece.chars = [c] := by
  simp only [Atom.isPunctuator, Piece.at, Bool.and_eq_true, beq_iff_eq] at mark
  exact mark.2

namespace Advances

variable {next : Region} {offset : Nat} {source : List Char} {tokens : List Token} {step : Atom → Region.Step}

theorem fault {fault : LexFault} (advances : Advances (fun _ => .error fault) offset source tokens) : False := by
  obtain ⟨_, _, _, _, _, _, _, taken, _⟩ := advances
  cases taken

/-- A step that tests the atom takes one of two steps. -/
theorem either {test : Atom → Prop} [DecidablePred test] {yes no : Atom → Region.Step}
    (advances : Advances (fun atom => if test atom then yes atom else no atom) offset source tokens) :
    Advances yes offset source tokens ∨ Advances no offset source tokens := by
  obtain ⟨piece, rest, next, own, later, heads, rfl, taken, rfl, reads⟩ := advances
  dsimp only at taken
  split at taken
  · exact .inl ⟨piece, rest, next, own, later, heads, rfl, taken, rfl, reads⟩
  · exact .inr ⟨piece, rest, next, own, later, heads, rfl, taken, rfl, reads⟩

/-- A step that tests the atom has either branch, the first one if the test is passed. -/
theorem branch {test : Atom → Bool} {yes no : Atom → Region.Step}
    (advances : Advances (fun atom => if test atom then yes atom else no atom) offset source tokens) :
    (∃ piece rest next own later, Heads piece rest ∧ test (piece.at offset) = true ∧ source = piece.chars ++ rest ∧
        yes (piece.at offset) = .ok (next, own) ∧ tokens = own ++ later ∧
        Reads next (offset + byteWidth piece.chars) rest later) ∨
      Advances no offset source tokens := by
  obtain ⟨piece, rest, next, own, later, heads, rfl, taken, rfl, reads⟩ := advances
  dsimp only at taken
  by_cases passed : test (piece.at offset) = true
  · rw [if_pos passed] at taken
    exact .inl ⟨piece, rest, next, own, later, heads, passed, rfl, taken, rfl, reads⟩
  · rw [if_neg passed] at taken
    exact .inr ⟨piece, rest, next, own, later, heads, rfl, taken, rfl, reads⟩

/-- A mark that is taken as a token, or else another step. -/
theorem emit_or {c : Char} {kind : TokenKind} (advances : Advances (fun atom =>
      if atom.isPunctuator c then Region.emit atom kind next else step atom) offset source tokens) :
    Leads (Reads next) [.token kind [c] [c]] offset source tokens ∨ Advances step offset source tokens := by
  rcases advances.branch with ⟨piece, rest, _, _, later, _, mark, rfl, taken, rfl, reads⟩ | other
  · cases taken
    have chars := Piece.chars_of_isPunctuator mark
    refine .inl ⟨rest, later, by rw [chars], ?_, by rwa [chars] at reads⟩
    simp [Piece.at, chars]
  · exact .inr other

theorem mark {c : Char} {fault : LexFault}
    (advances : Advances (fun atom => Region.mark atom c fault next) offset source tokens) :
    Leads (Reads next) [.mark c] offset source tokens := by
  have parted : Leads (Reads next) [.mark c] offset source tokens ∨
      Advances (fun _ => .error fault) offset source tokens :=
    advances.emit_or
  exact parted.resolve_right Advances.fault

/-- A word that is taken as a keyword, or else another step. -/
theorem keyword_or {word : String} (advances : Advances (fun atom =>
      if atom.isWord word then Region.emit atom .keyword next else step atom) offset source tokens) :
    Leads (Reads next) [.token .keyword word.toList word.toList] offset source tokens ∨
      Advances step offset source tokens := by
  rcases advances.branch with ⟨piece, rest, _, _, later, _, found, rfl, taken, rfl, reads⟩ | other
  · cases taken
    have chars : piece.chars = word.toList := by
      simp only [Atom.isWord, Piece.at, Bool.and_eq_true, beq_iff_eq] at found
      exact found.2
    refine .inl ⟨rest, later, by rw [chars], ?_, by rwa [chars] at reads⟩
    simp [Piece.at, chars]
  · exact .inr other

theorem keyword {word : String} {fault : LexFault}
    (advances : Advances (fun atom => Region.keyword atom word fault next) offset source tokens) :
    Leads (Reads next) [.token .keyword word.toList word.toList] offset source tokens := by
  have parted : Leads (Reads next) [.token .keyword word.toList word.toList] offset source tokens ∨
      Advances (fun _ => .error fault) offset source tokens := advances.keyword_or
  exact parted.resolve_right Advances.fault

/-- Whitespace that is passed over, or else another step. -/
theorem skip_or (advances : Advances (fun atom =>
      if atom.isWhitespace then Region.skip next else step atom) offset source tokens) :
    (∃ gap : Layout.Break, ∃ rest, source = gap.chars ++ rest ∧ Stops .whitespace rest ∧
        Reads next (offset + byteWidth gap.chars) rest tokens) ∨
      Advances step offset source tokens := by
  rcases advances.branch with ⟨piece, rest, _, _, later, heads, whitespace, rfl, taken, rfl, reads⟩ | other
  · cases taken
    obtain ⟨gap, chars, stops⟩ := heads.isWhitespace whitespace
    exact .inl ⟨gap, rest, by rw [chars], stops, by rwa [chars] at reads⟩
  · exact .inr other

theorem gap {fault : LexFault} (advances : Advances (fun atom => Region.gap atom fault next) offset source tokens) :
    ∃ gap : Layout.Break, Leads (Reads next) [gap.stretch] offset source tokens := by
  have parted : (∃ gap : Layout.Break, ∃ rest, source = gap.chars ++ rest ∧ Stops .whitespace rest ∧
      Reads next (offset + byteWidth gap.chars) rest tokens) ∨
        Advances (fun _ => .error fault) offset source tokens := advances.skip_or
  obtain ⟨gap, rest, rfl, _, reads⟩ := parted.resolve_right Advances.fault
  exact ⟨gap, rest, rfl, reads⟩

theorem sigilName {sign : Char} {kind : TokenKind} {fault : LexFault}
    (advances : Advances (fun atom => Region.sigilName atom sign kind fault next) offset source tokens) :
    ∃ name : Layout.Name, Leads (Reads next) [.sigil kind sign name.chars] offset source tokens := by
  obtain ⟨piece, rest, _, _, later, _, rfl, taken, rfl, reads⟩ := advances
  dsimp only at taken
  unfold Region.sigilName at taken
  split at taken
  next name behind =>
    cases taken
    unfold Region.nameBehind at behind
    split at behind
    next c inside chars =>
      split at behind
      next good =>
        cases behind
        obtain ⟨_, rfl, valid⟩ := good
        simp only [Piece.at] at chars
        refine ⟨⟨name, valid⟩, rest, later, by rw [chars], ?_, by rwa [chars] at reads⟩
        simp [Piece.at, chars]
      · cases behind
    · cases behind
  · cases taken

theorem bareToken (advances : Advances (fun atom => Region.bareToken atom next) offset source tokens) :
    ∃ token : Layout.Nmtoken, Leads (Reads next) [.token .nmtoken token.chars token.chars] offset source tokens := by
  obtain ⟨piece, rest, _, _, later, _, rfl, taken, rfl, reads⟩ := advances
  dsimp only at taken
  unfold Region.bareToken at taken
  split at taken
  next good =>
    cases taken
    exact ⟨⟨piece.chars, good.2⟩, rest, later, rfl, rfl, reads⟩
  · cases taken

theorem name {fault : LexFault} (advances : Advances (fun atom =>
      if atom.kind = .word ∧ isName atom.chars then Region.emit atom .name next else .error fault)
      offset source tokens) :
    ∃ name : Layout.Name, Leads (Reads next) [.token .name name.chars name.chars] offset source tokens := by
  obtain ⟨piece, rest, _, _, later, _, rfl, taken, rfl, reads⟩ := advances
  dsimp only at taken
  split at taken
  next good =>
    cases taken
    exact ⟨⟨piece.chars, good.2⟩, rest, later, rfl, rfl, reads⟩
  · cases taken

/-- A parenthesis that opens a literal, or else another step. -/
theorem literal_or {role : LiteralRole} (advances : Advances (fun atom =>
      if atom.isPunctuator '(' then Region.skip (.literal role atom.span.start []) else step atom)
      offset source tokens) :
    (∃ signs : List Layout.LiteralSign, Leads (Reads (Region.afterLiteral role)) [Layout.literalStretch signs]
        offset source tokens) ∨
      Advances step offset source tokens := by
  rcases advances.branch with ⟨piece, rest, _, _, later, _, mark, rfl, taken, rfl, reads⟩ | other
  · cases taken
    have chars := Piece.chars_of_isPunctuator mark
    rw [chars] at reads ⊢
    obtain ⟨signs, c, behind, rfl, close⟩ := (gathers_literal role offset).exists_signs reads
    obtain rfl := List.mem_singleton.1 close
    obtain ⟨after, rfl, final⟩ := (reads_literal role offset signs).1 reads
    have width : offset + byteWidth ('(' :: signs.flatMap Layout.Sign.chars ++ [')']) =
        offset + byteWidth ['('] + byteWidth (signs.flatMap Layout.Sign.chars) + byteWidth [')'] := by
      rw [← List.singleton_append, byteWidth_append, byteWidth_append]
      omega
    refine .inl ⟨signs, behind, after, by simp, ?_, ?_⟩
    · rw [width]
      rfl
    · rw [width]
      exact final
  · exact .inr other

end Advances

/-- A region that whitespace does not lead out of is left at the end of a gap. -/
theorem Reads.skip {region : Region} {step : Atom → Region.Step} {offset : Nat} {source : List Char}
    {tokens : List Token} (reads : Reads region offset source tokens)
    (loops : ∀ atom, region.step atom = if atom.isWhitespace then Region.skip region else step atom) :
    ∃ gap : Layout.Gap, ∃ rest, source = gap.chars ++ rest ∧
      (rest = [] ∧ region.mayEnd = true ∧ tokens = [] ∨ Advances step (offset + byteWidth gap.chars) rest tokens) := by
  have past : ∀ {offset source tokens}, Reads region offset source tokens → Stops .whitespace source →
      source = [] ∧ region.mayEnd = true ∧ tokens = [] ∨ Advances step offset source tokens := by
    intro offset source tokens reads stops
    rcases reads.ended_or_advances with ended | advances
    · exact .inl ended
    · simp only [loops] at advances
      rcases advances.skip_or with ⟨gap, rest, rfl, _, _⟩ | other
      · obtain ⟨c, chars, same⟩ := List.exists_cons_of_ne_nil gap.filled
        have spacing := gap.toGap.ofKind c (by rw [same]; exact List.mem_cons_self)
        rw [same, List.cons_append, stops_cons] at stops
        exact absurd spacing stops
      · exact .inr other
  rcases reads.ended_or_advances with ended | advances
  · exact ⟨.none, source, rfl, .inl ended⟩
  · simp only [loops] at advances
    rcases advances.skip_or with ⟨gap, rest, rfl, stops, reads⟩ | other
    · exact ⟨gap.toGap, rest, rfl, past reads stops⟩
    · exact ⟨.none, source, rfl, .inr other⟩

/-- The gap in front of where a source may not end. -/
theorem Reads.skip_on {region : Region} {step : Atom → Region.Step} {offset : Nat} {source : List Char}
    {tokens : List Token} (reads : Reads region offset source tokens) (goes : region.mayEnd = false)
    (loops : ∀ atom, region.step atom = if atom.isWhitespace then Region.skip region else step atom) :
    ∃ gap : Layout.Gap, ∃ rest, source = gap.chars ++ rest ∧
      Advances step (offset + byteWidth gap.chars) rest tokens := by
  obtain ⟨gap, rest, rfl, ⟨_, may, _⟩ | advances⟩ := reads.skip loops
  · rw [goes] at may
    cases may
  · exact ⟨gap, rest, rfl, advances⟩

namespace Layout

variable {seat : Seat} {offset : Nat} {source : List Char} {tokens : List Token}

theorem Value.of_advances (advances : Advances (fun atom =>
      if atom.chars.head? = some '$' then Region.variableName atom (.behindOption seat)
      else if atom.isPunctuator '(' then Region.skip (.literal (.option seat) atom.span.start [])
      else Region.bareToken atom (.behindOption seat)) offset source tokens) :
    ∃ value : Value, Leads (Reads (.behindOption seat)) [value.stretch] offset source tokens := by
  rcases advances.either with «variable» | other
  · obtain ⟨name, leads⟩ := Advances.sigilName «variable»
    exact ⟨.operand (.variable name), leads⟩
  rcases other.literal_or with ⟨signs, leads⟩ | bare
  · exact ⟨.operand (.literal signs), leads⟩
  · obtain ⟨token, leads⟩ := bare.bareToken
    exact ⟨.bare token, leads⟩

theorem Options.of_reads (reads : Reads (.behindOption seat) offset source tokens) :
    ∃ options : Options, Leads (Reads (Region.afterExpression seat)) options.stretches offset source tokens := by
  induction length : source.length using Nat.strong_induction_on generalizing offset source tokens with | _ n ih
  have first := reads.advances rfl
  simp only [Region.step] at first
  rcases first.emit_or with close | spaced
  · exact ⟨.close .none, source, rfl, close⟩
  obtain ⟨gap, behindGap, rfl, atName⟩ := spaced.gap
  have second := Reads.advances atName rfl
  simp only [Region.step] at second
  rcases second.emit_or with close | named
  · exact ⟨.close gap.toGap, behindGap, rfl, close⟩
  obtain ⟨name, behindName, later, rfl, rfl, atEquals⟩ := named.name
  obtain ⟨before, _, rfl, equals⟩ := Reads.skip_on atEquals rfl fun _ => rfl
  obtain ⟨_, _, rfl, rfl, atValue⟩ := equals.mark
  obtain ⟨after, _, rfl, advances⟩ := Reads.skip_on atValue rfl fun _ => rfl
  obtain ⟨value, leads⟩ := Value.of_advances advances
  obtain ⟨rest, whole⟩ := leads.andThen fun width behind => ih _ (by
    simp only [List.length_append] at length
    have := List.length_pos_iff.2 gap.filled
    omega) behind rfl
  exact ⟨.option gap name before after value rest, _, rfl, _, _, rfl, rfl, _, rfl, _, _, rfl, rfl, _, rfl, whole⟩

theorem Tail.of_reads (reads : Reads (.behindOperand seat) offset source tokens) :
    ∃ tail : Tail, Leads (Reads (Region.afterExpression seat)) tail.stretches offset source tokens := by
  have first := reads.advances rfl
  simp only [Region.step] at first
  rcases first.skip_or with ⟨gap, behindGap, rfl, _, atFunction⟩ | close
  · have second := Reads.advances atFunction rfl
    simp only [Region.step] at second
    rcases second.emit_or with close | function
    · exact ⟨.close gap.toGap, behindGap, rfl, close⟩
    · obtain ⟨name, leads⟩ := function.sigilName
      obtain ⟨options, whole⟩ := leads.andThen fun _ behind => Options.of_reads behind
      exact ⟨.function gap name options, behindGap, rfl, whole⟩
  · exact ⟨.close .none, source, rfl, close.mark⟩

theorem Inside.of_advances (advances : Advances (fun atom =>
      if atom.isPunctuator '(' then Region.skip (.literal (.operand seat) atom.span.start [])
      else match atom.chars.head? with
        | some ':' => Region.functionName atom (.behindOption seat)
        | some '+' => Region.sigilName atom '+' .markupStart .expectedMarkupStart (.behindOption seat)
        | some '-' => Region.sigilName atom '-' .markupEnd .expectedMarkupEnd (.markupClose seat)
        | some '$' => Region.variableName atom (.behindOperand seat)
        | _ => .error .expectedOperand) offset source tokens) :
    ∃ inside : Inside, Leads (Reads (Region.afterExpression seat)) inside.stretches offset source tokens := by
  rcases advances.literal_or with ⟨signs, leads⟩ | ⟨piece, rest, next, own, later, heads, rfl, taken, rfl, reads⟩
  · obtain ⟨tail, whole⟩ := leads.andThen fun _ behind => Tail.of_reads behind
    exact ⟨.operand (.literal signs) tail, whole⟩
  have stepped : ∀ {step : Atom → Region.Step}, step (piece.at offset) = .ok (next, own) →
      Advances step offset (piece.chars ++ rest) (own ++ later) :=
    fun taken => ⟨piece, rest, next, own, later, heads, rfl, taken, rfl, reads⟩
  dsimp only at taken
  -- The first character tells which sigil has to stand there.
  split at taken
  · obtain ⟨name, leads⟩ := Advances.sigilName (stepped taken)
    obtain ⟨options, whole⟩ := leads.andThen fun _ behind => Options.of_reads behind
    exact ⟨.call name options, whole⟩
  · obtain ⟨name, leads⟩ := Advances.sigilName (stepped taken)
    obtain ⟨options, whole⟩ := leads.andThen fun _ behind => Options.of_reads behind
    exact ⟨.markupOpen name options, whole⟩
  · obtain ⟨name, _, _, source, own, atClose⟩ := Advances.sigilName (stepped taken)
    obtain ⟨gap, _, rfl, close⟩ := Reads.skip_on atClose rfl fun _ => rfl
    exact ⟨.markupClose name gap, _, _, source, own, _, rfl, close.mark⟩
  · obtain ⟨name, leads⟩ := Advances.sigilName (stepped taken)
    obtain ⟨tail, whole⟩ := leads.andThen fun _ behind => Tail.of_reads behind
    exact ⟨.operand (.variable name) tail, whole⟩
  · cases taken

theorem Placeholder.of_reads (reads : Reads (.expression seat) offset source tokens) :
    ∃ content : Placeholder, Leads (Reads (Region.afterExpression seat)) content.within offset source tokens := by
  obtain ⟨gap, rest, rfl, advances⟩ := Reads.skip_on reads rfl fun _ => rfl
  obtain ⟨inside, leads⟩ := Inside.of_advances advances
  exact ⟨⟨gap, inside⟩, rest, rfl, leads⟩

/-- A pattern is read to its closing brace, where placeholders lead back into it. -/
theorem Body.of_reads (again : Region.afterExpression seat = .pattern seat none)
    (reads : Reads (.pattern seat none) offset source tokens) :
    ∃ body : Body, Leads (Reads (Region.afterPattern seat)) body.stretches offset source tokens := by
  induction length : source.length using Nat.strong_induction_on generalizing offset source tokens with | _ n ih
  obtain ⟨text, c, rest, rfl, brace⟩ := (gathers_pattern seat).exists_signs reads
  have front : charsOf (textStretches text ++ [.mark c]) = text.flatMap Sign.chars ++ [c] := by
    cases text <;> simp [textStretches, Stretch.chars, Stretch.mark]
  have width : ∀ offset, offset + byteWidth (charsOf (textStretches text ++ [.mark c])) =
      offset + byteWidth (text.flatMap Sign.chars) + byteWidth [c] := by
    intro offset
    rw [front, byteWidth_append, Nat.add_assoc]
  simp only [List.mem_cons, List.not_mem_nil, or_false] at brace
  rcases brace with rfl | rfl
  · obtain ⟨later, rfl, inside⟩ := (reads_text (.inr ⟨rfl, rfl⟩) text).1 reads
    rw [← width] at inside
    have leads : Leads (Reads (.expression seat)) (textStretches text ++ [.mark '{']) offset
        (text.flatMap Sign.chars ++ '{' :: rest) (tokensOf offset (textStretches text ++ [.mark '{']) ++ later) :=
      leads_iff.2 ⟨rest, later, by rw [front]; simp, rfl, inside⟩
    obtain ⟨content, whole⟩ := leads.andThen fun _ behind => Placeholder.of_reads behind
    rw [again] at whole
    obtain ⟨others, whole⟩ := whole.andThen fun shorter behind => ih _ (by
      rw [← length, ← shorter]
      simp only [charsOf_append, charsOf_cons, Stretch.mark_chars, List.length_append, List.length_cons]
      omega) behind rfl
    exact ⟨.placeholder text content others, by simpa [Body.stretches, Placeholder.stretches] using whole⟩
  · obtain ⟨later, rfl, inside⟩ := (reads_text (.inl ⟨rfl, rfl⟩) text).1 reads
    rw [← width] at inside
    exact ⟨.close text, leads_iff.2 ⟨rest, later, by rw [Body.stretches, front]; simp, rfl, inside⟩⟩

theorem Key.of_advances (advances : Advances Region.keyStep offset source tokens) :
    ∃ key : Key, Leads (Reads .behindKey) [key.stretch] offset source tokens := by
  unfold Region.keyStep at advances
  rcases advances.either with bare | marked
  · obtain ⟨token, leads⟩ := bare.bareToken
    exact ⟨.bare token, leads⟩
  rcases marked.emit_or with any | other
  · exact ⟨.any, any⟩
  rcases other.literal_or with ⟨signs, leads⟩ | fault
  · exact ⟨.literal signs, leads⟩
  · exact fault.fault.elim

theorem Keys.of_reads (reads : Reads .behindKey offset source tokens) :
    ∃ keys : Keys, Leads (Reads (.pattern .variant none)) keys.stretches offset source tokens := by
  induction length : source.length using Nat.strong_induction_on generalizing offset source tokens with | _ n ih
  have first := reads.advances rfl
  simp only [Region.step] at first
  rcases first.emit_or with brace | spaced
  · exact ⟨.brace .none, source, rfl, brace⟩
  obtain ⟨gap, behindGap, rfl, atKey⟩ := spaced.gap
  have second := Reads.advances atKey rfl
  simp only [Region.step] at second
  rcases second.emit_or with brace | keyed
  · exact ⟨.brace gap.toGap, behindGap, rfl, brace⟩
  obtain ⟨key, leads⟩ := Key.of_advances keyed
  obtain ⟨rest, whole⟩ := leads.andThen fun width behind => ih _ (by
    simp only [List.length_append] at length
    have := List.length_pos_iff.2 gap.filled
    omega) behind rfl
  exact ⟨.key gap key rest, behindGap, rfl, whole⟩

theorem Variant.of_reads (reads : Reads .gapAfterWhen offset source tokens) :
    ∃ variant : Variant, Leads (Reads .nextVariant) variant.within offset source tokens := by
  have first := reads.advances rfl
  simp only [Region.step] at first
  obtain ⟨gap, behindGap, rfl, atKey⟩ := first.gap
  obtain ⟨key, leads⟩ := Key.of_advances (Reads.advances atKey rfl)
  obtain ⟨others, leads⟩ := leads.andThen fun _ behind => Keys.of_reads behind
  obtain ⟨body, leads⟩ := leads.andThen fun _ behind => Body.of_reads rfl behind
  exact ⟨⟨gap, key, others, body⟩, behindGap, rfl, leads⟩

/-- Variants are read to the end of the source. -/
theorem Variants.of_leads (leads : Leads (Reads .gapAfterWhen) [whenStretch] offset source tokens) :
    ∃ variants : Variants, Leads Ended variants.stretches offset source tokens := by
  induction length : source.length using Nat.strong_induction_on generalizing offset source tokens with | _ n ih
  obtain ⟨variant, leads⟩ := leads.andThen fun _ behind => Variant.of_reads behind
  have behindBody : ∃ item : Gap × Option Variants, Leads Ended
      (variant.stretches ++ item.1.stretch :: (item.2.map Variants.stretches).getD []) offset source tokens := by
    refine leads.andThen fun width behind => ?_
    obtain ⟨gap, rest, rfl, ⟨rfl, _, rfl⟩ | advances⟩ := Reads.skip behind fun _ => rfl
    · exact ⟨⟨gap, none⟩, [], rfl, rfl, rfl⟩
    · obtain ⟨others, whole⟩ := ih _ (by
        rw [← length, ← width]
        simp [whenStretch, Stretch.chars, Variant.within]
        omega) advances.keyword rfl
      exact ⟨⟨gap, some others⟩, rest, rfl, whole⟩
  obtain ⟨⟨gap, more⟩, whole⟩ := behindBody
  cases more with
  | none => exact ⟨.last variant gap, whole⟩
  | some others => exact ⟨.more variant gap others, whole⟩

theorem Selectors.of_reads (reads : Reads .nextSelector offset source tokens) :
    ∃ selectors : Selectors, Leads Ended selectors.stretches offset source tokens := by
  induction length : source.length using Nat.strong_induction_on generalizing offset source tokens with | _ n ih
  obtain ⟨gap, behindGap, rfl, advances⟩ := Reads.skip_on reads rfl fun _ => rfl
  rcases advances.emit_or with brace | keyword
  · obtain ⟨content, leads⟩ := brace.andThen fun _ behind => Placeholder.of_reads behind
    obtain ⟨rest, whole⟩ := leads.andThen fun width behind => ih _ (by
      rw [← length, List.length_append, ← width]
      simp [Stretch.chars]
      omega) behind rfl
    exact ⟨.selector gap content rest, behindGap, rfl, whole⟩
  · obtain ⟨variants, whole⟩ := Variants.of_leads keyword.keyword
    exact ⟨.variants gap variants, behindGap, rfl, whole⟩

theorem Declaration.of_leads (leads : Leads (Reads .gapAfterLet) [letStretch] offset source tokens) :
    ∃ declaration : Declaration, Leads (Reads .opening) declaration.stretches offset source tokens := by
  obtain ⟨_, _, rfl, rfl, atGap⟩ := leads
  obtain ⟨gap, _, rfl, atName⟩ := Advances.gap (Reads.advances atGap rfl)
  obtain ⟨name, _, _, rfl, rfl, atBefore⟩ := Advances.sigilName (Reads.advances atName rfl)
  obtain ⟨before, _, rfl, atEquals⟩ := Advances.gap (Reads.advances atBefore rfl)
  obtain ⟨_, _, rfl, rfl, atAfter⟩ := Advances.mark (Reads.advances atEquals rfl)
  obtain ⟨after, _, rfl, atBrace⟩ := Advances.gap (Reads.advances atAfter rfl)
  obtain ⟨content, whole⟩ := (Advances.mark (Reads.advances atBrace rfl)).andThen
    fun _ behind => Placeholder.of_reads behind
  exact ⟨⟨gap, name, before, after, content⟩, _, _, rfl, rfl, _, rfl, _, _, rfl, rfl, _, rfl, _, _, rfl, rfl, _, rfl,
    whole⟩

end Layout

theorem Layout.of_reads {offset : Nat} {source : List Char} {tokens : List Token}
    (reads : Reads .opening offset source tokens) :
    ∃ layout : Layout, Leads Ended layout.stretches offset source tokens := by
  induction length : source.length using Nat.strong_induction_on generalizing offset source tokens with | _ n ih
  obtain ⟨gap, behindGap, rfl, advances⟩ := Reads.skip_on reads rfl fun _ => rfl
  rcases advances.keyword_or with declared | other
  · obtain ⟨declaration, leads⟩ := Declaration.of_leads declared
    obtain ⟨rest, whole⟩ := leads.andThen fun width behind => ih _ (by
      rw [← length, List.length_append, ← width]
      simp [Declaration.stretches, letStretch, Stretch.chars]
      omega) behind rfl
    exact ⟨.declaration gap declaration rest, behindGap, rfl, whole⟩
  rcases other.keyword_or with selects | mark
  · obtain ⟨_, _, rfl, rfl, atSelector⟩ := selects
    obtain ⟨before, _, rfl, brace⟩ := Reads.skip_on atSelector rfl fun _ => rfl
    obtain ⟨first, leads⟩ := brace.mark.andThen fun _ behind => Placeholder.of_reads behind
    obtain ⟨rest, whole⟩ := leads.andThen fun _ behind => Selectors.of_reads behind
    exact ⟨.selection gap before first rest, _, rfl, _, _, rfl, rfl, _, rfl, whole⟩
  · obtain ⟨body, leads⟩ := mark.mark.andThen fun _ behind => Layout.Body.of_reads rfl behind
    have behindBody : ∃ after : Gap, Leads Ended ([.mark '{'] ++ body.stretches ++ [after.stretch])
        (offset + byteWidth gap.chars) behindGap tokens := by
      refine leads.andThen fun _ behind => ?_
      obtain ⟨after, rest, rfl, ⟨rfl, _, rfl⟩ | fault⟩ := Reads.skip behind fun _ => rfl
      · exact ⟨after, [], rfl, rfl, rfl⟩
      · exact fault.fault.elim
    obtain ⟨after, whole⟩ := behindBody
    exact ⟨.pattern gap body after, behindGap, rfl, whole⟩

end Localizable
