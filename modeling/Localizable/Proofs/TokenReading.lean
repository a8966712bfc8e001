import Localizable.Proofs.Layout
import Localizable.Proofs.Segmentation
import Localizable.Token.Stream

/-!
# Reading a source to its end

The tokens of a source are complete if its atoms take the regions from the first
one to one where the source may end (`complete_eq_ok`). A source is read piece by
piece (`reads_append`), and texts and literals are read character by character
(`Gathers`), although their pieces are longer.
-/

namespace Localizable
open Text

/-- Atoms that are read from a region on to the end of the source without a fault, and their tokens. -/
inductive Takes : Region → List Atom → List Token → Prop
  | ended {region : Region} (may : region.mayEnd = true) : Takes region [] []
  | step {region next : Region} {atom : Atom} {rest : List Atom} {own later : List Token}
      (taken : region.step atom = .ok (next, own)) (after : Takes next rest later) :
      Takes region (atom :: rest) (own ++ later)

/-- A source whose first byte is at the offset is read from a region on without a fault. -/
def Reads (region : Region) (offset : Nat) (source : List Char) (tokens : List Token) : Prop :=
  endsUnescaped source = false ∧ Takes region (Piece.locate offset (Piece.split source)) tokens

/-- A piece as an atom at an offset. -/
def Piece.at (piece : Piece) (offset : Nat) : Atom :=
  ⟨piece.kind, piece.chars, ⟨offset, offset + byteWidth piece.chars⟩⟩

theorem takes_nil {region : Region} {tokens : List Token} :
    Takes region [] tokens ↔ region.mayEnd = true ∧ tokens = [] := by
  constructor
  · rintro ⟨may⟩
    exact ⟨may, rfl⟩
  · rintro ⟨may, rfl⟩
    exact .ended may

theorem takes_cons {region : Region} {atom : Atom} {rest : List Atom} {tokens : List Token} :
    Takes region (atom :: rest) tokens ↔
      ∃ next own later, region.step atom = .ok (next, own) ∧ tokens = own ++ later ∧ Takes next rest later := by
  constructor
  · intro takes
    cases takes with
    | step taken after => exact ⟨_, _, _, taken, rfl, after⟩
  · rintro ⟨next, own, later, taken, rfl, after⟩
    exact .step taken after

theorem readFrom_eq_none (length : Nat) {region : Region} {atoms : List Atom} {tokens : List Token} :
    TokenStream.readFrom (TokenStream.faultAtEnd none length) region atoms = (tokens, none) ↔
      Takes region atoms tokens := by
  induction atoms generalizing region tokens with
  | nil =>
    rw [takes_nil, TokenStream.readFrom, TokenStream.faultAtEnd]
    by_cases may : region.mayEnd = true
    · simp [may, eq_comm]
    · simp [may]
  | cons atom rest ih =>
    rw [takes_cons, TokenStream.readFrom]
    cases taken : region.step atom with
    | error fault => simp
    | ok result =>
      obtain ⟨next, own⟩ := result
      simp only [Except.ok.injEq, Prod.mk.injEq]
      constructor
      · rintro ⟨rfl, ended⟩
        exact ⟨next, own, _, ⟨rfl, rfl⟩, rfl, ih.1 (Prod.ext rfl ended)⟩
      · rintro ⟨_, _, later, ⟨rfl, rfl⟩, rfl, after⟩
        have whole := ih.2 after
        rw [whole]
        exact ⟨rfl, rfl⟩

/-- A source that ends in a lone backslash has a fault, whatever stands before. -/
theorem readFrom_unterminated (span : Span) (length : Nat) (region : Region) (atoms : List Atom) :
    (TokenStream.readFrom (TokenStream.faultAtEnd (some span) length) region atoms).2 ≠ none := by
  induction atoms generalizing region with
  | nil => simp [TokenStream.readFrom, TokenStream.faultAtEnd]
  | cons atom rest ih =>
    rw [TokenStream.readFrom]
    cases region.step atom with
    | error fault => simp
    | ok result => exact ih result.1

theorem complete_eq_ok {source : List Char} {tokens : List Token} :
    (TokenStream.ofChars source).complete = .ok tokens ↔ Reads .opening 0 source tokens := by
  unfold TokenStream.complete TokenStream.ofChars Reads Segmentation.ofChars
  by_cases ends : endsUnescaped source = true
  · obtain ⟨fault, found⟩ := Option.ne_none_iff_exists'.1 (readFrom_unterminated
      ⟨byteWidth source - 1, byteWidth source⟩ (byteWidth source) .opening (Piece.locate 0 (Piece.split source)))
    simp [ends, found]
  · simp only [ends, Bool.false_eq_true, ↓reduceIte, true_and, ← readFrom_eq_none (byteWidth source)]
    rcases TokenStream.readFrom (TokenStream.faultAtEnd none (byteWidth source)) .opening
      (Piece.locate 0 (Piece.split source)) with ⟨read, fault⟩
    cases fault <;> simp

/-! ## Reading one piece -/

theorem reads_nil {region : Region} {offset : Nat} {tokens : List Token} :
    Reads region offset [] tokens ↔ region.mayEnd = true ∧ tokens = [] := by
  simp [Reads, endsUnescaped, Piece.split, Piece.locate, takes_nil]

theorem not_reads_backslash {region : Region} {offset : Nat} {tokens : List Token} :
    ¬ Reads region offset ['\\'] tokens := by simp [Reads, endsUnescaped]

/-- The first piece is read on its own, and the rest from the region that it leads to. -/
theorem reads_append {piece : Piece} {rest : List Char} (heads : Heads piece rest) {region : Region} {offset : Nat}
    {tokens : List Token} :
    Reads region offset (piece.chars ++ rest) tokens ↔
      ∃ next own later, region.step (piece.at offset) = .ok (next, own) ∧ tokens = own ++ later ∧
        Reads next (offset + byteWidth piece.chars) rest later := by
  unfold Reads
  rw [heads.endsUnescaped, heads.split, Piece.locate, takes_cons]
  constructor
  · rintro ⟨ends, next, own, later, taken, rfl, after⟩
    exact ⟨next, own, later, taken, rfl, ends, after⟩
  · rintro ⟨next, own, later, taken, rfl, ends, after⟩
    exact ⟨ends, next, own, later, taken, rfl, after⟩

/-- The first piece of a source takes a step that leads to a region from which the rest is read. -/
def Advances (step : Atom → Region.Step) (offset : Nat) (source : List Char) (tokens : List Token) : Prop :=
  ∃ piece rest next own later, Heads piece rest ∧ source = piece.chars ++ rest ∧
    step (piece.at offset) = .ok (next, own) ∧ tokens = own ++ later ∧
    Reads next (offset + byteWidth piece.chars) rest later

/-- The source either ends or has a first piece. -/
theorem Reads.ended_or_advances {region : Region} {offset : Nat} {source : List Char} {tokens : List Token}
    (reads : Reads region offset source tokens) :
    (source = [] ∧ region.mayEnd = true ∧ tokens = []) ∨
      Advances (fun atom => region.step atom) offset source tokens := by
  by_cases empty : source = []
  · subst empty
    exact .inl ⟨rfl, reads_nil.1 reads⟩
  · have backslash : source ≠ ['\\'] := by
      rintro rfl
      exact not_reads_backslash reads
    obtain ⟨piece, rest, rfl, heads⟩ := exists_heads empty backslash
    obtain ⟨next, own, later, taken, rfl, after⟩ := (reads_append heads).1 reads
    exact .inr ⟨piece, rest, next, own, later, heads, rfl, taken, rfl, after⟩

/-- Where the source may not end there is a first piece. -/
theorem Reads.advances {region : Region} {offset : Nat} {source : List Char} {tokens : List Token}
    (reads : Reads region offset source tokens) (goes : region.mayEnd = false) :
    Advances (fun atom => region.step atom) offset source tokens := by
  rcases reads.ended_or_advances with ⟨_, may, _⟩ | advances
  · rw [goes] at may
    cases may
  · exact advances

/-- Regions that take all characters but those that end them. A state grows by the characters that an atom
stands for and the bytes that it takes. -/
structure Gathers {σ : Type} (region : σ → Region) (grow : σ → List Char → Span → σ) (ends brackets : List Char) :
    Prop where
  goes : ∀ state, (region state).mayEnd = false
  marks : ∀ c ∈ ends, isPunctuation c = true
  bare : ∀ state (atom : Atom), atom.kind ≠ .escape → (∀ c ∈ ends, atom.isPunctuator c = false) →
    (region state).step atom = .ok (region (grow state atom.chars atom.span), [])
  escape : ∀ state (atom : Atom), atom.kind = .escape → (region state).step atom =
    match Region.escaped? brackets atom.chars with
    | some c => .ok (region (grow state [c] atom.span), [])
    | none => .error .unexpectedEscape
  assoc : ∀ state left right (start middle stop : Nat),
    grow (grow state left ⟨start, middle⟩) right ⟨middle, stop⟩ = grow state (left ++ right) ⟨start, stop⟩

namespace Gathers

variable {σ : Type} {region : σ → Region} {grow : σ → List Char → Span → σ} {ends brackets : List Char}

private theorem reads_piece (gathers : Gathers region grow ends brackets) (state : σ) {piece : Piece}
    {rest : List Char} (heads : Heads piece rest) (escape : piece.kind ≠ .escape) {offset : Nat}
    (goes : ∀ c ∈ ends, (piece.at offset).isPunctuator c = false) (tokens : List Token) :
    Reads (region state) offset (piece.chars ++ rest) tokens ↔
      Reads (region (grow state piece.chars ⟨offset, offset + byteWidth piece.chars⟩))
        (offset + byteWidth piece.chars) rest tokens := by
  rw [reads_append heads, gathers.bare state (piece.at offset) escape goes]
  constructor
  · rintro ⟨next, own, later, taken, rfl, after⟩
    cases taken
    exact after
  · intro after
    exact ⟨_, _, tokens, rfl, rfl, after⟩

/-- The characters of a run may be taken one by one. -/
theorem reads_bare (gathers : Gathers region grow ends brackets) (state : σ) {c : Char}
    (plain : c ≠ '\\' ∧ c ∉ ends) {offset : Nat} {rest : List Char} {tokens : List Token} :
    Reads (region state) offset (c :: rest) tokens ↔
      Reads (region (grow state [c] ⟨offset, offset + byteWidth [c]⟩)) (offset + byteWidth [c]) rest tokens := by
  obtain ⟨piece, later, text, heads⟩ := exists_heads (List.cons_ne_nil c rest)
    (fun whole => plain.1 (List.cons.inj whole).1)
  cases heads with
  | escape => exact absurd (List.cons.inj text).1 plain.1
  | punctuator mark =>
    obtain ⟨rfl, rfl⟩ := List.cons.inj text
    refine gathers.reads_piece state (.punctuator mark) (by simp) ?_ tokens
    intro d member
    have other : d ≠ c := fun same => plain.2 (same ▸ member)
    simp [Atom.isPunctuator, Piece.at, other.symm]
  | @run kind chars _ joins filled same stops =>
    have escape : kind ≠ .escape := by rcases joins with rfl | rfl <;> decide
    have goes : ∀ (chars : List Char) (offset : Nat), ∀ d ∈ ends,
        (Piece.at ⟨kind, chars⟩ offset).isPunctuator d = false := by
      intro _ _ d _
      rcases joins with rfl | rfl <;> simp [Atom.isPunctuator, Piece.at]
    cases chars with
    | nil => exact absurd rfl filled
    | cons first others =>
      obtain ⟨rfl, rfl⟩ := List.cons.inj text
      have heads : Heads ⟨kind, c :: others⟩ later := .run joins filled same stops
      by_cases last : others = []
      · subst last
        exact gathers.reads_piece state heads escape (goes _ _) tokens
      · have whole := gathers.reads_piece state heads escape (goes _ offset) tokens
        have parted := gathers.reads_piece (grow state [c] ⟨offset, offset + byteWidth [c]⟩)
          (heads.tail plain.1 last) escape (goes _ (offset + byteWidth [c])) tokens
        have width : offset + byteWidth (c :: others) = offset + byteWidth [c] + byteWidth others := by
          rw [← List.singleton_append, byteWidth_append, Nat.add_assoc]
        simp only [width] at whole
        rw [gathers.assoc] at parted
        exact whole.trans parted.symm

theorem reads_escaped (gathers : Gathers region grow ends brackets) (state : σ) {c : Char}
    (special : c = '\\' ∨ c ∈ brackets) {offset : Nat} {rest : List Char} {tokens : List Token} :
    Reads (region state) offset ('\\' :: c :: rest) tokens ↔
      Reads (region (grow state [c] ⟨offset, offset + byteWidth ['\\', c]⟩)) (offset + byteWidth ['\\', c]) rest
        tokens := by
  have read : Reads (region state) offset (['\\', c] ++ rest) tokens ↔ _ :=
    reads_append (.escape : Heads ⟨.escape, ['\\', c]⟩ rest)
  rw [gathers.escape state _ rfl] at read
  simp only [Piece.at, Region.escaped?, if_pos special] at read
  rw [show '\\' :: c :: rest = ['\\', c] ++ rest from rfl, read]
  constructor
  · rintro ⟨next, own, later, taken, rfl, after⟩
    cases taken
    exact after
  · intro after
    exact ⟨_, _, tokens, rfl, rfl, after⟩

/-- A state that has gathered signs which start at an offset. -/
def gathered (grow : σ → List Char → Span → σ) (state : σ) (offset : Nat) : List (Layout.Sign ends brackets) → σ
  | [] => state
  | sign :: rest => grow state ((sign :: rest).map Layout.Sign.value)
    ⟨offset, offset + byteWidth ((sign :: rest).flatMap Layout.Sign.chars)⟩

theorem reads_signs (gathers : Gathers region grow ends brackets) (state : σ) (signs : List (Layout.Sign ends brackets))
    {offset : Nat} {rest : List Char} {tokens : List Token} :
    Reads (region state) offset (signs.flatMap Layout.Sign.chars ++ rest) tokens ↔
      Reads (region (gathered grow state offset signs)) (offset + byteWidth (signs.flatMap Layout.Sign.chars)) rest
        tokens := by
  induction signs generalizing state offset with
  | nil => rfl
  | cons sign later ih =>
    have first : Reads (region state) offset (sign.chars ++ (later.flatMap Layout.Sign.chars ++ rest)) tokens ↔
        Reads (region (grow state [sign.value] ⟨offset, offset + byteWidth sign.chars⟩))
          (offset + byteWidth sign.chars) (later.flatMap Layout.Sign.chars ++ rest) tokens := by
      cases sign with
      | bare c plain => exact gathers.reads_bare state plain
      | escaped c special => exact gathers.reads_escaped state special
    have width : offset + byteWidth ((sign :: later).flatMap Layout.Sign.chars) =
        offset + byteWidth sign.chars + byteWidth (later.flatMap Layout.Sign.chars) := by
      rw [List.flatMap_cons, byteWidth_append, Nat.add_assoc]
    have grown : gathered grow (grow state [sign.value] ⟨offset, offset + byteWidth sign.chars⟩)
        (offset + byteWidth sign.chars) later = gathered grow state offset (sign :: later) := by
      cases later with
      | nil => simp [gathered]
      | cons second others =>
        simp only [gathered]
        rw [gathers.assoc, width]
        rfl
    rw [List.flatMap_cons, List.append_assoc, first, ih, grown, ← List.flatMap_cons, width]

/-- What is read starts with signs, up to a character that ends them. -/
theorem exists_signs (gathers : Gathers region grow ends brackets) {state : σ} {offset : Nat} {source : List Char}
    {tokens : List Token} (reads : Reads (region state) offset source tokens) :
    ∃ (signs : List (Layout.Sign ends brackets)) (c : Char) (rest : List Char),
      source = signs.flatMap Layout.Sign.chars ++ c :: rest ∧ c ∈ ends := by
  cases source with
  | nil =>
    rw [reads_nil, gathers.goes] at reads
    cases reads.1
  | cons c rest =>
    by_cases ended : c ∈ ends
    · exact ⟨[], c, rest, rfl, ended⟩
    by_cases backslash : c = '\\'
    · subst backslash
      cases rest with
      | nil => exact absurd reads not_reads_backslash
      | cons d later =>
        by_cases special : d = '\\' ∨ d ∈ brackets
        · obtain ⟨signs, e, last, rfl, member⟩ := gathers.exists_signs ((gathers.reads_escaped state special).1 reads)
          exact ⟨.escaped d special :: signs, e, last, rfl, member⟩
        · have read := (reads_append (.escape : Heads ⟨.escape, ['\\', d]⟩ later)).1 reads
          rw [gathers.escape state _ rfl] at read
          simp [Piece.at, Region.escaped?, special] at read
    · obtain ⟨signs, e, last, rfl, member⟩ :=
        gathers.exists_signs ((gathers.reads_bare state ⟨backslash, ended⟩).1 reads)
      exact ⟨.bare c ⟨backslash, ended⟩ :: signs, e, last, rfl, member⟩
termination_by source.length

end Gathers

/-- The inside of a literal gathers up to the closing parenthesis. -/
theorem gathers_literal (role : LiteralRole) (start : Nat) :
    Gathers (.literal role start) (fun chars more _ => chars ++ more) [')'] ['(', ')'] where
  goes _ := rfl
  marks := List.all_eq_true.1 rfl
  bare state atom escape goes := by
    have close := goes ')' (by simp)
    simp [Region.step, Region.literalStep, Region.skip, close, escape]
  escape state atom escape := by
    have close : atom.isPunctuator ')' = false := by simp [Atom.isPunctuator, escape]
    simp only [Region.step, Region.literalStep, Region.skip, close, escape]
    rfl
  assoc _ _ _ _ _ _ := List.append_assoc ..

/-- Pending text with more characters behind it. -/
def growPending (pending : Option PendingText) (chars : List Char) (span : Span) : Option PendingText :=
  match pending with
  | some text => some ⟨text.chars ++ chars, ⟨text.span.start, span.stop⟩⟩
  | none => some ⟨chars, span⟩

/-- The inside of a pattern gathers up to a brace. -/
theorem gathers_pattern (seat : Seat) :
    Gathers (.pattern seat) growPending ['{', '}'] ['{', '}'] where
  goes _ := rfl
  marks := List.all_eq_true.1 rfl
  bare pending atom escape goes := by
    have opening := goes '{' (by simp)
    have close := goes '}' (by simp)
    cases pending <;> simp [Region.step, Region.patternStep, Region.skip, opening, close, escape, growPending]
  escape pending atom escape := by
    have other : ∀ c, atom.isPunctuator c = false := by simp [Atom.isPunctuator, escape]
    cases pending <;> simp only [Region.step, Region.patternStep, Region.skip, other, escape] <;> rfl
  assoc pending left right start middle stop := by
    cases pending <;> simp [growPending]

theorem reads_literal (role : LiteralRole) (start : Nat) (signs : List Layout.LiteralSign) {offset : Nat}
    {rest : List Char} {tokens : List Token} :
    Reads (.literal role start []) offset (signs.flatMap Layout.Sign.chars ++ ')' :: rest) tokens ↔
      ∃ later, tokens = ⟨.literal, signs.map Layout.Sign.value,
          ⟨start, offset + byteWidth (signs.flatMap Layout.Sign.chars) + byteWidth [')']⟩⟩ :: later ∧
        Reads (Region.afterLiteral role) (offset + byteWidth (signs.flatMap Layout.Sign.chars) + byteWidth [')'])
          rest later := by
  have gathered : Gathers.gathered (fun chars more _ => chars ++ more) [] offset signs =
      signs.map Layout.Sign.value := by
    cases signs <;> rfl
  have close : Heads ⟨.punctuator, [')']⟩ rest := .punctuator rfl
  rw [(gathers_literal role start).reads_signs, gathered, show ')' :: rest = [')'] ++ rest from rfl,
    reads_append close]
  constructor
  · rintro ⟨next, own, later, taken, rfl, after⟩
    cases taken
    exact ⟨later, rfl, after⟩
  · rintro ⟨later, rfl, after⟩
    exact ⟨_, _, later, rfl, rfl, after⟩

/-- A brace completes the text in front of it, and is a token of its own. -/
theorem Region.step_brace {seat : Seat} {offset : Nat} (signs : List Layout.TextSign) {c : Char} {next : Region}
    (brace : c = '}' ∧ next = afterPattern seat ∨ c = '{' ∧ next = .expression seat) (span : Span) :
    (Region.pattern seat (Gathers.gathered growPending none offset signs)).step ⟨.punctuator, [c], span⟩ =
      .ok (next, tokensOf offset (Layout.textStretches signs) ++ [⟨.punctuator, [c], span⟩]) := by
  rcases brace with ⟨rfl, rfl⟩ | ⟨rfl, rfl⟩ <;> cases signs <;> rfl

/-- Text up to a brace is one token, or none if it is empty. -/
theorem reads_text {seat : Seat} {c : Char} {next : Region}
    (brace : c = '}' ∧ next = Region.afterPattern seat ∨ c = '{' ∧ next = .expression seat)
    (signs : List Layout.TextSign) {offset : Nat} {rest : List Char} {tokens : List Token} :
    Reads (.pattern seat none) offset (signs.flatMap Layout.Sign.chars ++ c :: rest) tokens ↔
      ∃ later, tokens = tokensOf offset (Layout.textStretches signs ++ [.mark c]) ++ later ∧
        Reads next (offset + byteWidth (signs.flatMap Layout.Sign.chars) + byteWidth [c]) rest later := by
  have mark : isPunctuation c = true := by rcases brace with ⟨rfl, _⟩ | ⟨rfl, _⟩ <;> rfl
  have close : Heads ⟨.punctuator, [c]⟩ rest := .punctuator mark
  have own : tokensOf offset (Layout.textStretches signs ++ [.mark c]) =
      tokensOf offset (Layout.textStretches signs) ++ [⟨.punctuator, [c],
        ⟨offset + byteWidth (signs.flatMap Layout.Sign.chars),
          offset + byteWidth (signs.flatMap Layout.Sign.chars) + byteWidth [c]⟩⟩] := by
    rw [tokensOf_append, Layout.charsOf_textStretches]
    rfl
  rw [(gathers_pattern seat).reads_signs, show c :: rest = [c] ++ rest from rfl, reads_append close, own]
  simp only [Piece.at, Region.step_brace signs brace, Except.ok.injEq, Prod.mk.injEq]
  constructor
  · rintro ⟨_, _, later, ⟨rfl, rfl⟩, rfl, after⟩
    exact ⟨later, rfl, after⟩
  · rintro ⟨later, rfl, after⟩
    exact ⟨_, _, later, ⟨rfl, rfl⟩, rfl, after⟩

end Localizable
