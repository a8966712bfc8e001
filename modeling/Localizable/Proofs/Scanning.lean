import Localizable.Atom.Scan
import Localizable.Proofs.ErrorPlaces
import Mathlib.Algebra.Ring.Parity
import Mathlib.Data.List.Chain
import Mathlib.Data.List.DropRight

/-!
# Scanning loses nothing

The atoms of a source, with the backslash that nothing follows if there is one, make
up the source from its first byte to its last, and they are the only atoms that do
(`Segmentation.canonical`). A scan gives them one by one and then nothing more.

A scan is followed piece by piece: what stands in front of a text (`Heads`) is what
a scan finds there (`first?_of_heads`). The lone backslash is told by the run of
backslashes at the end of the source, from which every escape takes two or none.
-/

namespace Localizable
open Text

theorem isWordChar_iff {c : Char} : isWordChar c = true ↔ OfKind .word c := by
  simp [isWordChar, ofKind_word, and_assoc]

section
variable {kind : AtomKind} {belongs : Char → Bool} {chars rest : List Char}

theorem run?_append (filled : chars ≠ []) (same : ∀ c ∈ chars, belongs c = true)
    (stops : ∀ c ∈ rest.head?, ¬ belongs c = true) :
    Piece.run? kind belongs (chars ++ rest) = some (⟨kind, chars⟩, rest) := by
  have ended : rest.takeWhile belongs = [] ∧ rest.dropWhile belongs = rest := by
    cases rest with
    | nil => exact ⟨rfl, rfl⟩
    | cons c later => simp [stops c rfl]
  simp [Piece.run?, List.takeWhile_append_of_pos same, List.dropWhile_append_of_pos same, ended.1, ended.2, filled]

theorem run?_cons_eq_none {c : Char} (other : ¬ belongs c = true) : Piece.run? kind belongs (c :: rest) = none := by
  simp [Piece.run?, other]

end

theorem escape?_cons_eq_none {c : Char} (backslash : c ≠ '\\') (rest : List Char) :
    Piece.escape? (c :: rest) = none := by
  unfold Piece.escape?
  split
  next same => exact absurd (List.cons.inj same).1 backslash
  next => rfl

/-- A text that does not begin with whitespace begins with something else, or with nothing. -/
theorem first?_cons {c : Char} {kind : AtomKind} (ofKind : OfKind kind c) (other : kind ≠ .whitespace)
    (rest : List Char) :
    Piece.first? (c :: rest) = (Piece.punctuator? (c :: rest)).or (Piece.run? .word isWordChar (c :: rest)) := by
  have blank : ¬ isSpacing c = true := fun spacing => other (ofKind.unique (ofKind_whitespace.2 spacing))
  rw [Piece.first?, run?_cons_eq_none blank, escape?_cons_eq_none ofKind.1, Option.none_or, Option.none_or]

/-- What a text begins with is found in front of it. -/
theorem first?_of_heads {piece : Piece} {rest : List Char} (heads : Heads piece rest) :
    Piece.first? (piece.chars ++ rest) = some (piece, rest) := by
  cases heads with
  | @run kind chars rest joins filled same stops =>
    rcases joins with rfl | rfl
    · have word : Piece.run? .word isWordChar (chars ++ rest) = some (⟨.word, chars⟩, rest) :=
        run?_append filled (fun c member => isWordChar_iff.2 (same c member))
          (fun c head own => stops c head (isWordChar_iff.1 own))
      obtain ⟨c, later, rfl⟩ := List.exists_cons_of_ne_nil filled
      have ofKind := same c List.mem_cons_self
      have mark : ¬ isPunctuation c = true := fun mark => nomatch ofKind.unique (ofKind_punctuator.2 mark)
      rw [List.cons_append] at word ⊢
      rw [first?_cons ofKind (by decide), word, Piece.punctuator?, if_neg mark, Option.none_or]
    · have whitespace : Piece.run? .whitespace isSpacing (chars ++ rest) = some (⟨.whitespace, chars⟩, rest) :=
        run?_append filled (fun c member => ofKind_whitespace.1 (same c member))
          (fun c head own => stops c head (ofKind_whitespace.2 own))
      rw [Piece.first?, whitespace, Option.some_or]
  | @punctuator c rest mark =>
    rw [List.singleton_append, first?_cons (ofKind_punctuator.2 mark) (by decide), Piece.punctuator?, if_pos mark,
      Option.some_or]
  | @escape c rest => rfl

/-- The atoms of a source, and behind them a fault where the source ends in the middle of an escape. -/
def Segmentation.outcomes (segmentation : Segmentation) (source : List Char) : List (Except LexError Atom) :=
  segmentation.atoms.map .ok ++
    segmentation.unterminated.toList.map fun span => .error (.quote .unterminatedEscape span source)

namespace Scan

/-- A scan that is over stays over. -/
theorem answer_of_finished {scan : Scan} (finished : scan.ended = true ∨ scan.rest = []) (turn : Nat) :
    scan.answer turn = none := by
  have next : scan.next = (none, scan) := by
    rw [Scan.next, if_pos]
    rcases finished with ended | empty
    · simp [ended]
    · simp [empty]
  induction turn with
  | zero => rw [answer, next]
  | succ turn ih => rw [answer, next, ih]

/-- The rest of a source is split on its own, from the bytes behind what has been read. -/
theorem answer_rest {source : List Char} (rest : List Char) {front : List Char} (whole : source = front ++ rest)
    (turn : Nat) :
    (⟨source, rest, false⟩ : Scan).answer turn =
      (Segmentation.outcomes ⟨Piece.locate (byteWidth front) (Piece.split rest),
        if endsUnescaped rest then some ⟨byteWidth source - 1, byteWidth source⟩ else none⟩ source)[turn]? := by
  induction rest using pieces_induction generalizing front turn with
  | empty => exact answer_of_finished (.inr rfl) turn
  | backslash =>
    have next : (⟨source, ['\\'], false⟩ : Scan).next =
        (some (.error (.quote .unterminatedEscape ⟨byteWidth source - 1, byteWidth source⟩ source)),
          ⟨source, ['\\'], true⟩) := rfl
    cases turn with
    | zero => rw [answer, next]; rfl
    | succ turn =>
      rw [answer, next, answer_of_finished (.inl rfl)]
      rfl
  | piece piece rest heads ih =>
    have offset : byteWidth source - byteWidth (piece.chars ++ rest) = byteWidth front := by
      rw [whole, byteWidth_append]
      omega
    have filled : (piece.chars ++ rest).isEmpty = false := by simp [heads.filled]
    have next : (⟨source, piece.chars ++ rest, false⟩ : Scan).next =
        (some (.ok (piece.at (byteWidth front))), ⟨source, rest, false⟩) := by
      simp only [Scan.next, filled, Bool.or_self, Bool.false_eq_true, if_false, first?_of_heads heads, offset]
      rfl
    have later := @ih (front ++ piece.chars) (by rw [whole, List.append_assoc])
    rw [byteWidth_append] at later
    rw [heads.split, heads.endsUnescaped]
    cases turn with
    | zero => rw [answer, next]; rfl
    | succ turn => rw [answer, next, later]; rfl

end Scan

/-! ## What makes up a source -/

/-- The characters fill a span of the source. -/
def StandsAt (source : List Char) (span : Span) (chars : List Char) : Prop :=
  ∃ front back, source = front ++ (chars ++ back) ∧ span = ⟨byteWidth front, byteWidth front + byteWidth chars⟩

/-- Spans that are not empty lead from one offset to another, each from where the one before it stops. -/
def Reaches : Nat → List Span → Nat → Prop
  | start, [], stop => start = stop
  | start, span :: rest, stop => span.start = start ∧ span.start < span.stop ∧ Reaches span.stop rest stop

/-- What an atom of a kind is made of. -/
def AtomKind.Spells : AtomKind → List Char → Prop
  | .whitespace, chars => ∀ c ∈ chars, c ∈ [' ', '\t', '\r', '\n']
  | .punctuator, chars => ∃ c ∈ ['{', '}', '=', '*', '(', ')'], chars = [c]
  | .escape, chars => ∃ c, chars = ['\\', c]
  | .word, chars => ∀ c ∈ chars, c ∉ [' ', '\t', '\r', '\n', '{', '}', '=', '*', '(', ')', '\\']

/-- Two atoms are runs of the same kind. -/
def SameRun (left right : Atom) : Prop := left.kind = right.kind ∧ (left.kind = .whitespace ∨ left.kind = .word)

/-- Atoms, and behind them a lone backslash if there is one, make up a source from an offset on: they are what stands
there, each is made of what its kind is made of, and runs are as long as they can be. -/
structure MakeUp (source : List Char) (offset : Nat) (atoms : List Atom) (unterminated : Option Span) : Prop where
  reaches : Reaches offset (atoms.map Atom.span ++ unterminated.toList) (byteWidth source)
  stands : ∀ atom ∈ atoms, StandsAt source atom.span atom.chars
  spelled : ∀ atom ∈ atoms, atom.kind.Spells atom.chars
  maximal : atoms.IsChain fun left right => ¬ SameRun left right
  backslash : ∀ span ∈ unterminated, StandsAt source span ['\\']

theorem isSpacing_iff {c : Char} : isSpacing c = true ↔ c ∈ [' ', '\t', '\r', '\n'] := by
  simp [isSpacing, or_assoc]

theorem isPunctuation_iff {c : Char} : isPunctuation c = true ↔ c ∈ ['{', '}', '=', '*', '(', ')'] := by
  simp [isPunctuation, or_assoc]

theorem ofKind_word_iff {c : Char} :
    OfKind .word c ↔ c ∉ [' ', '\t', '\r', '\n', '{', '}', '=', '*', '(', ')', '\\'] := by
  have listed : c ∈ [' ', '\t', '\r', '\n', '{', '}', '=', '*', '(', ')', '\\'] ↔
      isSpacing c = true ∨ isPunctuation c = true ∨ c = '\\' := by
    rw [isSpacing_iff, isPunctuation_iff]
    simp [or_assoc]
  rw [listed, ofKind_word]
  simp

theorem Heads.spells {piece : Piece} {rest : List Char} (heads : Heads piece rest) :
    piece.kind.Spells piece.chars := by
  cases heads with
  | @run kind chars rest joins filled same stops =>
    rcases joins with rfl | rfl
    · exact fun c member => ofKind_word_iff.1 (same c member)
    · exact fun c member => isSpacing_iff.1 (ofKind_whitespace.1 (same c member))
  | @punctuator c rest mark => exact ⟨c, isPunctuation_iff.1 mark, rfl⟩
  | @escape c rest => exact ⟨c, rfl⟩

/-- Characters that a kind is made of are what a text begins with, if a run of them does not go on. -/
theorem heads_of_spells {kind : AtomKind} {chars rest : List Char} (spells : kind.Spells chars) (filled : chars ≠ [])
    (stops : kind = .whitespace ∨ kind = .word → Stops kind rest) : Heads ⟨kind, chars⟩ rest := by
  cases kind with
  | word => exact .run (.inl rfl) filled (fun c member => ofKind_word_iff.2 (spells c member)) (stops (.inr rfl))
  | whitespace =>
    exact .run (.inr rfl) filled (fun c member => ofKind_whitespace.2 (isSpacing_iff.2 (spells c member)))
      (stops (.inl rfl))
  | punctuator =>
    obtain ⟨c, mark, rfl⟩ := spells
    exact .punctuator (isPunctuation_iff.2 mark)
  | escape =>
    obtain ⟨c, rfl⟩ := spells
    exact .escape

/-- A run does not go on in a piece of another kind. -/
theorem Heads.stops {piece : Piece} {rest : List Char} (heads : Heads piece rest) {kind : AtomKind}
    (other : piece.kind ≠ kind) : Stops kind (piece.chars ++ rest) := by
  cases heads with
  | @run own chars rest joins filled same stops =>
    obtain ⟨c, later, rfl⟩ := List.exists_cons_of_ne_nil filled
    exact stops_cons.2 fun ofKind => other ((same c List.mem_cons_self).unique ofKind)
  | @punctuator c rest mark => exact stops_cons.2 fun ofKind => other ((ofKind_punctuator.2 mark).unique ofKind)
  | @escape c rest => exact stops_cons.2 fun ofKind => ofKind.1 rfl

/-- What follows a run does not go on with it. -/
theorem Heads.run_stops {piece : Piece} {rest : List Char} (heads : Heads piece rest)
    (joins : piece.kind = .whitespace ∨ piece.kind = .word) : Stops piece.kind rest := by
  cases heads with
  | run _ filled same stops => exact stops
  | punctuator mark => rcases joins with kind | kind <;> cases kind
  | escape => rcases joins with kind | kind <;> cases kind

/-! ### The atoms of a source make it up -/

theorem makeUp_split {source : List Char} (rest : List Char) {front : List Char} (whole : source = front ++ rest) :
    MakeUp source (byteWidth front) (Piece.locate (byteWidth front) (Piece.split rest))
      (if endsUnescaped rest then some ⟨byteWidth source - 1, byteWidth source⟩ else none) := by
  induction rest using pieces_induction generalizing front with
  | empty =>
    rw [List.append_nil] at whole
    subst whole
    exact ⟨rfl, by simp [Piece.split, Piece.locate], by simp [Piece.split, Piece.locate], .nil, by simp [endsUnescaped]⟩
  | backslash =>
    have width : byteWidth source = byteWidth front + 1 := by rw [whole, byteWidth_append]; rfl
    have span : (⟨byteWidth source - 1, byteWidth source⟩ : Span) =
        ⟨byteWidth front, byteWidth front + byteWidth ['\\']⟩ := by rw [width]; rfl
    refine ⟨?_, by simp [Piece.split, Piece.locate], by simp [Piece.split, Piece.locate], .nil, ?_⟩
    · show Reaches (byteWidth front) [⟨byteWidth source - 1, byteWidth source⟩] (byteWidth source)
      refine ⟨?_, ?_, rfl⟩ <;> dsimp only <;> omega
    · intro own member
      cases member
      exact ⟨front, [], by rw [whole]; rfl, span⟩
  | piece piece rest heads ih =>
    have later := @ih (front ++ piece.chars) (by rw [whole, List.append_assoc])
    rw [byteWidth_append] at later
    rw [heads.split, heads.endsUnescaped]
    have wide := byteWidth_pos heads.filled
    constructor
    · exact ⟨rfl, Nat.lt_add_of_pos_right wide, later.reaches⟩
    · intro atom member
      rcases List.mem_cons.1 member with rfl | member
      · exact ⟨front, rest, whole, rfl⟩
      · exact later.stands atom member
    · intro atom member
      rcases List.mem_cons.1 member with rfl | member
      · exact heads.spells
      · exact later.spelled atom member
    · refine List.isChain_cons.2 ⟨?_, later.maximal⟩
      rintro atom head ⟨same, joins⟩
      cases split : Piece.split rest with
      | nil =>
        rw [split] at head
        cases head
      | cons next others =>
        rw [split] at head
        cases head
        have same : piece.kind = next.kind := same
        rcases kind_of_split split with escape | ⟨c, first, ofKind⟩
        · rcases joins with kind | kind <;> cases escape.symm.trans (same.symm.trans kind)
        · exact heads.run_stops joins c first (same ▸ ofKind)
    · exact later.backslash

/-! ### Nothing else makes it up -/

/-- A text is cut at an offset in one way only. -/
theorem append_inj_of_byteWidth {front rest other back : List Char} (same : front ++ rest = other ++ back)
    (width : byteWidth front = byteWidth other) : front = other ∧ rest = back := by
  have fronts : front = other := by
    rw [← takeBytes_byteWidth front rest, same, width, takeBytes_byteWidth]
  subst fronts
  exact ⟨rfl, List.append_cancel_left same⟩

theorem StandsAt.split {source front rest : List Char} {span : Span} {chars : List Char}
    (stands : StandsAt source span chars) (whole : source = front ++ rest) (starts : span.start = byteWidth front) :
    ∃ back, rest = chars ++ back ∧ span = ⟨byteWidth front, byteWidth front + byteWidth chars⟩ := by
  obtain ⟨before, back, same, rfl⟩ := stands
  obtain ⟨rfl, rfl⟩ := append_inj_of_byteWidth (whole.symm.trans same) starts.symm
  exact ⟨back, rfl, rfl⟩

theorem byteWidth_eq_zero {text : List Char} (empty : byteWidth text = 0) : text = [] := by
  by_contra filled
  have wide := byteWidth_pos filled
  omega

/-- Atoms that make up the rest of a source are those that it is split into. -/
theorem MakeUp.eq_split {source front rest : List Char} {atoms : List Atom} {unterminated : Option Span}
    (makeUp : MakeUp source (byteWidth front) atoms unterminated) (whole : source = front ++ rest) :
    atoms = Piece.locate (byteWidth front) (Piece.split rest) ∧
      unterminated = if endsUnescaped rest then some ⟨byteWidth source - 1, byteWidth source⟩ else none := by
  induction atoms generalizing front rest with
  | nil =>
    cases unterminated with
    | none =>
      have stop : byteWidth front = byteWidth source := makeUp.reaches
      rw [whole, byteWidth_append] at stop
      cases byteWidth_eq_zero (by omega : byteWidth rest = 0)
      exact ⟨rfl, rfl⟩
    | some span =>
      obtain ⟨starts, _, stop⟩ := makeUp.reaches
      obtain ⟨back, rfl, rfl⟩ := (makeUp.backslash span rfl).split whole starts
      have stop : byteWidth front + byteWidth ['\\'] = byteWidth source := stop
      have width : byteWidth source = byteWidth front + (byteWidth ['\\'] + byteWidth back) := by
        rw [whole, byteWidth_append, byteWidth_append]
      cases byteWidth_eq_zero (by omega : byteWidth back = 0)
      refine ⟨rfl, ?_⟩
      rw [← stop]
      rfl
  | cons atom others ih =>
    obtain ⟨kind, chars, span⟩ := atom
    obtain ⟨starts, filled, reaches⟩ := makeUp.reaches
    have stands : StandsAt source span chars := makeUp.stands _ List.mem_cons_self
    obtain ⟨back, rfl, rfl⟩ := stands.split whole starts
    obtain ⟨maximal, chain⟩ := List.isChain_cons.1 makeUp.maximal
    have later : MakeUp source (byteWidth (front ++ chars)) others unterminated :=
      ⟨by rw [byteWidth_append]; exact reaches, fun atom member => makeUp.stands atom (List.mem_cons_of_mem _ member),
        fun atom member => makeUp.spelled atom (List.mem_cons_of_mem _ member), chain, makeUp.backslash⟩
    obtain ⟨atoms, ends⟩ := ih later (by rw [whole, List.append_assoc])
    have written : chars ≠ [] := by
      rintro rfl
      exact absurd filled (Nat.lt_irrefl _)
    have stops : kind = .whitespace ∨ kind = .word → Stops kind back := by
      intro joins
      by_cases empty : back = []
      · rw [empty]
        exact stops_nil kind
      by_cases lone : back = ['\\']
      · rw [lone]
        exact stops_cons.2 fun ofKind => ofKind.1 rfl
      obtain ⟨next, rest, rfl, heads⟩ := exists_heads empty lone
      refine heads.stops fun same => ?_
      rw [atoms, heads.split] at maximal
      exact maximal (next.at _) rfl ⟨same.symm, joins⟩
    have heads := heads_of_spells (makeUp.spelled _ List.mem_cons_self) written stops
    have split := heads.split
    have unescaped := heads.endsUnescaped
    rw [split, unescaped, ends, atoms, byteWidth_append]
    exact ⟨rfl, rfl⟩

/-! ## The run of backslashes at the end -/

/-- The number of backslashes that a text ends in. -/
def endingBackslashes (text : List Char) : Nat := (text.rtakeWhile (· == '\\')).length

theorem endingBackslashes_append (front back : List Char) :
    endingBackslashes (front ++ back) =
      endingBackslashes back + if endingBackslashes back = back.length then endingBackslashes front else 0 := by
  simp only [endingBackslashes, List.rtakeWhile, List.length_reverse, List.reverse_append, List.takeWhile_append]
  split
  next whole => rw [List.length_append, List.length_reverse, whole]
  next => rfl

/-- Whatever a text begins with, an even number of backslashes stands at the end of it. -/
theorem Heads.even_endingBackslashes {piece : Piece} {rest : List Char} (heads : Heads piece rest) :
    Even (endingBackslashes piece.chars) := by
  have plain : ∀ {chars : List Char}, (∀ c ∈ chars, c ≠ '\\') → endingBackslashes chars = 0 := by
    intro chars plain
    have empty : chars.rtakeWhile (· == '\\') = [] :=
      List.rtakeWhile_eq_nil_iff.2 fun filled => by simpa using plain _ (List.getLast_mem filled)
    rw [endingBackslashes, empty, List.length_nil]
  cases heads with
  | run joins filled same stops =>
    rw [plain fun c member => (same c member).1]
    exact Even.zero
  | punctuator mark =>
    rw [plain fun c member => (ofKind_punctuator.2 (List.mem_singleton.1 member ▸ mark)).1]
    exact Even.zero
  | @escape c rest =>
    by_cases backslash : c = '\\'
    · subst backslash
      exact even_two
    · have none : endingBackslashes ['\\', c] = 0 := by simp [endingBackslashes, List.rtakeWhile, backslash]
      rw [none]
      exact Even.zero

/-- An escape is left unfinished at the end of a text if an odd number of backslashes stands there. -/
theorem endsUnescaped_iff (text : List Char) : endsUnescaped text = true ↔ Odd (endingBackslashes text) := by
  induction text using pieces_induction with
  | empty => decide
  | backslash => decide
  | piece piece rest heads ih =>
    rw [heads.endsUnescaped, ih, endingBackslashes_append]
    split
    · simp [Nat.odd_add, heads.even_endingBackslashes]
    · rfl

/-- The atoms of a source make it up, with a lone backslash behind them exactly if it ends in an odd number of
backslashes, and nothing else makes it up. A scan gives the atoms in order, then the fault of the lone backslash if
there is one; and after a fault, or after it has given nothing, it gives nothing more. -/
theorem Segmentation.canonical (source : String) :
    MakeUp source.toList 0 (ofSource source).atoms (ofSource source).unterminated ∧
      (∀ atoms unterminated, MakeUp source.toList 0 atoms unterminated →
        atoms = (ofSource source).atoms ∧ unterminated = (ofSource source).unterminated) ∧
      ((ofSource source).unterminated ≠ none ↔ Odd (endingBackslashes source.toList)) ∧
      (∀ turn, (Scan.ofSource source).answer turn = ((ofSource source).outcomes source.toList)[turn]?) ∧
      ∀ turn, (∀ atom, (Scan.ofSource source).answer turn ≠ some (.ok atom)) →
        ∀ later > turn, (Scan.ofSource source).answer later = none := by
  have answers : ∀ turn,
      (Scan.ofSource source).answer turn = ((ofSource source).outcomes source.toList)[turn]? :=
    Scan.answer_rest source.toList (List.nil_append _).symm
  refine ⟨makeUp_split source.toList (List.nil_append _).symm, ?_, ?_, answers, ?_⟩
  · intro atoms unterminated makeUp
    exact makeUp.eq_split (List.nil_append _).symm
  · rw [← endsUnescaped_iff, ofSource, ofChars]
    simp
  · intro turn ended later behind
    rw [answers] at ended ⊢
    have read : (ofSource source).atoms.length ≤ turn := by
      by_contra short
      have inside : turn < (ofSource source).atoms.length := by omega
      refine ended (ofSource source).atoms[turn] ?_
      rw [outcomes, List.getElem?_append_left (by simpa using inside)]
      simp [inside]
    refine List.getElem?_eq_none ?_
    have fault : (ofSource source).unterminated.toList.length ≤ 1 := by cases (ofSource source).unterminated <;> simp
    simp only [outcomes, List.length_append, List.length_map]
    omega

/-- The escape takes two of the three backslashes, and the third one is a fault behind the atoms. -/
example : Segmentation.ofSource "é \\\\\\" =
    ⟨[⟨.word, ['é'], ⟨0, 2⟩⟩, ⟨.whitespace, [' '], ⟨2, 3⟩⟩, ⟨.escape, ['\\', '\\'], ⟨3, 5⟩⟩], some ⟨5, 6⟩⟩ := by decide

end Localizable
