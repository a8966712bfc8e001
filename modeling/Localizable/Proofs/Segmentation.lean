import Localizable.Atom
import Mathlib.Data.List.TakeWhile
import Mathlib.Tactic.ByContra

/-!
# The front of a text

What `Piece.split` finds at the front of a text: a run of a word or of whitespace
that is as long as it can be, one punctuation character, or an escape. Every text
but a lone backslash has such a piece at its front, and what stands behind it is
split on its own.
-/

namespace Localizable
open Text

/-- Characters of a kind of piece. A backslash is of no kind. -/
def OfKind (kind : AtomKind) (c : Char) : Prop := c ≠ '\\' ∧ kindOf c = kind

instance (kind : AtomKind) (c : Char) : Decidable (OfKind kind c) := inferInstanceAs (Decidable (_ ∧ _))

theorem ofKind_whitespace {c : Char} : OfKind .whitespace c ↔ isSpacing c = true := by
  unfold OfKind kindOf
  constructor
  · rintro ⟨_, kind⟩
    by_contra other
    rw [if_neg other] at kind
    split at kind <;> cases kind
  · intro spacing
    refine ⟨?_, if_pos spacing⟩
    rintro rfl
    exact absurd spacing (by decide)

theorem ofKind_punctuator {c : Char} : OfKind .punctuator c ↔ isPunctuation c = true := by
  unfold OfKind kindOf
  constructor
  · rintro ⟨_, kind⟩
    split at kind
    · cases kind
    · split at kind
      · assumption
      · cases kind
  · intro punctuation
    have apart : ¬ isSpacing c = true := by
      simp only [isPunctuation, Bool.or_eq_true, beq_iff_eq] at punctuation
      rcases punctuation with ((((rfl | rfl) | rfl) | rfl) | rfl) | rfl <;> decide
    refine ⟨?_, by rw [if_neg apart, if_pos punctuation]⟩
    rintro rfl
    exact absurd punctuation (by decide)

/-- A character is of one kind at most. -/
theorem OfKind.unique {left right : AtomKind} {c : Char} (first : OfKind left c) (second : OfKind right c) :
    left = right := first.2.symm.trans second.2

theorem ofKind_word {c : Char} :
    OfKind .word c ↔ isSpacing c = false ∧ isPunctuation c = false ∧ c ≠ '\\' := by
  constructor
  · intro word
    refine ⟨?_, ?_, word.1⟩
    · by_contra spacing
      cases word.unique (ofKind_whitespace.2 (by simpa using spacing))
    · by_contra punctuation
      cases word.unique (ofKind_punctuator.2 (by simpa using punctuation))
  · rintro ⟨spacing, punctuation, backslash⟩
    exact ⟨backslash, by simp [kindOf, spacing, punctuation]⟩

/-- A character other than a backslash is of the kind that `kindOf` gives. -/
theorem ofKind_kindOf {c : Char} (backslash : c ≠ '\\') : OfKind (kindOf c) c := ⟨backslash, rfl⟩

theorem kindOf_cases (c : Char) : kindOf c = .word ∨ kindOf c = .whitespace ∨ kindOf c = .punctuator := by
  unfold kindOf
  split
  · exact .inr (.inl rfl)
  · split
    · exact .inr (.inr rfl)
    · exact .inl rfl

/-- A text does not begin with a character of the kind. -/
def Stops (kind : AtomKind) (text : List Char) : Prop := ∀ c ∈ text.head?, ¬ OfKind kind c

@[simp] theorem stops_nil (kind : AtomKind) : Stops kind [] := by simp [Stops]

@[simp] theorem stops_cons {kind : AtomKind} {c : Char} {rest : List Char} :
    Stops kind (c :: rest) ↔ ¬ OfKind kind c := by simp [Stops]

/-- A piece is what a text begins with that goes on with `rest`. -/
inductive Heads : Piece → List Char → Prop
  /-- A word or whitespace, which no character of its kind follows. -/
  | run {kind : AtomKind} {chars rest : List Char} (joins : kind = .word ∨ kind = .whitespace)
      (filled : chars ≠ []) (same : ∀ c ∈ chars, OfKind kind c) (stops : Stops kind rest) :
      Heads ⟨kind, chars⟩ rest
  | punctuator {c : Char} {rest : List Char} (mark : isPunctuation c = true) : Heads ⟨.punctuator, [c]⟩ rest
  | escape {c : Char} {rest : List Char} : Heads ⟨.escape, ['\\', c]⟩ rest

theorem Heads.filled {piece : Piece} {rest : List Char} (heads : Heads piece rest) : piece.chars ≠ [] := by
  cases heads with
  | run joins filled same stops => exact filled
  | punctuator mark => exact List.cons_ne_nil _ _
  | escape => exact List.cons_ne_nil _ _

/-! ## Splitting off the first piece -/

theorem split_cons {c : Char} (backslash : c ≠ '\\') (rest : List Char) :
    Piece.split (c :: rest) = Piece.attach c (Piece.split rest) := by
  rw [Piece.split]
  · rintro rfl; exact absurd rfl backslash
  · rintro d later rfl; exact absurd rfl backslash

theorem endsUnescaped_cons {c : Char} (backslash : c ≠ '\\') (rest : List Char) :
    endsUnescaped (c :: rest) = endsUnescaped rest := by
  rw [endsUnescaped]
  · rintro rfl; exact absurd rfl backslash
  · rintro d later rfl; exact absurd rfl backslash

/-- What is split off first is of the kind of the first character, unless that is a backslash. -/
theorem kind_of_split {text : List Char} {piece : Piece} {pieces : List Piece}
    (split : Piece.split text = piece :: pieces) :
    piece.kind = .escape ∨ ∃ c ∈ text.head?, OfKind piece.kind c := by
  cases text with
  | nil => cases split
  | cons c rest =>
    by_cases backslash : c = '\\'
    · subst backslash
      cases rest with
      | nil => cases split
      | cons d later => cases split; exact .inl rfl
    · rw [split_cons backslash] at split
      refine .inr ⟨c, rfl, backslash, ?_⟩
      unfold Piece.attach at split
      split at split
      · cases split; rfl
      · split at split
        next same => cases split; exact same.2.symm
        next => cases split; rfl

/-- A run is split off whole. -/
theorem split_run {kind : AtomKind} {chars rest : List Char} (joins : kind = .word ∨ kind = .whitespace)
    (filled : chars ≠ []) (same : ∀ c ∈ chars, OfKind kind c) (stops : Stops kind rest) :
    Piece.split (chars ++ rest) = ⟨kind, chars⟩ :: Piece.split rest := by
  have apart : kind ≠ .punctuator ∧ kind ≠ .escape := by rcases joins with rfl | rfl <;> decide
  induction chars with
  | nil => exact absurd rfl filled
  | cons c later ih =>
    obtain ⟨backslash, ofKind⟩ := same c (by simp)
    rw [List.cons_append, split_cons backslash]
    by_cases last : later = []
    · subst last
      rw [List.nil_append]
      cases split : Piece.split rest with
      | nil => rw [Piece.attach, ofKind]
      | cons piece pieces =>
        have other : piece.kind ≠ kind := by
          rcases kind_of_split split with escape | ⟨d, head, dKind⟩
          · rw [escape]; exact apart.2.symm
          · rintro rfl; exact stops d head dKind
        rw [Piece.attach, ofKind, if_neg (fun both => other both.2)]
    · rw [ih last (fun d member => same d (by simp [member])), Piece.attach, ofKind,
        if_pos ⟨apart.1, rfl⟩]

theorem split_punctuation {c : Char} (mark : isPunctuation c = true) (rest : List Char) :
    Piece.split (c :: rest) = ⟨.punctuator, [c]⟩ :: Piece.split rest := by
  obtain ⟨backslash, ofKind⟩ := ofKind_punctuator.2 mark
  rw [split_cons backslash]
  cases Piece.split rest with
  | nil => rw [Piece.attach, ofKind]
  | cons piece pieces => rw [Piece.attach, ofKind, if_neg (fun both => both.1 rfl)]

/-- The first piece of a text is split off, and what follows it is split on its own. -/
theorem Heads.split {piece : Piece} {rest : List Char} (heads : Heads piece rest) :
    Piece.split (piece.chars ++ rest) = piece :: Piece.split rest := by
  cases heads with
  | run joins filled same stops => exact split_run joins filled same stops
  | punctuator mark => exact split_punctuation mark rest
  | escape => rfl

theorem Heads.endsUnescaped {piece : Piece} {rest : List Char} (heads : Heads piece rest) :
    endsUnescaped (piece.chars ++ rest) = endsUnescaped rest := by
  have skip : ∀ chars : List Char, (∀ c ∈ chars, c ≠ '\\') →
      Localizable.endsUnescaped (chars ++ rest) = Localizable.endsUnescaped rest := by
    intro chars plain
    induction chars with
    | nil => rfl
    | cons c later ih =>
      rw [List.cons_append, endsUnescaped_cons (plain c (by simp)), ih (fun d member => plain d (by simp [member]))]
  cases heads with
  | run joins filled same stops => exact skip _ fun c member => (same c member).1
  | punctuator mark => exact endsUnescaped_cons (ofKind_punctuator.2 mark).1 rest
  | escape => rfl

/-- A run may be shortened at its front. -/
theorem Heads.tail {kind : AtomKind} {c : Char} {chars rest : List Char} (heads : Heads ⟨kind, c :: chars⟩ rest)
    (plain : c ≠ '\\') (filled : chars ≠ []) : Heads ⟨kind, chars⟩ rest := by
  cases heads with
  | run joins _ same stops => exact .run joins filled (fun d member => same d (by simp [member])) stops
  | punctuator mark => exact absurd rfl filled
  | escape => exact absurd rfl plain

/-- Every text has a first piece, unless it is empty or a lone backslash. -/
theorem exists_heads {text : List Char} (filled : text ≠ []) (backslash : text ≠ ['\\']) :
    ∃ piece rest, text = piece.chars ++ rest ∧ Heads piece rest := by
  cases text with
  | nil => exact absurd rfl filled
  | cons c rest =>
    by_cases escape : c = '\\'
    · subst escape
      cases rest with
      | nil => exact absurd rfl backslash
      | cons d later => exact ⟨⟨.escape, ['\\', d]⟩, later, rfl, .escape⟩
    · by_cases mark : isPunctuation c = true
      · exact ⟨⟨.punctuator, [c]⟩, rest, rfl, .punctuator mark⟩
      · have joins : kindOf c = .word ∨ kindOf c = .whitespace := by
          rcases kindOf_cases c with word | whitespace | punctuator
          · exact .inl word
          · exact .inr whitespace
          · exact absurd (ofKind_punctuator.1 ⟨escape, punctuator⟩) mark
        have first : decide (OfKind (kindOf c) c) = true := decide_eq_true (ofKind_kindOf escape)
        refine ⟨⟨kindOf c, (c :: rest).takeWhile fun d => decide (OfKind (kindOf c) d)⟩,
          (c :: rest).dropWhile fun d => decide (OfKind (kindOf c) d),
          by simp, .run joins ?_ ?_ ?_⟩
        · simp [first]
        · intro d member
          have taken := List.mem_takeWhile_imp member
          exact of_decide_eq_true taken
        · intro d head same
          have stopped := List.head?_dropWhile_not (fun d => decide (OfKind (kindOf c) d)) (c :: rest)
          rw [Option.mem_def.1 head] at stopped
          exact of_decide_eq_false stopped same

/-- A text is empty, a lone backslash, or a piece in front of another text. -/
@[elab_as_elim]
theorem pieces_induction {motive : List Char → Prop} (empty : motive []) (backslash : motive ['\\'])
    (piece : ∀ piece rest, Heads piece rest → motive rest → motive (piece.chars ++ rest)) (text : List Char) :
    motive text := by
  by_cases filled : text = []
  · rwa [filled]
  by_cases escape : text = ['\\']
  · rwa [escape]
  obtain ⟨first, rest, rfl, heads⟩ := exists_heads filled escape
  have shorter : rest.length < (first.chars ++ rest).length := by
    have filled := List.length_pos_iff.2 heads.filled
    simp only [List.length_append]
    omega
  exact piece first rest heads (pieces_induction empty backslash piece rest)
termination_by text.length

/-- Pieces are all of a text, less a backslash that nothing follows. -/
theorem split_chars (text : List Char) :
    text = (Piece.split text).flatMap Piece.chars ++ if endsUnescaped text then ['\\'] else [] := by
  induction text using pieces_induction with
  | empty => rfl
  | backslash => rfl
  | piece piece rest heads ih =>
    rw [heads.split, heads.endsUnescaped, List.flatMap_cons, List.append_assoc, ← ih]

end Localizable
