import Localizable.Text.Grapheme.Class

/-!
# Clusters of characters

What a reader takes for one character may be a cluster of several: a letter with
its marks, a syllable of the Korean script, a flag of two letters, pictures that
are joined, consonants with a sign between them that links them.
-/

namespace Localizable.Text

namespace Grapheme

/-- How far a cluster has come towards a sequence of joined pictures. -/
inductive PictureState
  | none
  /-- A picture and what extends it. -/
  | picture
  /-- The same with a joiner behind it. -/
  | joined
deriving DecidableEq, Repr

/-- How far a cluster has come towards a conjunct of consonants. -/
inductive ConjunctState
  | none
  | consonant
  /-- A consonant with a linker behind it. -/
  | linked
deriving DecidableEq, Repr

/-- What the end of a cluster shows to the character behind it. -/
structure Tail where
  last : Class
  picture : PictureState
  conjunct : ConjunctState
  /-- It ends in a letter of a flag that waits for a second one. -/
  halfFlag : Bool
deriving DecidableEq, Repr

def PictureState.next (state : PictureState) : Class → PictureState
  | .pictograph => .picture
  | .extender => if state = .picture then .picture else .none
  | .joiner => if state = .picture then .joined else .none
  | _ => .none

def ConjunctState.next (state : ConjunctState) (c : Char) : Class → ConjunctState
  | .consonant => .consonant
  | .joiner => state
  | .extender =>
    if state = .none ∨ c = '\u200c' then .none
    else if isLinker c then .linked
    else state
  | _ => .none

/-- The tail of a cluster of one character. -/
def Tail.ofChar (c : Char) : Tail :=
  ⟨classOf c, PictureState.none.next (classOf c), ConjunctState.none.next c (classOf c), classOf c = .indicator⟩

/-- The tail after one more character. -/
def Tail.push (tail : Tail) (c : Char) : Tail :=
  ⟨classOf c, tail.picture.next (classOf c), tail.conjunct.next c (classOf c),
    classOf c = .indicator && !tail.halfFlag⟩

/-- Whether a syllable goes on. -/
def syllableGoesOn : Class → Class → Bool
  | .leading, .leading => true
  | .leading, .vowel => true
  | .leading, .openSyllable => true
  | .leading, .closedSyllable => true
  | .openSyllable, .vowel => true
  | .openSyllable, .trailing => true
  | .vowel, .vowel => true
  | .vowel, .trailing => true
  | .closedSyllable, .trailing => true
  | .trailing, .trailing => true
  | _, _ => false

/-- Whether a character of this class is a cluster of its own. -/
def Class.standsAlone (kind : Class) : Bool := kind = .carriageReturn || kind = .lineFeed || kind = .control

/-- Whether a character belongs to the cluster in front of it. -/
def Tail.accepts (tail : Tail) (c : Char) : Bool :=
  let next := classOf c
  if tail.last = .carriageReturn ∧ next = .lineFeed then true
  else if tail.last.standsAlone || next.standsAlone then false
  else next = .extender || next = .joiner || next = .spacing || tail.last = .prepender
    || syllableGoesOn tail.last next
    || (tail.conjunct = .linked && next = .consonant)
    || (tail.picture = .joined && next = .pictograph)
    || (tail.halfFlag && next = .indicator)

/-- The characters that still belong to a cluster, and what comes behind it. -/
def extend (tail : Tail) : List Char → List Char × List Char
  | [] => ([], [])
  | c :: rest =>
    if tail.accepts c then (c :: (extend (tail.push c) rest).1, (extend (tail.push c) rest).2)
    else ([], c :: rest)

end Grapheme

/-- The first cluster of a text, and the rest. -/
def splitCluster : List Char → List Char × List Char
  | [] => ([], [])
  | c :: rest =>
    let (more, rest) := Grapheme.extend (.ofChar c) rest
    (c :: more, rest)

end Localizable.Text
