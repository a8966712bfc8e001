import Localizable.Text.LetterCase.Cased
import Localizable.Text.LetterCase.Pairs

/-!
# Greek capitals

In Greek, capitals are written without accents and breathings. A dialytika stays,
an iota below a letter becomes a capital of its own, and where an accent kept two
vowels apart a dialytika takes its place. The word for "or", a single eta, keeps
its accent.
-/

namespace Localizable.Text.LetterCase

/-- What is written on a vowel, breathings apart. -/
structure Diacritics where
  accent : Bool
  dialytika : Bool
  iota : Bool

/-- Letters of one vowel that bear the same diacritics. -/
structure VowelRow where
  capital : Char
  accent : Bool
  dialytika : Bool
  iota : Bool
  letters : String

def vowelRows : List VowelRow := [
  ⟨'Α', true, false, false, "ΆάἂἃἄἅἆἇἊἋἌἍἎἏὰάᾶᾺΆ"⟩,
  ⟨'Ε', true, false, false, "ΈέἒἓἔἕἚἛἜἝὲέῈΈ"⟩,
  ⟨'Η', true, false, false, "ΉήἢἣἤἥἦἧἪἫἬἭἮἯὴήῆῊΉ"⟩,
  ⟨'Ι', true, false, false, "ΊίἲἳἴἵἶἷἺἻἼἽἾἿὶίῖῚΊ"⟩,
  ⟨'Ο', true, false, false, "ΌόὂὃὄὅὊὋὌὍὸόῸΌ"⟩,
  ⟨'Υ', true, false, false, "ΎύὒὓὔὕὖὗὛὝὟὺύῦῪΎ"⟩,
  ⟨'Ω', true, false, false, "ΏώὢὣὤὥὦὧὪὫὬὭὮὯὼώῶῺΏ"⟩,
  ⟨'Ι', true, true, false, "ΐῒΐῗ"⟩,
  ⟨'Α', false, false, false, "ΑαἀἁἈἉᾰᾱᾸᾹ"⟩,
  ⟨'Ε', false, false, false, "ΕεϵἐἑἘἙ"⟩,
  ⟨'Η', false, false, false, "ΗηἠἡἨἩ"⟩,
  ⟨'Ι', false, false, false, "ΙιἰἱἸἹιῐῑῘῙ"⟩,
  ⟨'Ο', false, false, false, "ΟοὀὁὈὉ"⟩,
  ⟨'Υ', false, false, false, "ΥυὐὑὙῠῡῨῩ"⟩,
  ⟨'Ω', false, false, false, "ΩωὠὡὨὩΩ"⟩,
  ⟨'Ι', false, true, false, "Ϊϊ"⟩,
  ⟨'Υ', false, true, false, "Ϋϋ"⟩,
  ⟨'Υ', true, true, false, "ΰῢΰῧ"⟩,
  ⟨'ϒ', false, false, false, "ϒ"⟩,
  ⟨'ϒ', true, false, false, "ϓ"⟩,
  ⟨'ϒ', false, true, false, "ϔ"⟩,
  ⟨'Α', false, false, true, "ᾀᾁᾈᾉᾳᾼ"⟩,
  ⟨'Α', true, false, true, "ᾂᾃᾄᾅᾆᾇᾊᾋᾌᾍᾎᾏᾲᾴᾷ"⟩,
  ⟨'Η', false, false, true, "ᾐᾑᾘᾙῃῌ"⟩,
  ⟨'Η', true, false, true, "ᾒᾓᾔᾕᾖᾗᾚᾛᾜᾝᾞᾟῂῄῇ"⟩,
  ⟨'Ω', false, false, true, "ᾠᾡᾨᾩῳῼ"⟩,
  ⟨'Ω', true, false, true, "ᾢᾣᾤᾥᾦᾧᾪᾫᾬᾭᾮᾯῲῴῷ"⟩]

/-- Consonants and other letters of the script. -/
def otherGreek : CharSet := [
  (0x370, 0x373), (0x376, 0x377), (0x37a, 0x37d), (0x37f, 0x37f), (0x386, 0x386), (0x388, 0x38a), (0x38c, 0x38c),
  (0x38e, 0x3a1), (0x3a3, 0x3e1), (0x3f0, 0x3f5), (0x3f7, 0x3ff), (0x1fbe, 0x1fbe), (0x1fe4, 0x1fe5),
  (0x1fec, 0x1fec)]

/-- Diacritics that stand behind their letter. -/
def greekMarks : CharSet := [
  (0x300, 0x304), (0x306, 0x306), (0x308, 0x308), (0x311, 0x311), (0x313, 0x314), (0x342, 0x345)]

def isGreekMark (c : Char) : Bool := greekMarks.has c

/-- The capital of a vowel and what is written on it. -/
def vowel? (c : Char) : Option (Char × Diacritics) :=
  (vowelRows.find? fun row => row.letters.toList.contains c).map fun row =>
    (row.capital, ⟨row.accent, row.dialytika, row.iota⟩)

def isGreekLetter (c : Char) : Bool := (vowel? c).isSome || otherGreek.has c

namespace Diacritics

def none : Diacritics := ⟨false, false, false⟩

/-- Adds a mark that stands behind its letter. -/
def add (diacritics : Diacritics) (mark : Char) : Diacritics :=
  if mark = '\u0308' then { diacritics with dialytika := true }
  else if mark = '\u0344' then { diacritics with accent := true, dialytika := true }
  else if mark = '\u0345' then { diacritics with iota := true }
  else if mark ∈ ['\u0300', '\u0301', '\u0302', '\u0303', '\u0311', '\u0342'] then { diacritics with accent := true }
  else diacritics

/-- Adds the marks that come next. -/
def addMarks (diacritics : Diacritics) (next : List Char) : Diacritics :=
  (next.takeWhile isGreekMark).foldl add diacritics

end Diacritics

/-- Whether the nearest character that is no diacritic is a Greek letter. -/
def standsOnGreek (before : List Char) : Bool := (before.dropWhile isGreekMark).head?.any isGreekLetter

/-- The first character that case rules do not look through is cased. -/
def nextIsCased : List Char → Bool
  | [] => false
  | c :: rest => if isIgnorable c then nextIsCased rest else isCased c

/-- The dialytika that a vowel takes over from an accent on the vowel before it. -/
inductive Takeover
  | nothing
  /-- As part of the letter, because the accent was part of its letter. -/
  | inLetter
  /-- As a mark behind the letter, because the accent was one. -/
  | asMark

def takeover (before : List Char) : Takeover :=
  let marks := Diacritics.none.addMarks before
  match ((before.dropWhile isGreekMark).head?).bind vowel? with
  | some (_, own) =>
    if marks.dialytika || own.dialytika then .nothing
    else if marks.accent then .asMark
    else if own.accent then .inLetter
    else .nothing
  | none => .nothing

/-- The capital of iota or upsilon with a dialytika. -/
def withDialytika (capital : Char) : Char := if capital = 'Ι' then 'Ϊ' else 'Ϋ'

/-- The capital form of a vowel with what is written on it, between the characters before it, the nearest first, and after it. -/
def capitalVowel (before : List Char) (capital : Char) (own : Diacritics) (after : List Char) : List Char :=
  let all := own.addMarks after
  let narrow := capital = 'Ι' || capital = 'Υ'
  let taken := if narrow && !all.dialytika then takeover before else .nothing
  let inLetter := narrow && (own.dialytika || taken matches .inLetter)
  let asMark := !inLetter && (all.dialytika || taken matches .asMark)
  let isOr := capital = 'Η' && all.accent && !all.iota && !nextIsCased after && !nextIsCased before
  let base :=
    if isOr then (if own.accent then ['Ή'] else ['Η', '\u0301'])
    else [if inLetter then withDialytika capital else capital]
  base ++ (if asMark then ['\u0308'] else []) ++ (if own.iota then ['Ι'] else [])

/-- The upper case of a character in Greek. -/
def greekUpper (before : List Char) (c : Char) (after : List Char) : List Char :=
  if isGreekMark c && c ≠ '\u0345' && standsOnGreek before then []
  else match vowel? c with
    | some (capital, own) => capitalVowel before capital own after
    | none => if c ∈ ['ῤ', 'ῥ', 'Ῥ'] then ['Ρ'] else fullUpper c

end Localizable.Text.LetterCase
