import Localizable.Plural.Selection
import Localizable.Proofs.ShownDigits

/-!
# Plural categories of shown numbers

Plural rules see a finite number as its shown digits without the sign: all of the integer
digits, however many there are, and the first `PluralOperands.countedFraction` of the fraction
digits (`Number.pluralCategory_shown`). So a finite number has a category in every locale, and
numbers that are shown alike have the same one (`Number.pluralCategory_exists`).
-/

namespace Localizable

namespace Digits

/-- A point, if there is one, ends the digits in front of it. -/
theorem takeWhile_isDigit {integer : List Char} (all : ∀ c ∈ integer, c.isDigit) (fraction : List Char) :
    (integer ++ if fraction = [] then [] else '.' :: fraction).takeWhile Char.isDigit = integer := by
  rw [List.takeWhile_append_of_pos all]
  by_cases none : fraction = []
  · rw [if_pos none, List.takeWhile_nil, List.append_nil]
  · rw [if_neg none, List.takeWhile_cons_of_neg (by decide), List.append_nil]

theorem dropWhile_isDigit {integer : List Char} (all : ∀ c ∈ integer, c.isDigit) (fraction : List Char) :
    (integer ++ if fraction = [] then [] else '.' :: fraction).dropWhile Char.isDigit =
      if fraction = [] then [] else '.' :: fraction := by
  rw [List.dropWhile_append_of_pos all]
  by_cases none : fraction = []
  · rw [if_pos none, List.dropWhile_nil]
  · rw [if_neg none, List.dropWhile_cons_of_neg (by decide)]

end Digits

namespace PluralOperands

/-! ## The operands of digits -/

/-- The operands are those of the decimal with these digits in front of its point and behind it. -/
structure Counts (operands : PluralOperands) (front behind : List Char) : Prop where
  integer : operands.integer = Digits.whole front
  fractionDigits : operands.fractionDigits = behind.length
  fraction : operands.fraction = Digits.whole behind
  significant : operands.significant = Digits.whole (behind.take operands.significantDigits)
  significantDigits_le : operands.significantDigits ≤ behind.length
  /-- Behind the significant digits there are zeros only. -/
  zeros : ∀ c ∈ behind.drop operands.significantDigits, c = '0'
  /-- The last one of the significant digits is no zero. -/
  last : (behind.take operands.significantDigits).getLast? ≠ some '0'

theorem ofDigits_counts (integer fraction : List Char) : (ofDigits integer fraction).Counts integer fraction := by
  obtain ⟨count, zeros⟩ := Digits.exists_zeros_of_trimZeros fraction
  have trimmed : (ofDigits integer fraction).significantDigits = (Digits.trimZeros fraction).length := rfl
  have front : fraction.take (Digits.trimZeros fraction).length = Digits.trimZeros fraction :=
    (congrArg (List.take _) zeros).symm.trans List.take_left
  have back : fraction.drop (Digits.trimZeros fraction).length = List.replicate count '0' :=
    (congrArg (List.drop _) zeros).symm.trans List.drop_left
  refine ⟨rfl, rfl, rfl, ?_, ?_, ?_, ?_⟩
  · rw [trimmed, front]
    rfl
  · rw [trimmed, ← congrArg List.length zeros, List.length_append]
    exact Nat.le_add_right _ _
  · rw [trimmed, back]
    exact fun c member => List.eq_of_mem_replicate member
  · rw [trimmed, front]
    intro zero
    have some : Digits.trimZeros fraction ≠ [] := by
      intro none
      rw [none] at zero
      cases zero
    rw [List.getLast?_eq_some_getLast some, Option.some_inj] at zero
    exact Digits.getLast_trimZeros fraction some zero

/-- The significant digits of two readings of a fraction are equally many: beyond the fewer ones there are zeros only. -/
theorem Counts.significantDigits_not_lt {operands other : PluralOperands} {integer fraction : List Char}
    (counts : operands.Counts integer fraction) (counted : other.Counts integer fraction) :
    ¬ operands.significantDigits < other.significantDigits := by
  intro fewer
  have fits := counted.significantDigits_le
  apply counted.last
  rw [List.getLast?_eq_getElem?, List.length_take, Nat.min_eq_left fits,
    List.getElem?_take_of_lt (by omega), List.getElem?_eq_getElem (by omega)]
  have member : fraction[other.significantDigits - 1] ∈ fraction.drop operands.significantDigits :=
    List.mem_drop_iff_getElem.2 ⟨other.significantDigits - 1 - operands.significantDigits, by omega, by congr 1; omega⟩
  rw [counts.zeros _ member]

theorem Counts.unique {operands other : PluralOperands} {integer fraction : List Char}
    (counts : operands.Counts integer fraction) (counted : other.Counts integer fraction) : operands = other := by
  have same : operands.significantDigits = other.significantDigits := by
    have first := counts.significantDigits_not_lt counted
    have second := counted.significantDigits_not_lt counts
    omega
  obtain ⟨i, v, w, f, t⟩ := operands
  obtain ⟨i', v', w', f', t'⟩ := other
  obtain rfl : w = w' := same
  obtain rfl : i = i' := counts.integer.trans counted.integer.symm
  obtain rfl : v = v' := counts.fractionDigits.trans counted.fractionDigits.symm
  obtain rfl : f = f' := counts.fraction.trans counted.fraction.symm
  obtain rfl : t = t' := counts.significant.trans counted.significant.symm
  rfl

/-- Zeros in front of the integer digits play no part. -/
theorem ofDigits_congr {integer other : List Char} (same : Digits.whole integer = Digits.whole other)
    (fraction : List Char) : ofDigits integer fraction = ofDigits other fraction := by
  have number : Nat.ofDigitChars 10 integer 0 = Nat.ofDigitChars 10 other 0 := same
  rw [ofDigits, ofDigits, number]

theorem ofDigits_nil (integer : List Char) : ofDigits integer [] = ofNat (Digits.whole integer) := rfl

theorem ofPoint_of_digits (integer fraction : List Char) :
    ofPoint (integer ++ fraction) integer.length = ofDigits integer (fraction.take countedFraction) := by
  have behind : ((integer.length : ℤ) - (integer ++ fraction).length).toNat = 0 := by
    rw [List.length_append]
    omega
  have before : (-(integer.length : ℤ)).toNat = 0 := by omega
  rw [ofPoint, behind, before, Int.toNat_natCast, List.take_left, List.drop_left]
  simp

/-- Digits with a fraction, if it is not empty, are read as what they are. -/
theorem parse?_of_digits {integer fraction : List Char} (some : integer ≠ []) (all : ∀ c ∈ integer, c.isDigit)
    (allBehind : ∀ c ∈ fraction, c.isDigit) :
    parse? (integer ++ if fraction = [] then [] else '.' :: fraction) =
      Option.some (ofDigits integer (fraction.take countedFraction)) := by
  have wholeBehind := List.takeWhile_eq_self_iff.2 allBehind
  have restBehind := List.dropWhile_eq_nil_iff.2 allBehind
  have read := ofPoint_of_digits integer fraction
  unfold parse?
  rw [Digits.takeWhile_isDigit all, Digits.dropWhile_isDigit all]
  by_cases none : fraction = []
  · subst none
    rw [List.append_nil] at read
    simp [some, read]
  · simp [wholeBehind, restBehind, none, read]

end PluralOperands

/-! ## What plural rules see of a shown number -/

/-- Rules categorize an input by its operands. -/
theorem pluralCategory_eq_bind (locale : String) (type : PluralType) (input : PluralInput) :
    pluralCategory locale type input = input.operands.bind fun operands =>
      (pluralRulesOf locale type).map fun rules => .ofRules rules operands := by
  unfold pluralCategory
  cases input.operands with
  | error error => rfl
  | ok operands => cases pluralRulesOf locale type <;> rfl

namespace Digits

/-- The digits of a number: some in front of the point, and behind it any. -/
structure IsDecimal (digits : Digits) : Prop where
  some : digits.integer ≠ []
  front : ∀ c ∈ digits.integer, c.isDigit
  behind : ∀ c ∈ digits.fraction, c.isDigit

theorem ofRounded_isDecimal (negative : Bool) (options : NumberOptions) (rounded : ℕ) :
    (ofRounded negative options rounded).IsDecimal :=
  have digits := ofRounded_isDigit negative options rounded
  ⟨ofRounded_integer_ne_nil negative options rounded, digits.1, digits.2⟩

/-- The digits with their point, and without the sign. -/
def unsigned (digits : Digits) : List Char :=
  digits.integer ++ if digits.fraction = [] then [] else '.' :: digits.fraction

theorem text_eq (digits : Digits) : digits.text = (if digits.negative then ['-'] else []) ++ digits.unsigned := by
  rw [text, unsigned, List.append_assoc]
  simp only [List.isEmpty_iff]

variable {digits : Digits}

theorem IsDecimal.parse?_unsigned (decimal : digits.IsDecimal) :
    PluralOperands.parse? digits.unsigned =
      Option.some (.ofDigits digits.integer (digits.fraction.take PluralOperands.countedFraction)) :=
  PluralOperands.parse?_of_digits decimal.some decimal.front decimal.behind

/-- An integer is seen as its digits are. -/
theorem IsDecimal.operands_pluralInput (decimal : digits.IsDecimal) :
    digits.pluralInput.operands =
      .ok (.ofDigits digits.integer (digits.fraction.take PluralOperands.countedFraction)) := by
  have read := decimal.parse?_unsigned
  unfold unsigned at read
  rw [pluralInput_of_digits decimal.some decimal.front]
  -- An integer within the range is passed as a number, all else as the text: both ways come to the same operands.
  by_cases none : digits.fraction = []
  · rw [if_neg (not_not_intro none)]
    rw [if_pos none, List.append_nil] at read
    by_cases small : whole digits.integer < 2 ^ 63
    · have size : (if digits.negative then -(whole digits.integer : ℤ) else whole digits.integer).natAbs =
          whole digits.integer := by
        split <;> omega
      rw [if_pos small, PluralInput.operands, size, none, List.take_nil, PluralOperands.ofDigits_nil]
    · rw [if_neg small, PluralInput.operands, String.toList_ofList, read]
  · rw [if_pos none]
    rw [if_neg none] at read
    rw [PluralInput.operands, String.toList_ofList, read]

theorem takeSign_text {first : Char} {rest : List Char} (starts : digits.integer = first :: rest)
    (minus : first ≠ '-') (plus : first ≠ '+') :
    Numeral.takeSign digits.text = (digits.negative, digits.unsigned) := by
  have unchanged : Numeral.takeSign digits.unsigned = (false, digits.unsigned) := by
    rw [unsigned, starts, List.cons_append, Numeral.takeSign]
    · intro _ same
      exact minus (List.cons.inj same).1
    · intro _ same
      exact plus (List.cons.inj same).1
  rw [text_eq]
  cases negative : digits.negative with
  | false => exact unchanged
  | true => rfl

theorem IsDecimal.takeSign_text (decimal : digits.IsDecimal) :
    Numeral.takeSign digits.text = (digits.negative, digits.unsigned) := by
  obtain ⟨first, rest, starts⟩ := List.exists_cons_of_ne_nil decimal.some
  have digit : first.isDigit := decimal.front first (by rw [starts]; exact List.mem_cons_self)
  refine Digits.takeSign_text starts ?_ ?_
  · rintro rfl
    exact absurd digit (by decide)
  · rintro rfl
    exact absurd digit (by decide)

end Digits

namespace Number

theorem digits_isDecimal (negative : Bool) (magnitude : Magnitude) (options : NumberOptions) :
    (Number.digits ⟨.finite negative magnitude, options⟩).IsDecimal := Digits.ofRounded_isDecimal ..

theorem operands_of_unread {shown : String} (unread : PluralOperands.parse? shown.toList = none) :
    (PluralInput.decimal shown).operands = .error (.invalidArgument "plural" (.notDecimal shown)) := by
  rw [PluralInput.operands, unread]

/-- What is no finite number is shown as a word or a sign that is no decimal. -/
theorem operands_of_not_finite {number : Number} (other : number.value.isFinite = false) :
    ∃ shown, number.pluralInput.operands = .error (.invalidArgument "plural" (.notDecimal shown)) := by
  obtain ⟨value, options⟩ := number
  cases value with
  | nan =>
    have unread : PluralOperands.parse? "NaN".toList = none := by decide
    exact ⟨_, operands_of_unread unread⟩
  | infinite negative =>
    have unread : PluralOperands.parse? "∞".toList = none := by decide
    exact ⟨_, operands_of_unread unread⟩
  | finite negative magnitude => cases other

theorem exists_operands {number : Number} (finite : number.value.isFinite = true) :
    ∃ operands, number.pluralInput.operands = .ok operands := by
  obtain ⟨value, options⟩ := number
  cases value with
  | finite negative magnitude => exact ⟨_, (digits_isDecimal negative magnitude options).operands_pluralInput⟩
  | _ => cases finite

/-- What is seen of a number is what its text says behind the sign. -/
theorem operands_eq_ofText (number : Number) :
    number.pluralInput.operands =
      (PluralInput.decimal (String.ofList (Numeral.takeSign number.digits.text).2)).operands := by
  obtain ⟨value, options⟩ := number
  cases value with
  | nan => rfl
  | infinite negative => cases negative <;> rfl
  | finite negative magnitude =>
    have decimal := digits_isDecimal negative magnitude options
    rw [decimal.takeSign_text, PluralInput.operands, String.toList_ofList, decimal.parse?_unsigned]
    exact decimal.operands_pluralInput

/-- Numbers that are shown alike are seen alike. -/
theorem operands_of_text {number other : Number} (same : number.text = other.text) :
    number.pluralInput.operands = other.pluralInput.operands := by
  have shown : number.digits.text = other.digits.text := String.ofList_injective same
  rw [operands_eq_ofText, operands_eq_ofText other, shown]

theorem whole_digits (negative : Bool) (magnitude : Magnitude) (options : NumberOptions) :
    Digits.whole (Number.digits ⟨.finite negative magnitude, options⟩).integer =
      magnitude.roundedTo options.mostFraction / 10 ^ options.mostFraction := Digits.ofRounded_whole ..

/-- The sign of a finite number and the zeros in front of it play no part. -/
theorem operands_of_magnitude (negative other : Bool) (magnitude : Magnitude) (options : NumberOptions)
    (width : Option ℕ) :
    (Number.pluralInput ⟨.finite other magnitude, { options with minimumIntegerDigits := width }⟩).operands =
      (Number.pluralInput ⟨.finite negative magnitude, options⟩).operands := by
  have front : Digits.whole (Number.digits ⟨.finite other magnitude,
        { options with minimumIntegerDigits := width }⟩).integer =
      Digits.whole (Number.digits ⟨.finite negative magnitude, options⟩).integer := by
    rw [whole_digits, whole_digits]
    rfl
  rw [pluralInput, pluralInput, (digits_isDecimal ..).operands_pluralInput, (digits_isDecimal ..).operands_pluralInput,
    PluralOperands.ofDigits_congr front]
  rfl

/-- A whole number is shown as what it is. -/
theorem whole_of_natural (negative : Bool) {magnitude : Magnitude} (options : NumberOptions) {n : ℕ}
    (natural : magnitude.value = n) :
    Digits.whole (Number.digits ⟨.finite negative magnitude, options⟩).integer = n := by
  have rounded : magnitude.roundedTo options.mostFraction = n * 10 ^ options.mostFraction :=
    magnitude.roundedTo_of_exact (by rw [natural]; push_cast; rfl)
  have positive : 0 < 10 ^ options.mostFraction := Nat.pow_pos (by decide)
  rw [whole_digits, rounded, Nat.mul_div_cancel _ positive]

/-- A number that is not finite is refused first, then a locale that is no language tag, and else there is a category. -/
theorem pluralCategory_outcome (number : Number) (locale : String) (type : PluralType) :
    ((∃ function fault, pluralCategory locale type number.pluralInput = .error (.invalidArgument function fault)) ↔
        number.value.isFinite = false) ∧
      (pluralCategory locale type number.pluralInput = .error (.unsupportedLocale locale) ↔
        number.value.isFinite = true ∧ LanguageTag.parse? locale = none) ∧
      ((∃ category, pluralCategory locale type number.pluralInput = .ok category) ↔
        number.value.isFinite = true ∧ (LanguageTag.parse? locale).isSome) := by
  rw [pluralCategory_eq_bind]
  by_cases finite : number.value.isFinite = true
  · obtain ⟨operands, seen⟩ := exists_operands finite
    rw [seen, pluralRulesOf]
    cases tag : LanguageTag.parse? locale with
    | none => simp [finite, Except.bind, Except.map]
    | some parsed => simp [finite, Except.bind, Except.map]
  · rw [Bool.not_eq_true] at finite
    obtain ⟨shown, unseen⟩ := operands_of_not_finite finite
    simp [finite, unseen, Except.bind]

/-- There is no category for what is no finite number and, for a finite one, in a locale that is no language tag; else
there is one. The category of a finite number does not depend on its sign and on the zeros put in front of it, and that
of any number on nothing but its text. -/
theorem pluralCategory_exists (number : Number) (type : PluralType) (locale : String) :
    ((∃ function fault, pluralCategory locale type number.pluralInput = .error (.invalidArgument function fault)) ↔
        number.value.isFinite = false) ∧
      (pluralCategory locale type number.pluralInput = .error (.unsupportedLocale locale) ↔
        number.value.isFinite = true ∧ LanguageTag.parse? locale = none) ∧
      ((∃ category, pluralCategory locale type number.pluralInput = .ok category) ↔
        number.value.isFinite = true ∧ (LanguageTag.parse? locale).isSome) ∧
      (∀ negative other magnitude options width,
        pluralCategory locale type
            (Number.pluralInput ⟨.finite other magnitude, { options with minimumIntegerDigits := width }⟩) =
          pluralCategory locale type (Number.pluralInput ⟨.finite negative magnitude, options⟩)) ∧
      ∀ other : Number, other.text = number.text →
        pluralCategory locale type other.pluralInput = pluralCategory locale type number.pluralInput := by
  obtain ⟨refused, unsupported, categorized⟩ := number.pluralCategory_outcome locale type
  refine ⟨refused, unsupported, categorized, ?_, ?_⟩
  · intro negative other magnitude options width
    rw [pluralCategory_eq_bind, pluralCategory_eq_bind, operands_of_magnitude]
  · intro other same
    rw [pluralCategory_eq_bind, pluralCategory_eq_bind, operands_of_text same]

/-- Five quarters without fraction digits are one. -/
theorem pluralCategory_exists_rounded :
    let fiveQuarters : Number := ⟨.ofQuotient false 5 4, ⟨none, none, some 0⟩⟩
    fiveQuarters.text = (ofInt 1).text ∧
      pluralCategory "en" .cardinal fiveQuarters.pluralInput = pluralCategory "en" .cardinal (ofInt 1).pluralInput ∧
      pluralCategory "en" .cardinal fiveQuarters.pluralInput = .ok .one := by
  intro fiveQuarters
  have same : fiveQuarters.text = (ofInt 1).text := by decide +kernel
  obtain ⟨_, _, _, _, alike⟩ := pluralCategory_exists (ofInt 1) .cardinal "en"
  refine ⟨same, alike fiveQuarters same, ?_⟩
  rw [alike fiveQuarters same]
  decide +kernel

end Number

end Localizable
