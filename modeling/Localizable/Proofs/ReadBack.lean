import Localizable.Capability
import Localizable.Proofs.ShownPlurals
import Localizable.Proofs.WholeNumbers
import Mathlib.Tactic.IntervalCases

/-!
# Numbers read back from their text

A numeral whose decimal is a value of the format is read as that value, since nothing has to be
rounded (`Magnitude.nearest?_of_exact`). So a number that is shown without rounding is read back
from its own text, and that text is a key for it (`Number.reads_own_text`).
-/

namespace Localizable

theorem unitsPerOne_eq : unitsPerOne = twoTo BinaryFormat.binary64.depth := by
  unfold unitsPerOne
  exact congrArg twoTo rfl

theorem twoTo_mono {first second : ℕ} (le : first ≤ second) : twoTo first ≤ twoTo second :=
  Nat.pow_le_pow_right (by decide) le

theorem twoTo_mul (first second : ℕ) : twoTo first * twoTo second = twoTo (first + second) :=
  (Nat.pow_add 2 first second).symm

theorem twoTo_le_tenTo (n : ℕ) : twoTo (3 * n) ≤ tenTo n := by
  have eight : twoTo (3 * n) = 8 ^ n := Nat.pow_mul 2 3 n
  rw [eight]
  exact Nat.pow_le_pow_left (by decide) n

theorem cast_tenTo (n : ℕ) : (tenTo n : ℚ) = 10 ^ n := by
  rw [tenTo, Nat.pow_eq, Nat.cast_pow, Nat.cast_ofNat]

/-- A quotient whose leading bits are the significand and whose other bits are zeros is not rounded. -/
theorem BinaryFormat.nearest?_of_exact (format : BinaryFormat) {numerator denominator significand scale : ℕ}
    (positive : 0 < denominator)
    (exact : numerator * twoTo format.depth = significand * twoTo scale * denominator)
    (leading : (significand * twoTo scale).log2 + 1 - format.precision = scale)
    (small : significand < twoTo format.precision) (bounded : scale ≤ format.maxScale) :
    format.nearest? numerator denominator = some (significand, scale) := by
  have whole : numerator * twoTo format.depth / denominator = significand * twoTo scale := by
    rw [exact, Nat.mul_div_cancel _ positive]
  have rounded : roundQuotient (numerator * twoTo format.depth) (denominator * twoTo scale) = significand := by
    rw [exact, Nat.mul_assoc, Nat.mul_comm (twoTo scale)]
    exact roundQuotient_mul _ (Nat.mul_pos positive (twoTo_pos scale))
  simp only [nearest?, whole, leading, rounded, if_neg small.ne, if_pos bounded]

namespace Magnitude

variable {magnitude : Magnitude}

/-- The leading bits of a value are the significand, and a value with no more bits than that has no scale. -/
theorem log2_units (magnitude : Magnitude) : magnitude.units.log2 + 1 - 53 = magnitude.scale := by
  have small := magnitude.significand_lt
  rcases magnitude.normal with unscaled | top
  · have same : magnitude.units = magnitude.significand := by
      rw [units, unscaled]
      exact Nat.mul_one _
    rw [same, unscaled]
    by_cases zero : magnitude.significand = 0
    · simp [zero]
    · have upper : magnitude.significand.log2 < 53 := (Nat.log2_lt zero).2 small
      omega
  · have lower : 2 ^ (52 + magnitude.scale) ≤ magnitude.units := by
      rw [Nat.pow_add]
      exact Nat.mul_le_mul_right _ top
    have upper : magnitude.units < 2 ^ (52 + magnitude.scale + 1) := by
      rw [show 52 + magnitude.scale + 1 = 53 + magnitude.scale by omega, Nat.pow_add]
      exact Nat.mul_lt_mul_of_pos_right small (twoTo_pos _)
    have some : magnitude.units ≠ 0 := by
      have := Nat.two_pow_pos (52 + magnitude.scale)
      omega
    have bits : magnitude.units.log2 = 52 + magnitude.scale := by
      rw [Nat.log2_eq_iff some]
      exact ⟨lower, upper⟩
    omega

theorem ofParts?_self (magnitude : Magnitude) : ofParts? magnitude.significand magnitude.scale = some magnitude :=
  dif_pos ⟨magnitude.significand_lt, magnitude.normal, magnitude.scale_le⟩

/-- The definition is opened as a function: at variables the kernel would try to evaluate the parts first. -/
theorem nearest?_eq_bind (numerator denominator : ℕ) :
    nearest? numerator denominator =
      (BinaryFormat.binary64.nearest? numerator denominator).bind fun parts => ofParts? parts.1 parts.2 := by
  have opened : nearest? = fun numerator denominator =>
      (BinaryFormat.binary64.nearest? numerator denominator).bind fun parts => ofParts? parts.1 parts.2 := by
    delta nearest?
    funext numerator denominator
    generalize BinaryFormat.binary64.nearest? numerator denominator = parts
    cases parts <;> rfl
  rw [opened]

/-- A quotient that is a value is rounded to that value. -/
theorem nearest?_of_exact {numerator denominator : ℕ} (positive : 0 < denominator)
    (exact : magnitude.value = numerator / denominator) : nearest? numerator denominator = some magnitude := by
  have units : numerator * unitsPerOne = magnitude.units * denominator := by
    have one : (unitsPerOne : ℚ) ≠ 0 := Nat.cast_ne_zero.2 unitsPerOne_pos.ne'
    have size : (denominator : ℚ) ≠ 0 := Nat.cast_ne_zero.2 positive.ne'
    rw [value, div_eq_div_iff one size] at exact
    exact_mod_cast exact.symm
  rw [unitsPerOne_eq, Magnitude.units] at units
  have precision : BinaryFormat.binary64.precision = 53 := rfl
  have small : magnitude.significand < twoTo BinaryFormat.binary64.precision := by
    rw [precision]
    exact magnitude.significand_lt
  have parts : BinaryFormat.binary64.nearest? numerator denominator = some (magnitude.significand, magnitude.scale) :=
    BinaryFormat.nearest?_of_exact _ positive units magnitude.log2_units small magnitude.scale_le
  rw [nearest?_eq_bind, parts]
  exact ofParts?_self magnitude

theorem units_lt (magnitude : Magnitude) : magnitude.units < tenTo 400 * unitsPerOne :=
  calc magnitude.units < twoTo 53 * twoTo magnitude.scale :=
        Nat.mul_lt_mul_of_pos_right magnitude.significand_lt (twoTo_pos _)
    _ = twoTo (53 + magnitude.scale) := twoTo_mul _ _
    _ ≤ twoTo (3 * 400 + BinaryFormat.binary64.depth) := by
      apply twoTo_mono
      have depth : BinaryFormat.binary64.depth = 1074 := rfl
      have := magnitude.scale_le
      omega
    _ = twoTo (3 * 400) * unitsPerOne := by rw [unitsPerOne_eq, twoTo_mul]
    _ ≤ tenTo 400 * unitsPerOne := Nat.mul_le_mul_right _ (twoTo_le_tenTo 400)

/-- No value has as many digits in front of the point as numerals are read with. -/
theorem value_lt (magnitude : Magnitude) : magnitude.value < 10 ^ 400 := by
  have size : (0 : ℚ) < unitsPerOne := by exact_mod_cast unitsPerOne_pos
  have units : (magnitude.units : ℚ) < (tenTo 400 * unitsPerOne : ℕ) := Nat.cast_lt.2 magnitude.units_lt
  rw [Nat.cast_mul, cast_tenTo] at units
  rw [value, div_lt_iff₀ size]
  exact units

theorem scaled_eq_natCast (magnitude : Magnitude) (places n : ℕ) :
    magnitude.value * 10 ^ places = n ↔ magnitude.units * tenTo places = n * unitsPerOne := by
  have size : (unitsPerOne : ℚ) ≠ 0 := Nat.cast_ne_zero.2 unitsPerOne_pos.ne'
  rw [value, div_mul_eq_mul_div, div_eq_iff size, ← cast_tenTo, ← Nat.cast_mul, ← Nat.cast_mul, Nat.cast_inj]

theorem value_injective : Function.Injective value := by
  intro first second same
  have own : nearest? first.units unitsPerOne = some first := nearest?_of_exact unitsPerOne_pos rfl
  have other : nearest? first.units unitsPerOne = some second := nearest?_of_exact unitsPerOne_pos same.symm
  exact Option.some.inj (own.symm.trans other)

theorem isZero_iff : magnitude.isZero = true ↔ magnitude.value = 0 := by
  have scale := (twoTo_pos magnitude.scale).ne'
  rw [value_eq_zero, isZero, beq_iff_eq, units, Nat.mul_eq_zero, or_iff_left scale]

end Magnitude

namespace Binary64

theorem ofQuotient_of_exact (negative : Bool) {magnitude : Magnitude} {numerator denominator : ℕ}
    (positive : 0 < denominator) (exact : magnitude.value = numerator / denominator) :
    ofQuotient negative numerator denominator = .finite negative magnitude := by
  have opened : ofQuotient = fun negative numerator denominator =>
      (Magnitude.nearest? numerator denominator).elim (.infinite negative) (.finite negative) := by
    delta ofQuotient
    funext negative numerator denominator
    generalize Magnitude.nearest? numerator denominator = nearest
    cases nearest <;> rfl
  rw [opened]
  dsimp only
  rw [Magnitude.nearest?_of_exact positive exact, Option.elim_some]

/-- Finite values are the same number if they stand for one rational, as the two zeros do. -/
theorem sameNumber_finite (negative other : Bool) (first second : Magnitude) :
    (finite negative first).sameNumber (finite other second) = true ↔ first.signed negative = second.signed other := by
  have same : (finite negative first).sameNumber (finite other second) = true ↔
      first = second ∧ (negative = other ∨ first.value = 0) := by
    simp [sameNumber, Magnitude.isZero_iff]
  rw [same]
  constructor
  · rintro ⟨rfl, rfl | zero⟩
    · rfl
    · simp [Magnitude.signed, zero]
  · intro signed
    have value : first.value = second.value := by
      rw [← first.abs_signed negative, signed, second.abs_signed]
    obtain rfl := Magnitude.value_injective value
    refine ⟨rfl, ?_⟩
    by_cases signs : negative = other
    · exact .inl signs
    · right
      cases negative <;> cases other <;> simp [Magnitude.signed] at signs signed <;> linarith

end Binary64

/-! ## Numerals of digits -/

namespace Digits

theorem mem_of_isDigit {c : Char} (digit : c.isDigit) : c ∈ "0123456789".toList := by
  obtain ⟨low, high⟩ : 48 ≤ c.toNat ∧ c.toNat ≤ 57 := Char.isDigit_iff_toNat.1 digit
  have code := Char.ofNat_toNat c
  generalize c.toNat = n at code low high
  subst code
  interval_cases n <;> decide

variable {digits : Digits}

/-- The digits in front of a point, and those behind it, make up the digits of the numeral. -/
theorem IsDecimal.decimal?_unsigned (decimal : digits.IsDecimal) (negative : Bool) :
    Numeral.decimal? negative digits.unsigned =
      Option.some (.decimal negative (whole (digits.integer ++ digits.fraction)) (-digits.fraction.length)) := by
  have wholeBehind := List.takeWhile_eq_self_iff.2 decimal.behind
  have restBehind := List.dropWhile_eq_nil_iff.2 decimal.behind
  unfold Numeral.decimal? unsigned
  rw [takeWhile_isDigit decimal.front, dropWhile_isDigit decimal.front]
  by_cases none : digits.fraction = []
  · simp [none, decimal.some, Numeral.exponent?, whole]
  · simp [none, wholeBehind, restBehind, Numeral.exponent?, whole]

/-- A text that starts with a digit is no word. -/
theorem IsDecimal.parse?_text (decimal : digits.IsDecimal) :
    Numeral.parse? digits.text =
      Option.some (.decimal digits.negative (whole (digits.integer ++ digits.fraction)) (-digits.fraction.length)) := by
  obtain ⟨first, rest, starts⟩ := List.exists_cons_of_ne_nil decimal.some
  have digit : first.isDigit := decimal.front first (by rw [starts]; exact List.mem_cons_self)
  have letters : first.toLower ≠ 'i' ∧ first.toLower ≠ 'n' := by
    have each : ("0123456789".toList.all fun c => decide (c.toLower ≠ 'i' ∧ c.toLower ≠ 'n')) = true := by decide
    exact of_decide_eq_true (List.all_eq_true.1 each first (mem_of_isDigit digit))
  have starts : ∃ more, digits.unsigned.map Char.toLower = first.toLower :: more :=
    ⟨_, by rw [unsigned, starts, List.cons_append, List.map_cons]⟩
  obtain ⟨more, starts⟩ := starts
  unfold Numeral.parse?
  rw [decimal.takeSign_text]
  dsimp only
  rw [starts, if_neg (by simp [letters.1]), if_neg (by simp [letters.2])]
  exact decimal.decimal?_unsigned _

end Digits

namespace Numeral

/-- Digits within the range in which numerals are rounded are rounded as their exact quotient is. -/
theorem valueWith_fraction (round : Bool → ℕ → ℕ → Binary64) (negative : Bool) {digits places : ℕ} (some : digits ≠ 0)
    (few : places ≤ 400) (small : digits < 10 ^ (400 + places)) :
    valueWith round (.decimal negative digits (-places)) = round negative digits (10 ^ places) := by
  have length : (Nat.toDigits 10 digits).length ≤ 400 + places :=
    (Nat.length_toDigits_le_iff (by decide) (by omega)).2 small
  have positive : 0 < (Nat.toDigits 10 digits).length := Nat.length_toDigits_pos
  have extent : extent = 400 := rfl
  rw [valueWith, roundDecimal, extent]
  rw [if_neg (by omega), if_neg (by omega), Int.toNat_neg_natCast, Int.neg_neg, Int.toNat_natCast]
  congr 1
  exact Nat.mul_one digits

/-- The digits of a value, with a point among them, are read as that value. -/
theorem value_of_exact (negative : Bool) {magnitude : Magnitude} {digits places : ℕ} (few : places ≤ 400)
    (exact : magnitude.value = digits / 10 ^ places) :
    value (.decimal negative digits (-places)) = .finite negative magnitude := by
  have opened : value = valueWith Binary64.ofQuotient := rfl
  rw [opened]
  by_cases none : digits = 0
  · have zero : magnitude = .zero := by
      apply Magnitude.value_injective
      rw [exact, none, Magnitude.zero.value_eq_zero.2 (Nat.zero_mul _)]
      simp
    rw [none, zero]
    rfl
  · have small : digits < 10 ^ (400 + places) := by
      have bound := magnitude.value_lt
      rw [exact, div_lt_iff₀ (by positivity), ← pow_add] at bound
      exact_mod_cast bound
    rw [valueWith_fraction _ negative none few small]
    refine Binary64.ofQuotient_of_exact negative (Nat.pow_pos (by decide)) ?_
    rw [exact]
    push_cast
    rfl

end Numeral

/-! ## Shown numbers -/

theorem Text.trimBlank_of_printed {text : List Char} (printed : ∀ c ∈ text, isBlank c = false) : trimBlank text = text := by
  have none : ∀ text : List Char, (∀ c ∈ text, isBlank c = false) → text.dropWhile isBlank = text := by
    intro text printed
    cases text with
    | nil => rfl
    | cons c rest => rw [List.dropWhile_cons_of_neg (by simp [printed c List.mem_cons_self])]
  rw [trimBlank, none text printed, none text.reverse (by simpa using printed), List.reverse_reverse]

theorem Digits.IsDecimal.printed {digits : Digits} (decimal : digits.IsDecimal) :
    ∀ c ∈ digits.text, Text.isBlank c = false := by
  have digit : ∀ c : Char, c.isDigit → Text.isBlank c = false := by
    intro c isDigit
    have each : ("0123456789".toList.all fun c => !Text.isBlank c) = true := by decide
    simpa using List.all_eq_true.1 each c (mem_of_isDigit isDigit)
  intro c member
  rw [text_eq, unsigned] at member
  rcases List.mem_append.1 member with sign | member
  · split at sign
    · rw [List.mem_singleton.1 sign]
      rfl
    · cases sign
  · rcases List.mem_append.1 member with front | behind
    · exact digit c (decimal.front c front)
    · split at behind
      · cases behind
      · rcases List.mem_cons.1 behind with rfl | behind
        · rfl
        · exact digit c (decimal.behind c behind)

namespace Number

section
variable (negative : Bool) {magnitude : Magnitude} {options : NumberOptions} {n : ℕ}

/-- A number that needs no rounding is shown as the decimal that it is, and with its sign unless it is zero. -/
theorem digits_of_exact (exact : magnitude.value * 10 ^ options.mostFraction = n) :
    let digits := Number.digits ⟨.finite negative magnitude, options⟩
    Digits.decimal digits.integer digits.fraction = magnitude.value ∧
      magnitude.signed digits.negative = magnitude.signed negative := by
  intro digits
  have rounded := magnitude.roundedTo_of_exact exact
  have shown : digits = .ofRounded negative options n := by rw [← rounded]; rfl
  have value : magnitude.value = n / 10 ^ options.mostFraction := (eq_div_iff (by positivity)).2 exact
  rw [shown, Digits.ofRounded_decimal, ← value]
  refine ⟨rfl, ?_⟩
  have sign : (Digits.ofRounded negative options n).negative = (negative && n != 0) := rfl
  rw [sign]
  by_cases zero : n = 0
  · have none : magnitude.value = 0 := by rw [value, zero, Nat.cast_zero, zero_div]
    simp [Magnitude.signed, none]
  · have some : (n != 0) = true := bne_iff_ne.2 zero
    rw [some, Bool.and_true]

/-- The text of a number that needs no rounding is a numeral for it. -/
theorem parse?_text_of_exact (exact : magnitude.value * 10 ^ options.mostFraction = n) :
    ∃ shown, Binary64.parse? (Number.digits ⟨.finite negative magnitude, options⟩).text = some (.finite shown magnitude) ∧
      magnitude.signed shown = magnitude.signed negative := by
  obtain ⟨denotes, sign⟩ := digits_of_exact negative exact
  have decimal := digits_isDecimal negative magnitude options
  have few : (Number.digits ⟨.finite negative magnitude, options⟩).fraction.length ≤ 400 := by
    have spells := Digits.ofRounded_spells negative options (magnitude.roundedTo options.mostFraction)
    have bound : options.mostFraction ≤ NumberOptions.maxDigits := Nat.min_le_right ..
    exact (spells.le_most.trans bound).trans (by decide)
  refine ⟨_, ?_, sign⟩
  rw [Binary64.parse?, decimal.parse?_text, Option.map_some, Numeral.value_of_exact _ few denotes.symm]

end

/-- A number that has no more fraction digits than it is rounded to, as every whole number, is read back from its text as
the number that it is. Its text is a key for it and for a plural of it, in any locale, be that a language tag or not. -/
theorem reads_own_text [Host] (negative : Bool) (magnitude : Magnitude) (options : NumberOptions) :
    let number : Number := ⟨.finite negative magnitude, options⟩
    let least := min (options.minimumFractionDigits.getD 0) 100
    let most := max least (min (options.maximumFractionDigits.getD 3) 100)
    ((∃ n : ℕ, magnitude.value = n) → ∃ n : ℕ, magnitude.value * 10 ^ most = n) ∧
      ((∃ n : ℕ, magnitude.value * 10 ^ most = n) →
        (∃ read, parse? number.text = some read ∧ read.value.sameNumber number.value = true ∧
          read.value.rational? = number.value.rational?) ∧
        number.matchesKey number.text = true ∧
        ∀ surroundings type, (Value.plural number type).isMatchedBy surroundings number.text = .ok true) := by
  intro number least most
  constructor
  · rintro ⟨n, whole⟩
    refine ⟨n * 10 ^ most, ?_⟩
    rw [whole]
    push_cast
    rfl
  · rintro ⟨n, exact⟩
    have places : most = options.mostFraction := options.mostFraction_eq.symm
    rw [places] at exact
    obtain ⟨shown, parsed, signed⟩ := parse?_text_of_exact negative exact
    have same : (Binary64.finite shown magnitude).sameNumber number.value = true :=
      (Binary64.sameNumber_finite ..).2 signed
    have key : number.matchesKey number.text = true := by
      rw [matchesKey, text, String.toList_ofList, parsed]
      exact same
    refine ⟨⟨ofValue (.finite shown magnitude), ?_, same, congrArg some signed⟩, key, ?_⟩
    · rw [parse?, text, String.toList_ofList, Text.trimBlank_of_printed (digits_isDecimal ..).printed, parsed]
      rfl
    · intro surroundings type
      rw [Value.isMatchedBy, if_pos key]

section
attribute [local instance] Host.none

/-- Minus two and a half is read back from a text with a zero in front. -/
theorem reads_own_text_padded :
    let surroundings : Surroundings := ⟨"no locale", fun name => .error (.unknownVariable name), .empty⟩
    let twoAndHalf : Magnitude := ⟨5 * 2 ^ 50, 1023, by decide, .inr (by decide), by decide⟩
    let number : Number := ⟨.finite true twoAndHalf, ⟨some 2, none, some 1⟩⟩
    twoAndHalf.value * 10 ^ 1 = (25 : ℕ) ∧ number.text = "-02.5" ∧
      (∃ read, parse? "-02.5" = some read ∧ read.value.rational? = number.value.rational?) ∧
      number.matchesKey "-02.5" = true ∧
      (Value.plural number .ordinal).isMatchedBy surroundings "-02.5" = .ok true := by
  intro surroundings twoAndHalf number
  have exact : twoAndHalf.value * 10 ^ 1 = (25 : ℕ) := (twoAndHalf.scaled_eq_natCast 1 25).2 (by decide +kernel)
  have shown : number.text = "-02.5" := by decide +kernel
  obtain ⟨_, reads⟩ := reads_own_text true twoAndHalf ⟨some 2, none, some 1⟩
  obtain ⟨⟨read, parsed, _, rational⟩, key, plural⟩ := reads ⟨25, exact⟩
  rw [← shown]
  exact ⟨exact, rfl, ⟨read, parsed, rational⟩, key, plural surroundings .ordinal⟩

end

end Number

end Localizable
