import Localizable.Part
import Mathlib.Algebra.Order.Field.Rat
import Mathlib.Data.List.DropRight
import Mathlib.Tactic.FieldSimp
import Mathlib.Tactic.Linarith
import Mathlib.Tactic.NormNum
import Mathlib.Tactic.Ring

/-!
# The digits of a shown number

A finite number is shown as the decimal nearest to it, with as many digits as its
options ask for and no more than that decimal needs beyond them (`Number.shown_rounded`).
Digits are read as the decimal that they denote. The changes that are made to them,
zeros put in front, taken off the end and put there again, keep that decimal.
-/

namespace Localizable

/-- An integer nearest to a rational, an even one if it is half way. -/
def Nearest (exact : ℚ) (n : ℕ) : Prop :=
  |n - exact| ≤ 1 / 2 ∧ (|n - exact| = 1 / 2 → n % 2 = 0)

theorem Nearest.unique {exact : ℚ} {n k : ℕ} (first : Nearest exact n) (second : Nearest exact k) : n = k := by
  obtain ⟨firstNear, firstEven⟩ := first
  obtain ⟨secondNear, secondEven⟩ := second
  have between := abs_sub_le (n : ℚ) exact k
  rw [abs_sub_comm exact] at between
  by_contra differ
  have apart : (1 : ℚ) ≤ |(n : ℚ) - k| := by
    have : (1 : ℤ) ≤ |(n : ℤ) - k| := Int.one_le_abs (by omega)
    exact_mod_cast this
  -- Two different ones are each half a unit away, so that they are neighbours and both even.
  have one : |(n : ℤ) - k| = 1 := by
    have : |(n : ℚ) - k| = 1 := by linarith
    exact_mod_cast this
  have even := firstEven (by linarith)
  have evenToo := secondEven (by linarith)
  rcases abs_eq (by norm_num) |>.1 one with above | below <;> omega

/-- A quotient is rounded to the even neighbour if it is half way between two. -/
theorem roundQuotient_tie (numerator : ℕ) {denominator : ℕ} (positive : 0 < denominator)
    (tie : 2 * (roundQuotient numerator denominator * denominator) = 2 * numerator + denominator ∨
      2 * numerator = 2 * (roundQuotient numerator denominator * denominator) + denominator) :
    roundQuotient numerator denominator % 2 = 0 := by
  have division := Nat.div_add_mod' numerator denominator
  have below := Nat.mod_lt numerator positive
  apply roundQuotient_half_even
  unfold roundQuotient at tie
  split at tie
  · omega
  · rw [Nat.add_mul, Nat.one_mul] at tie
    omega

theorem roundQuotient_nearest (numerator : ℕ) {denominator : ℕ} (positive : 0 < denominator) :
    Nearest (numerator / denominator) (roundQuotient numerator denominator) := by
  obtain ⟨above, below⟩ := roundQuotient_near numerator positive
  have tie := roundQuotient_tie numerator positive
  generalize roundQuotient numerator denominator = rounded at above below tie ⊢
  have size : (0 : ℚ) < denominator := by exact_mod_cast positive
  have difference : rounded - (numerator : ℚ) / denominator = (rounded * denominator - numerator) / denominator := by
    rw [sub_div, mul_div_cancel_right₀ _ size.ne']
  have aboveExact : (2 * (rounded * denominator) : ℚ) ≤ 2 * numerator + denominator := by exact_mod_cast above
  have belowExact : (2 * numerator : ℚ) ≤ 2 * (rounded * denominator) + denominator := by exact_mod_cast below
  rw [Nearest, difference]
  constructor
  · rw [abs_le, le_div_iff₀ size, div_le_iff₀ size]
    constructor <;> linarith
  · intro half
    apply tie
    rcases abs_eq (by norm_num) |>.1 half with up | down
    · rw [div_eq_iff size.ne'] at up
      have : (2 * (rounded * denominator) : ℚ) = 2 * numerator + denominator := by linarith
      exact .inl (by exact_mod_cast this)
    · rw [div_eq_iff size.ne'] at down
      have : (2 * numerator : ℚ) = 2 * (rounded * denominator) + denominator := by linarith
      exact .inr (by exact_mod_cast this)

theorem twoTo_pos (exponent : ℕ) : 0 < twoTo exponent := Nat.two_pow_pos exponent

theorem unitsPerOne_pos : 0 < unitsPerOne := by
  unfold unitsPerOne
  apply twoTo_pos

namespace Magnitude

/-- The rational that a finite value without its sign is. -/
def value (magnitude : Magnitude) : ℚ := magnitude.units / unitsPerOne

/-- The rational that a finite value is. -/
def signed (magnitude : Magnitude) (negative : Bool) : ℚ :=
  if negative then -magnitude.value else magnitude.value

variable (magnitude : Magnitude)

theorem value_nonneg : 0 ≤ magnitude.value := div_nonneg (Nat.cast_nonneg _) (Nat.cast_nonneg _)

theorem abs_signed (negative : Bool) : |magnitude.signed negative| = magnitude.value := by
  cases negative with
  | false => exact abs_of_nonneg magnitude.value_nonneg
  | true => exact (abs_neg _).trans (abs_of_nonneg magnitude.value_nonneg)

theorem value_eq_zero : magnitude.value = 0 ↔ magnitude.units = 0 := by
  have size : (unitsPerOne : ℚ) ≠ 0 := Nat.cast_ne_zero.2 unitsPerOne_pos.ne'
  rw [value, div_eq_zero_iff, or_iff_left size, Nat.cast_eq_zero]

theorem value_eq_natCast (n : ℕ) : magnitude.value = n ↔ magnitude.units = n * unitsPerOne := by
  have size : (unitsPerOne : ℚ) ≠ 0 := Nat.cast_ne_zero.2 unitsPerOne_pos.ne'
  rw [value, div_eq_iff size, ← Nat.cast_mul, Nat.cast_inj]

theorem signed_neg_iff (negative : Bool) :
    magnitude.signed negative < 0 ↔ negative = true ∧ magnitude.units ≠ 0 := by
  have nonneg := magnitude.value_nonneg
  have zero := magnitude.value_eq_zero
  cases negative with
  | false => simpa [signed] using nonneg
  | true => simp [signed, ← zero, lt_iff_le_and_ne, nonneg, eq_comm]

theorem roundedTo_nearest (places : ℕ) : Nearest (magnitude.value * 10 ^ places) (magnitude.roundedTo places) := by
  have quotient : magnitude.value * 10 ^ places = ((magnitude.units * tenTo places : ℕ) : ℚ) / unitsPerOne := by
    rw [value, tenTo, Nat.pow_eq]
    push_cast
    ring
  rw [quotient]
  exact roundQuotient_nearest _ unitsPerOne_pos

/-- A value with no more fraction digits than it is rounded to is not changed. -/
theorem roundedTo_of_exact {places n : ℕ} (exact : magnitude.value * 10 ^ places = n) :
    magnitude.roundedTo places = n := by
  have own : Nearest (magnitude.value * 10 ^ places) n := by
    rw [exact]
    simp [Nearest]
  exact (magnitude.roundedTo_nearest places).unique own

theorem roundedTo_of_zero (zero : magnitude.units = 0) (places : ℕ) : magnitude.roundedTo places = 0 := by
  have none := roundQuotient_mul 0 unitsPerOne_pos
  rw [Nat.zero_mul] at none
  rw [roundedTo, zero, Nat.zero_mul, none]

end Magnitude

theorem NumberOptions.leastFraction_le (options : NumberOptions) : options.leastFraction ≤ options.mostFraction := by
  unfold mostFraction leastFraction
  omega

theorem NumberOptions.mostFraction_eq (options : NumberOptions) :
    options.mostFraction = max options.leastFraction (min (options.maximumFractionDigits.getD 3) maxDigits) := by
  unfold mostFraction leastFraction
  omega

namespace Digits

/-! ## What digits denote -/

/-- The integer that digits denote. -/
def whole (digits : List Char) : ℕ := Nat.ofDigitChars 10 digits 0

/-- The decimal that digits in front of a point and behind it denote. -/
def decimal (integer fraction : List Char) : ℚ := whole (integer ++ fraction) / 10 ^ fraction.length

theorem whole_append (front back : List Char) :
    whole (front ++ back) = whole front * 10 ^ back.length + whole back := by
  rw [whole, Nat.ofDigitChars_append, Nat.ofDigitChars_eq_ofDigitChars_zero, Nat.mul_comm]
  rfl

theorem whole_zeros (count : ℕ) : whole (List.replicate count '0') = 0 := by
  rw [whole, Nat.ofDigitChars_replicate_zero, Nat.mul_zero]

theorem whole_toDigits (n : ℕ) : whole (Nat.toDigits 10 n) = n :=
  Nat.ofDigitChars_toDigits (by decide) (by decide)

theorem whole_singleton {c : Char} (digit : c.isDigit) (other : c ≠ '0') : 0 < whole [c] ∧ whole [c] < 10 := by
  have bounds := Char.isDigit_iff_toNat.1 digit
  have code : c.toNat ≠ '0'.toNat := fun same => other (Char.toNat_inj.1 same)
  have value : whole [c] = 10 * 0 + (c.toNat - '0'.toNat) := Nat.ofDigitChars_cons
  have zero : '0'.toNat = 48 := rfl
  have nine : '9'.toNat = 57 := rfl
  omega

/-- The digits in front of the point denote the integer part, and those behind it the rest. -/
theorem decimal_eq (integer fraction : List Char) :
    decimal integer fraction = whole integer + whole fraction / 10 ^ fraction.length := by
  rw [decimal, whole_append]
  push_cast
  field_simp

/-- Zeros at the end change nothing behind the point. -/
theorem decimal_zeros (integer fraction : List Char) (count : ℕ) :
    decimal integer (fraction ++ List.replicate count '0') = decimal integer fraction := by
  rw [decimal, decimal, ← List.append_assoc, whole_append, whole_zeros, List.length_append, List.length_replicate]
  push_cast
  field_simp
  ring

/-- There is no shorter form of a decimal whose last digit is not zero. -/
theorem length_le_of_decimal {integer fraction front behind : List Char} {last : Char}
    (ends : fraction.getLast? = some last) (digit : last.isDigit) (other : last ≠ '0')
    (same : decimal front behind = decimal integer fraction) : fraction.length ≤ behind.length := by
  obtain ⟨more, rfl⟩ := List.getLast?_eq_some_iff.1 ends
  by_contra shorter
  obtain ⟨extra, lengths⟩ : ∃ extra, more.length = behind.length + extra := by
    rw [List.length_append, List.length_singleton] at shorter
    exact ⟨more.length - behind.length, by omega⟩
  -- With the longer one's places the shorter one has a zero where the last digit is.
  have aligned : whole (front ++ behind) * 10 ^ (extra + 1) = whole (integer ++ more) * 10 + whole [last] := by
    rw [decimal, decimal, ← List.append_assoc, whole_append _ [last], List.length_append, List.length_singleton,
      lengths, div_eq_div_iff (by positivity) (by positivity)] at same
    have products : whole (front ++ behind) * 10 ^ (behind.length + extra + 1) =
        (whole (integer ++ more) * 10 ^ 1 + whole [last]) * 10 ^ behind.length := by
      exact_mod_cast same
    apply Nat.eq_of_mul_eq_mul_right (show 0 < 10 ^ behind.length by positivity)
    rw [pow_one] at products
    rw [← products]
    ring
  have lastDigit := whole_singleton digit other
  rw [pow_succ, ← Nat.mul_assoc] at aligned
  omega

theorem length_padInteger (width : ℕ) (digits : List Char) :
    (padInteger width digits).length = max width digits.length := by
  rw [padInteger, List.length_append, List.length_replicate]
  omega

theorem length_padFraction (width : ℕ) (digits : List Char) :
    (padFraction width digits).length = max width digits.length := by
  rw [padFraction, List.length_append, List.length_replicate]
  omega

theorem whole_padInteger (width : ℕ) (digits : List Char) : whole (padInteger width digits) = whole digits := by
  rw [padInteger, whole_append, whole_zeros, Nat.zero_mul, Nat.zero_add]

theorem isDigit_zeros (count : ℕ) : ∀ c ∈ List.replicate count '0', c.isDigit := by
  intro c member
  rw [List.eq_of_mem_replicate member]
  rfl

theorem isDigit_padInteger {width : ℕ} {digits : List Char} (all : ∀ c ∈ digits, c.isDigit) :
    ∀ c ∈ padInteger width digits, c.isDigit := List.forall_mem_append.2 ⟨isDigit_zeros _, all⟩

theorem isDigit_padFraction {width : ℕ} {digits : List Char} (all : ∀ c ∈ digits, c.isDigit) :
    ∀ c ∈ padFraction width digits, c.isDigit := List.forall_mem_append.2 ⟨all, isDigit_zeros _⟩

theorem isDigit_toDigits (n : ℕ) : ∀ c ∈ Nat.toDigits 10 n, c.isDigit :=
  fun _ member => Nat.isDigit_of_mem_toDigits (by decide) (by decide) member

/-- What is trimmed off are zeros. -/
theorem exists_zeros_of_trimZeros (digits : List Char) :
    ∃ count, trimZeros digits ++ List.replicate count '0' = digits := by
  have zeros : digits.rtakeWhile (· == '0') = List.replicate (digits.rtakeWhile (· == '0')).length '0' := by
    refine List.eq_replicate_iff.2 ⟨rfl, fun c member => ?_⟩
    have zero := List.mem_rtakeWhile_imp member
    exact eq_of_beq zero
  refine ⟨(digits.rtakeWhile (· == '0')).length, ?_⟩
  rw [← zeros]
  exact List.rdropWhile_append_rtakeWhile

theorem getLast_trimZeros (digits : List Char) (some : trimZeros digits ≠ []) :
    (trimZeros digits).getLast some ≠ '0' := by
  intro zero
  exact List.rdropWhile_last_not (· == '0') digits some (beq_iff_eq.2 zero)

/-- Trimmed digits that are longer than they have to be end in another digit than zero. -/
theorem getLast?_of_trimmed {least : ℕ} {digits : List Char}
    (long : least < (padFraction least (trimZeros digits)).length) :
    ∃ last, (padFraction least (trimZeros digits)).getLast? = some last ∧ last ≠ '0' := by
  rw [length_padFraction] at long
  have padded : padFraction least (trimZeros digits) = trimZeros digits := by
    rw [padFraction, show least - (trimZeros digits).length = 0 by omega, List.replicate_zero, List.append_nil]
  have some : trimZeros digits ≠ [] := by
    intro none
    rw [none] at long
    simp at long
  rw [padded]
  exact ⟨_, List.getLast?_eq_some_getLast some, getLast_trimZeros digits some⟩

/-- The fraction digits of a rounded value, with the zeros at their end. -/
def places (count rounded : ℕ) : List Char :=
  if count = 0 then [] else padInteger count (Nat.toDigits 10 (rounded % tenTo count))

theorem length_places (count rounded : ℕ) : (places count rounded).length = count := by
  unfold places
  by_cases none : count = 0
  · rw [if_pos none, none]
    rfl
  · have fits : (Nat.toDigits 10 (rounded % tenTo count)).length ≤ count :=
      (Nat.length_toDigits_le_iff (by decide) (by omega)).2 (Nat.mod_lt _ (Nat.pow_pos (by decide)))
    rw [if_neg none, length_padInteger]
    omega

theorem whole_places (count rounded : ℕ) : whole (places count rounded) = rounded % 10 ^ count := by
  unfold places
  by_cases none : count = 0
  · rw [if_pos none, none, pow_zero, Nat.mod_one]
    rfl
  · rw [if_neg none, whole_padInteger, whole_toDigits]
    rfl

theorem isDigit_places (count rounded : ℕ) : ∀ c ∈ places count rounded, c.isDigit := by
  unfold places
  by_cases none : count = 0
  · simp [none]
  · rw [if_neg none]
    exact isDigit_padInteger (isDigit_toDigits _)

variable (negative : Bool) (options : NumberOptions) (rounded : ℕ)

theorem ofRounded_fraction :
    (ofRounded negative options rounded).fraction =
      padFraction options.leastFraction (trimZeros (places options.mostFraction rounded)) := rfl

theorem ofRounded_whole :
    whole (ofRounded negative options rounded).integer = rounded / 10 ^ options.mostFraction := by
  rw [ofRounded, whole_padInteger, whole_toDigits]
  rfl

theorem ofRounded_integer_ne_nil : (ofRounded negative options rounded).integer ≠ [] := by
  rw [ofRounded, padInteger]
  simp [Nat.toDigits_ne_nil]

theorem ofRounded_isDigit :
    (∀ c ∈ (ofRounded negative options rounded).integer, c.isDigit) ∧
      ∀ c ∈ (ofRounded negative options rounded).fraction, c.isDigit := by
  refine ⟨isDigit_padInteger (isDigit_toDigits _), ?_⟩
  obtain ⟨count, zeros⟩ := exists_zeros_of_trimZeros (places options.mostFraction rounded)
  refine isDigit_padFraction fun c member => isDigit_places options.mostFraction rounded c ?_
  rw [← zeros]
  exact List.mem_append_left _ member

/-- The digits denote the rounded value. -/
theorem ofRounded_decimal :
    decimal (ofRounded negative options rounded).integer (ofRounded negative options rounded).fraction =
      rounded / 10 ^ options.mostFraction := by
  obtain ⟨count, zeros⟩ := exists_zeros_of_trimZeros (places options.mostFraction rounded)
  have division := Nat.div_add_mod' rounded (10 ^ options.mostFraction)
  rw [ofRounded_fraction, padFraction, decimal_zeros, ← decimal_zeros _ _ count, zeros, decimal_eq, ofRounded_whole,
    whole_places, length_places]
  field_simp
  exact_mod_cast division

/-- The digits of a value that has been rounded to a number of places: which decimal they denote, and how many they are
if a width of the integer part and a least number of fraction digits are asked for. -/
structure Spells (digits : Digits) (width least most rounded : ℕ) : Prop where
  integerDigits : ∀ c ∈ digits.integer, c.isDigit
  fractionDigits : ∀ c ∈ digits.fraction, c.isDigit
  denotes : decimal digits.integer digits.fraction = rounded / 10 ^ most
  integerLength : digits.integer.length = max width (Nat.toDigits 10 (rounded / 10 ^ most)).length
  least_le : least ≤ digits.fraction.length
  le_most : digits.fraction.length ≤ most
  /-- No decimal with enough digits behind the point that denotes the same has fewer of them. -/
  shortest : ∀ front behind, least ≤ behind.length →
    decimal front behind = decimal digits.integer digits.fraction → digits.fraction.length ≤ behind.length
  trimmed : least < digits.fraction.length → digits.fraction.getLast? ≠ some '0'

theorem ofRounded_spells :
    (ofRounded negative options rounded).Spells options.integerDigits options.leastFraction options.mostFraction
      rounded := by
  obtain ⟨integerDigits, fractionDigits⟩ := ofRounded_isDigit negative options rounded
  obtain ⟨count, zeros⟩ := exists_zeros_of_trimZeros (places options.mostFraction rounded)
  have total := congrArg List.length zeros
  rw [List.length_append, length_places] at total
  have length := length_padFraction options.leastFraction (trimZeros (places options.mostFraction rounded))
  rw [← ofRounded_fraction negative] at length
  have bounds := options.leastFraction_le
  have denotes := ofRounded_decimal negative options rounded
  refine ⟨integerDigits, fractionDigits, denotes, length_padInteger _ _, ?_, ?_, ?_, ?_⟩
  · omega
  · omega
  · intro front behind enough same
    by_cases long : options.leastFraction < (ofRounded negative options rounded).fraction.length
    · obtain ⟨last, ends, other⟩ := getLast?_of_trimmed long
      exact length_le_of_decimal ends (fractionDigits last (List.mem_of_getLast? ends)) other same
    · omega
  · intro long zero
    obtain ⟨last, ends, other⟩ := getLast?_of_trimmed long
    exact other (Option.some.inj (ends.symm.trans zero))

/-! ## What is shown -/

theorem signed64?_of_digits {digits : List Char} (some : digits ≠ []) (all : ∀ c ∈ digits, c.isDigit) :
    signed64? digits = if whole digits < twoTo 63 then Option.some (whole digits) else none := by
  have spelled : Numeral.natural? digits = Option.some (whole digits) := by
    rw [Numeral.natural?, if_pos ⟨some, List.all_eq_true.2 all⟩]
    rfl
  rw [signed64?, spelled]
  rfl

/-- Plural rules see the fraction digits, or else an integer if it has 64 bits. -/
theorem pluralInput_of_digits {digits : Digits} (some : digits.integer ≠ [])
    (all : ∀ c ∈ digits.integer, c.isDigit) :
    digits.pluralInput =
      if digits.fraction ≠ [] then .decimal (String.ofList (digits.integer ++ '.' :: digits.fraction))
      else if whole digits.integer < 2 ^ 63 then
        .integer (if digits.negative then -(whole digits.integer : ℤ) else whole digits.integer)
      else .decimal (String.ofList digits.integer) := by
  rw [pluralInput, signed64?_of_digits some all]
  congr 1
  by_cases small : whole digits.integer < twoTo 63
  · rw [if_pos small]
    exact (if_pos small).symm
  · rw [if_neg small]
    exact (if_neg small).symm

end Digits

/-- A finite number is shown as the decimal that it rounds to, a half to even: with at least as many integer digits as
are asked for, with the fewest fraction digits that are asked for and denote that decimal, and with a minus sign if it is
below zero and not rounded to zero. Its parts are the pieces of its text. Plural rules see the fraction digits if there
are any, or else the integer, or its digits where it has more than 64 bits. -/
theorem Number.shown_rounded (negative : Bool) (magnitude : Magnitude) (options : NumberOptions) :
    let number : Number := ⟨.finite negative magnitude, options⟩
    let digits := number.digits
    let exact : ℚ := magnitude.signed negative
    let width := min (options.minimumIntegerDigits.getD 1) 100
    let least := min (options.minimumFractionDigits.getD 0) 100
    let most := max least (min (options.maximumFractionDigits.getD 3) 100)
    (width ≤ 100 ∧ least ≤ most ∧ most ≤ 100) ∧
      ∃ rounded : ℕ, (∀ n, Nearest (|exact| * 10 ^ most) n ↔ n = rounded) ∧
        digits.Spells width least most rounded ∧
        (digits.negative = true ↔ exact < 0 ∧ rounded ≠ 0) ∧
        number.text = String.ofList ((if digits.negative then ['-'] else []) ++ digits.integer ++
          if digits.fraction = [] then [] else '.' :: digits.fraction) ∧
        number.parts = (if digits.negative then [.text "minusSign" "-"] else []) ++
          .text "integer" (String.ofList digits.integer) ::
          (if digits.fraction = [] then []
          else [.text "decimal" ".", .text "fraction" (String.ofList digits.fraction)]) ∧
        number.pluralInput =
          if digits.fraction ≠ [] then .decimal (String.ofList (digits.integer ++ '.' :: digits.fraction))
          else if rounded / 10 ^ most < 2 ^ 63 then
            .integer (if digits.negative then -(rounded / 10 ^ most : ℕ) else (rounded / 10 ^ most : ℕ))
          else .decimal (String.ofList digits.integer) := by
  intro number digits exact width least most
  refine ⟨by omega, ?_⟩
  have nearest := magnitude.roundedTo_nearest options.mostFraction
  have zero := fun none => magnitude.roundedTo_of_zero none options.mostFraction
  have shown : digits = .ofRounded negative options (magnitude.roundedTo options.mostFraction) := rfl
  have most_eq : most = options.mostFraction := options.mostFraction_eq.symm
  rw [← magnitude.abs_signed negative] at nearest
  rw [most_eq]
  generalize magnitude.roundedTo options.mostFraction = rounded at nearest zero shown
  refine ⟨rounded, ?_, ?_, ?_, ?_, ?_, ?_⟩
  · intro n
    constructor
    · intro other
      exact other.unique nearest
    · rintro rfl
      exact nearest
  · rw [shown]
    exact Digits.ofRounded_spells negative options rounded
  · rw [magnitude.signed_neg_iff, shown, Digits.ofRounded, Bool.and_eq_true, bne_iff_ne]
    constructor
    · rintro ⟨below, some⟩
      exact ⟨⟨below, fun none => some (zero none)⟩, some⟩
    · rintro ⟨⟨below, _⟩, some⟩
      exact ⟨below, some⟩
  · rw [Number.text, Digits.text]
    simp only [List.isEmpty_iff, digits]
  · rw [Number.parts, Digits.parts]
    simp only [List.isEmpty_iff, digits]
  · have all := (Digits.ofRounded_isDigit negative options rounded).1
    have some := Digits.ofRounded_integer_ne_nil negative options rounded
    have whole := Digits.ofRounded_whole negative options rounded
    rw [← shown] at all some whole
    rw [← whole]
    exact Digits.pluralInput_of_digits some all

end Localizable
