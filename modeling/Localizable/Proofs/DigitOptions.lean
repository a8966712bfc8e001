import Localizable.Function.Number
import Localizable.Proofs.WholeNumbers

/-!
# Digit options

A digit option takes the natural number that its value denotes, up to a hundred
(`Functions.digits_read`). A number counts if it has 64 bits with its sign, and a text if it has
64 bits. What is beyond counts nothing, but for the first number there: `2 ^ 63` counts one less
than it is (`Number.integer?_exact_or_end`).
-/

namespace Localizable

theorem Numeral.natural?_eq_some_iff {digits : List Char} {n : ℕ} :
    natural? digits = some n ↔ digits ≠ [] ∧ (∀ c ∈ digits, c.isDigit) ∧ Digits.whole digits = n := by
  rw [natural?]
  by_cases spelled : digits ≠ [] ∧ digits.all Char.isDigit = true
  · rw [if_pos spelled, Option.some_inj]
    simp only [List.all_eq_true] at spelled
    exact ⟨fun same => ⟨spelled.1, spelled.2, same⟩, fun same => same.2.2⟩
  · rw [if_neg spelled]
    simp only [List.all_eq_true] at spelled
    constructor
    · intro none
      cases none
    · rintro ⟨some, all, _⟩
      exact absurd ⟨some, all⟩ spelled

namespace Value

/-- The natural number that a value denotes: a text by its digits, with or without a plus sign in front of
them, and a number by being it. -/
inductive Denotes : Value → ℕ → Prop
  | digits {text : String} {digits : List Char} (some : digits ≠ []) (all : ∀ c ∈ digits, c.isDigit)
      (written : text.toList = digits ∨ text.toList = '+' :: digits) : Denotes (.text text) (Digits.whole digits)
  | number {number : Number} {n : ℕ} (exact : number.value.rational? = some (n : ℚ)) : Denotes (.number number) n

/-- The least natural number that is beyond those that a value can count. -/
def countEnd : Value → ℕ
  | .number _ => 2 ^ 63
  | _ => 2 ^ 64

theorem le_countEnd (value : Value) : 2 ^ 63 ≤ value.countEnd := by
  cases value <;> simp [countEnd]

/-- A text denotes what the digits behind its plus sign do, if it has one. -/
theorem denotes_text {text : String} {digits : List Char} {n : ℕ}
    (behind : text.toList = '+' :: digits ∨ text.toList = digits ∧ ∀ rest, digits ≠ '+' :: rest) :
    (Value.text text).Denotes n ↔ digits ≠ [] ∧ (∀ c ∈ digits, c.isDigit) ∧ Digits.whole digits = n := by
  constructor
  · rintro ⟨some, all, written⟩
    -- The digits are unique: a plus sign is no digit, so only one of the two spellings fits.
    rcases behind with signed | ⟨plain, unsigned⟩ <;> rcases written with other | other
    · rw [signed] at other
      subst other
      exact absurd (all '+' List.mem_cons_self) (by decide)
    · rw [signed] at other
      obtain rfl := (List.cons.inj other).2
      exact ⟨some, all, rfl⟩
    · rw [plain] at other
      subst other
      exact ⟨some, all, rfl⟩
    · rw [plain] at other
      exact absurd other (unsigned _)
  · rintro ⟨some, all, rfl⟩
    exact .digits some all (behind.symm.imp And.left id)

theorem countOfText?_eq_some_iff {text : String} {n : ℕ} :
    countOfText? text = some n ↔ (Value.text text).Denotes n ∧ n < 2 ^ 64 := by
  have bounded : ∀ digits, (Numeral.natural? digits).bind (fun n => if n < twoTo 64 then some n else none) = some n ↔
      (digits ≠ [] ∧ (∀ c ∈ digits, c.isDigit) ∧ Digits.whole digits = n) ∧ n < 2 ^ 64 := by
    intro digits
    have limit : twoTo 64 = 2 ^ 64 := rfl
    rw [← Numeral.natural?_eq_some_iff, Option.bind_eq_some_iff, limit]
    constructor
    · rintro ⟨m, spelled, small⟩
      obtain ⟨below, same⟩ := Option.ite_none_right_eq_some.1 small
      obtain rfl := Option.some.inj same
      exact ⟨spelled, below⟩
    · rintro ⟨spelled, below⟩
      exact ⟨n, spelled, if_pos below⟩
  unfold countOfText?
  split
  next rest signed => rw [bounded, denotes_text (.inl signed)]
  next unsigned => rw [bounded, denotes_text (.inr ⟨rfl, unsigned⟩)]

theorem count?_number {number : Number} {n : ℕ} :
    (Value.number number).count? = some n ↔
      (number.value.rational? = some (n : ℚ) ∧ n < 2 ^ 63) ∨
        (number.value.rational? = some (2 ^ 63) ∧ n = 2 ^ 63 - 1) := by
  have natural : (Value.number number).count? = some n ↔ number.integer? = some (n : ℤ) := by
    rw [count?, Option.bind_eq_some_iff]
    constructor
    · rintro ⟨k, read, natural⟩
      rwa [Int.mem_toNat?.1 natural] at read
    · intro read
      exact ⟨n, read, Int.mem_toNat?.2 rfl⟩
  rw [natural, Number.integer?_eq_some_iff, Int.cast_natCast]
  constructor
  · rintro (⟨exact, _, small⟩ | ⟨exact, last⟩)
    · exact .inl ⟨exact, by omega⟩
    · exact .inr ⟨exact, by omega⟩
  · rintro (⟨exact, small⟩ | ⟨exact, last⟩)
    · exact .inl ⟨exact, by omega, by omega⟩
    · exact .inr ⟨exact, by omega⟩

theorem denotes_number {number : Number} {n : ℕ} :
    (Value.number number).Denotes n ↔ number.value.rational? = some (n : ℚ) := by
  constructor
  · rintro ⟨exact⟩
    assumption
  · exact .number

/-- A value counts what it denotes, if it is in front of the end; the number at the end counts one less. -/
theorem count?_eq_some_iff {value : Value} {n : ℕ} :
    value.count? = some n ↔
      (value.Denotes n ∧ n < value.countEnd) ∨
        ∃ number, value = .number number ∧ value.Denotes (2 ^ 63) ∧ n = 2 ^ 63 - 1 := by
  cases value with
  | text text => simp [count?, countOfText?_eq_some_iff, countEnd]
  | number number =>
    have last : (Value.number number).Denotes (2 ^ 63) ↔ number.value.rational? = some (2 ^ 63) := by
      rw [denotes_number, Nat.cast_pow, Nat.cast_ofNat]
    rw [count?_number, denotes_number, last]
    simp [countEnd]
  | _ =>
    constructor
    · intro none
      cases none
    · rintro (⟨denotes, _⟩ | ⟨_, same, _⟩)
      · cases denotes
      · cases same

theorem count?_eq_none_iff {value : Value} :
    value.count? = none ↔ (∀ n, value.Denotes n → value.countEnd ≤ n) ∧
      ∀ number, value = .number number → ¬ value.Denotes (2 ^ 63) := by
  rw [Option.eq_none_iff_forall_ne_some]
  constructor
  · intro none
    refine ⟨fun n denotes => ?_, fun number same denotes => ?_⟩
    · by_contra counts
      exact none n (count?_eq_some_iff.2 (.inl ⟨denotes, by omega⟩))
    · exact none _ (count?_eq_some_iff.2 (.inr ⟨number, same, denotes, rfl⟩))
  · rintro ⟨beyond, notAtEnd⟩ n counted
    rcases count?_eq_some_iff.1 counted with ⟨denotes, counts⟩ | ⟨number, same, denotes, _⟩
    · have := beyond n denotes
      omega
    · exact notAtEnd number same denotes

end Value

/-! ## One digit option -/

namespace Functions

variable {function name : String} {options : OptionValues}

theorem digitOption_of_absent (absent : options.get? name = none) : digitOption function options name = .ok none := by
  rw [digitOption, OptionValues.count, absent]

theorem digitOption_of_unread {value : Value} (held : options.get? name = some value) (unread : value.count? = none) :
    digitOption function options name = .error (.invalidArgument function (.optionNotCount name)) := by
  rw [digitOption, OptionValues.count, held]
  simp only [unread]

theorem digitOption_of_count {value : Value} {n : ℕ} (held : options.get? name = some value)
    (counted : value.count? = some n) :
    digitOption function options name =
      if n ≤ 100 then .ok (some n) else .error (.optionOutOfRange function name n 100) := by
  rw [digitOption, OptionValues.count, held]
  simp only [counted]
  rfl

end Functions

theorem OptionValues.count_eq_some_iff {options : OptionValues} {function name : String} {value : Value} {n : ℕ}
    (held : options.get? name = some value) :
    options.count function name = .ok (some n) ↔ value.count? = some n := by
  rw [count, held]
  cases counted : value.count? <;> simp [counted]

theorem Functions.digitOption_eq_outOfRange_iff {options : OptionValues} {function name : String} {value : Value}
    {n max : ℕ} (held : options.get? name = some value) :
    digitOption function options name = .error (.optionOutOfRange function name n max) ↔
      max = 100 ∧ 100 < n ∧ value.count? = some n := by
  cases counted : value.count? with
  | none => simp [digitOption_of_unread held counted]
  | some m =>
    rw [digitOption_of_count held counted]
    by_cases small : m ≤ 100
    · rw [if_pos small]
      simp only [reduceCtorEq, Option.some_inj, false_iff]
      omega
    · rw [if_neg small]
      simp only [Except.error.injEq, FormatError.optionOutOfRange.injEq, true_and, Option.some_inj]
      omega

/-- A number is read as the integer that it is, if that is one of 64 bits, and at the upper end of the range as the last
one in front of it; nothing else is read as an integer. What an option returns that holds the number, and what an error
reports of it, is that integer. -/
theorem Number.integer?_exact_or_end (number : Number) :
    let value := number.value.rational?
    (∀ k : ℤ, number.integer? = some k ↔
        (value = some (k : ℚ) ∧ -2 ^ 63 ≤ k ∧ k < 2 ^ 63) ∨ (value = some (2 ^ 63) ∧ k = 2 ^ 63 - 1)) ∧
      ∀ (function name : String) (options : OptionValues), options.get? name = some (.number number) →
        (∀ n : ℕ, options.count function name = .ok (some n) ↔
          (value = some (n : ℚ) ∧ n < 2 ^ 63) ∨ (value = some (2 ^ 63) ∧ n = 2 ^ 63 - 1)) ∧
        ∀ n max : ℕ, Functions.digitOption function options name = .error (.optionOutOfRange function name n max) ↔
          max = 100 ∧ 100 < n ∧
            ((value = some (n : ℚ) ∧ n < 2 ^ 63) ∨ (value = some (2 ^ 63) ∧ n = 2 ^ 63 - 1)) := by
  intro value
  refine ⟨fun k => integer?_eq_some_iff, fun function name options held => ⟨fun n => ?_, fun n max => ?_⟩⟩
  · rw [OptionValues.count_eq_some_iff held, Value.count?_number]
  · rw [Functions.digitOption_eq_outOfRange_iff held, Value.count?_number]

/-- The largest integer of 64 bits that is a number is counted as what it is. -/
theorem Number.integer?_exact_or_end_largest :
    let largest : Number := .ofInt (2 ^ 63 - 2 ^ 10)
    let options : OptionValues := .ofList [("maximumFractionDigits", .number largest)]
    options.get? "maximumFractionDigits" = some (.number largest) ∧ largest.integer? = some (2 ^ 63 - 2 ^ 10) ∧
      options.count "number" "maximumFractionDigits" = .ok (some (2 ^ 63 - 2 ^ 10)) ∧
      Functions.digitOption "number" options "maximumFractionDigits" =
        .error (.optionOutOfRange "number" "maximumFractionDigits" (2 ^ 63 - 2 ^ 10) 100) := by
  intro largest options
  have integer : largest.value.integer? = some ((2 ^ 63 - 2 ^ 10 : ℕ) : ℤ) := by decide +kernel
  have exact : largest.value.rational? = some ((2 ^ 63 - 2 ^ 10 : ℕ) : ℚ) := by
    rw [Binary64.integer?_eq_some_iff.1 integer, Int.cast_natCast]
  obtain ⟨reads, held⟩ := integer?_exact_or_end largest
  obtain ⟨counts, reports⟩ := held "number" "maximumFractionDigits" options rfl
  refine ⟨rfl, (reads _).2 (.inl ⟨?_, by decide, by decide⟩), (counts _).2 (.inl ⟨exact, by decide⟩),
    (reports _ _).2 ⟨rfl, by decide, .inl ⟨exact, by decide⟩⟩⟩
  rw [exact]
  norm_num

/-- The upper end of the range is read as another integer than it is. -/
theorem Number.integer?_end :
    ¬ ∀ (number : Number) (k : ℤ), number.integer? = some k ↔
      number.value.rational? = some (k : ℚ) ∧ -2 ^ 63 ≤ k ∧ k ≤ 2 ^ 63 - 1 := by
  intro claimed
  have read : (Number.ofInt (2 ^ 63)).integer? = some (2 ^ 63 - 1) := by decide +kernel
  have exact : (Number.ofInt (2 ^ 63)).value.integer? = some (2 ^ 63) := by decide +kernel
  have other := Binary64.integer?_eq_some_iff.2 ((claimed _ _).1 read).1
  rw [exact] at other
  exact absurd other (by decide)

namespace Functions

/-- What comes of a digit option that is given a value, or none. -/
inductive ReadsDigit (function name : String) : Option Value → Except FormatError (Option ℕ) → Prop
  | unset : ReadsDigit function name none (.ok none)
  | taken {value : Value} {n : ℕ} (denotes : value.Denotes n) (small : n ≤ 100) :
    ReadsDigit function name (some value) (.ok (some n))
  | tooLarge {value : Value} {n : ℕ} (denotes : value.Denotes n) (large : 100 < n) (counts : n < value.countEnd) :
    ReadsDigit function name (some value) (.error (.optionOutOfRange function name n 100))
  /-- The number at the end of the range is reported as the last one in front of it. -/
  | atEnd {number : Number} (denotes : (Value.number number).Denotes (2 ^ 63)) :
    ReadsDigit function name (some (.number number)) (.error (.optionOutOfRange function name (2 ^ 63 - 1) 100))
  | unread {value : Value} (beyond : ∀ n, value.Denotes n → value.countEnd ≤ n)
      (notAtEnd : ∀ number, value = .number number → ¬ value.Denotes (2 ^ 63)) :
    ReadsDigit function name (some value) (.error (.invalidArgument function (.optionNotCount name)))

variable {function name : String} {options : OptionValues}

theorem readsDigit_digitOption (function name : String) (options : OptionValues) :
    ReadsDigit function name (options.get? name) (digitOption function options name) := by
  cases held : options.get? name with
  | none =>
    rw [digitOption_of_absent held]
    exact .unset
  | some value =>
    cases counted : value.count? with
    | none =>
      obtain ⟨beyond, notAtEnd⟩ := Value.count?_eq_none_iff.1 counted
      rw [digitOption_of_unread held counted]
      exact .unread beyond notAtEnd
    | some n =>
      rw [digitOption_of_count held counted]
      rcases Value.count?_eq_some_iff.1 counted with ⟨denotes, counts⟩ | ⟨number, rfl, denotes, rfl⟩
      · by_cases small : n ≤ 100
        · rw [if_pos small]
          exact .taken denotes small
        · rw [if_neg small]
          exact .tooLarge denotes (by omega) counts
      · rw [if_neg (by decide)]
        exact .atEnd denotes

/-- A digit option is read in one way. -/
theorem digitOption_eq_iff {result : Except FormatError (Option ℕ)} :
    digitOption function options name = result ↔ ReadsDigit function name (options.get? name) result := by
  constructor
  · rintro rfl
    exact readsDigit_digitOption function name options
  · intro reads
    generalize held : options.get? name = given at reads
    cases reads with
    | unset => exact digitOption_of_absent held
    | @taken value n denotes small =>
      have counts : n < value.countEnd := by
        have := value.le_countEnd
        omega
      rw [digitOption_of_count held (Value.count?_eq_some_iff.2 (.inl ⟨denotes, counts⟩)), if_pos small]
    | tooLarge denotes large counts =>
      rw [digitOption_of_count held (Value.count?_eq_some_iff.2 (.inl ⟨denotes, counts⟩)), if_neg (by omega)]
    | atEnd denotes =>
      rw [digitOption_of_count held (Value.count?_eq_some_iff.2 (.inr ⟨_, rfl, denotes, rfl⟩)), if_neg (by decide)]
    | unread beyond notAtEnd => exact digitOption_of_unread held (Value.count?_eq_none_iff.2 ⟨beyond, notAtEnd⟩)

/-- The digit options in the order in which they are read. -/
def digitNames : List String := ["minimumIntegerDigits", "minimumFractionDigits", "maximumFractionDigits"]

/-- What comes of the digit options: all of them, or the error of the first one that is refused. -/
inductive ReadsDigits (function : String) (options : OptionValues) : Except FormatError NumberOptions → Prop
  | taken {integer least most : Option ℕ}
      (first : ReadsDigit function "minimumIntegerDigits" (options.get? "minimumIntegerDigits") (.ok integer))
      (second : ReadsDigit function "minimumFractionDigits" (options.get? "minimumFractionDigits") (.ok least))
      (third : ReadsDigit function "maximumFractionDigits" (options.get? "maximumFractionDigits") (.ok most)) :
    ReadsDigits function options (.ok ⟨integer, least, most⟩)
  | refused {before after : List String} {name : String} {error : FormatError}
      (order : digitNames = before ++ name :: after)
      (passes : ∀ earlier ∈ before, ∃ count, ReadsDigit function earlier (options.get? earlier) (.ok count))
      (fails : ReadsDigit function name (options.get? name) (.error error)) :
    ReadsDigits function options (.error error)

theorem digitOptions_eq_bind (function : String) (options : OptionValues) :
    digitOptions function options =
      (digitOption function options "minimumIntegerDigits").bind fun integer =>
        (digitOption function options "minimumFractionDigits").bind fun least =>
          (digitOption function options "maximumFractionDigits").map fun most => ⟨integer, least, most⟩ := by
  rfl

theorem readsDigits_digitOptions (function : String) (options : OptionValues) :
    ReadsDigits function options (digitOptions function options) := by
  have first := readsDigit_digitOption function "minimumIntegerDigits" options
  have second := readsDigit_digitOption function "minimumFractionDigits" options
  have third := readsDigit_digitOption function "maximumFractionDigits" options
  rw [digitOptions_eq_bind]
  generalize digitOption function options "minimumIntegerDigits" = integer at first
  generalize digitOption function options "minimumFractionDigits" = least at second
  generalize digitOption function options "maximumFractionDigits" = most at third
  -- Each option is looked at only if those in front of it are taken.
  rcases integer with error | integer
  · have order : digitNames = [] ++ "minimumIntegerDigits" :: _ := rfl
    exact .refused order (by simp) first
  rcases least with error | least
  · have order : digitNames = ["minimumIntegerDigits"] ++ "minimumFractionDigits" :: _ := rfl
    refine .refused order ?_ second
    simpa using ⟨_, first⟩
  rcases most with error | most
  · have order : digitNames = ["minimumIntegerDigits", "minimumFractionDigits"] ++ "maximumFractionDigits" :: _ := rfl
    refine .refused order ?_ third
    simpa using ⟨⟨_, first⟩, _, second⟩
  · exact .taken first second third

theorem digitOptions_of_refused {before after : List String} {error : FormatError}
    (order : digitNames = before ++ name :: after)
    (passed : ∀ earlier ∈ before, ∃ count, digitOption function options earlier = .ok count)
    (failed : digitOption function options name = .error error) :
    digitOptions function options = .error error := by
  rw [digitOptions_eq_bind]
  -- The refused option is the first, the second or the third: one case for each list of options in front of it.
  rcases before with _ | ⟨one, _ | ⟨two, _ | ⟨three, more⟩⟩⟩ <;>
    simp only [digitNames, List.cons_append, List.nil_append, List.cons.injEq, List.nil_eq, List.append_eq_nil_iff,
      reduceCtorEq, and_false] at order
  · obtain ⟨rfl, rfl⟩ := order
    rw [failed]
    rfl
  · obtain ⟨rfl, rfl, rfl⟩ := order
    obtain ⟨integer, first⟩ := passed "minimumIntegerDigits" (by simp)
    rw [first, failed]
    rfl
  · obtain ⟨rfl, rfl, rfl, rfl⟩ := order
    obtain ⟨integer, first⟩ := passed "minimumIntegerDigits" (by simp)
    obtain ⟨least, second⟩ := passed "minimumFractionDigits" (by simp)
    rw [first, second, failed]
    rfl

/-- The digit options are read in one way. -/
theorem digitOptions_eq_iff {result : Except FormatError NumberOptions} :
    digitOptions function options = result ↔ ReadsDigits function options result := by
  constructor
  · rintro rfl
    exact readsDigits_digitOptions function options
  · intro reads
    cases reads with
    | taken first second third =>
      rw [digitOptions_eq_bind, digitOption_eq_iff.2 first, digitOption_eq_iff.2 second, digitOption_eq_iff.2 third]
      rfl
    | refused order passes fails =>
      refine digitOptions_of_refused order (fun earlier member => ?_) (digitOption_eq_iff.2 fails)
      obtain ⟨count, reads⟩ := passes earlier member
      exact ⟨count, digitOption_eq_iff.2 reads⟩

/-! ## The functions on numbers -/

theorem map_digitOptions_eq_iff (build : NumberOptions → Value) {result : Except FormatError Value} :
    (digitOptions function options).map build = result ↔
      ∃ digits, ReadsDigits function options digits ∧ result = digits.map build := by
  constructor
  · rintro rfl
    exact ⟨_, readsDigits_digitOptions function options, rfl⟩
  · rintro ⟨digits, reads, rfl⟩
    rw [digitOptions_eq_iff.2 reads]

theorem number_eq_bind (surroundings : Surroundings) (operand : Value) (options : OptionValues) :
    Functions.number surroundings (some operand) options = (numberOf "number" operand).bind fun number =>
      (digitOptions "number" options).map fun digits => .number (number.withOptions digits) := by
  simp only [Functions.number, requireOperand, bind, Except.bind]
  cases numberOf "number" operand with
  | error error => rfl
  | ok number => cases digitOptions "number" options <;> rfl

theorem number_eq_map {operand : Value} {number : Number} (coerced : numberOf "number" operand = .ok number)
    (surroundings : Surroundings) (options : OptionValues) :
    Functions.number surroundings (some operand) options =
      (digitOptions "number" options).map fun digits => .number (number.withOptions digits) := by
  rw [number_eq_bind, coerced]
  rfl

theorem plural_eq_bind (surroundings : Surroundings) (operand : Value) {options : OptionValues} {type : PluralType}
    (typed : pluralType options = .ok type) :
    Functions.plural surroundings (some operand) options = (numberOf "plural" operand).bind fun number =>
      (digitOptions "plural" options).map fun digits => .plural (number.withOptions digits) type := by
  simp only [Functions.plural, requireOperand, bind, Except.bind, typed]
  cases numberOf "plural" operand with
  | error error => rfl
  | ok number => cases digitOptions "plural" options <;> rfl

theorem plural_eq_map {operand : Value} {number : Number} (coerced : numberOf "plural" operand = .ok number)
    {type : PluralType} (surroundings : Surroundings) {options : OptionValues} (typed : pluralType options = .ok type) :
    Functions.plural surroundings (some operand) options =
      (digitOptions "plural" options).map fun digits => .plural (number.withOptions digits) type := by
  rw [plural_eq_bind surroundings operand typed, coerced]
  rfl

/-- A function on numbers lays the digit options over those of its operand, or fails with the error of the first one
that is refused. An option is taken if it denotes a natural number up to a hundred, and out of range if it denotes a
larger one of those that its kind of value can count; any other value is refused as none that counts. -/
theorem digits_read {operand : Value} {number : Number} (coerced : ∀ function, numberOf function operand = .ok number)
    (surroundings : Surroundings) (options : OptionValues) :
    (∀ result, Functions.number surroundings (some operand) options = result ↔
        ∃ digits, ReadsDigits "number" options digits ∧
          result = digits.map fun digits => .number (number.withOptions digits)) ∧
      ∀ type, pluralType options = .ok type →
        ∀ result, Functions.plural surroundings (some operand) options = result ↔
          ∃ digits, ReadsDigits "plural" options digits ∧
            result = digits.map fun digits => .plural (number.withOptions digits) type := by
  refine ⟨fun result => ?_, fun type typed result => ?_⟩
  · rw [number_eq_map (coerced "number")]
    exact map_digitOptions_eq_iff _
  · rw [plural_eq_map (coerced "plural") surroundings typed]
    exact map_digitOptions_eq_iff _

/-- Of a good option and two bad ones the first bad one is reported, here a number at the end of the range. -/
theorem digits_read_atEnd :
    let surroundings : Surroundings := ⟨"en", fun name => .error (.unknownVariable name), .empty⟩
    let upper : Number := .ofInt (2 ^ 63)
    let options : OptionValues := .ofList [("minimumIntegerDigits", .text "+003"),
      ("minimumFractionDigits", .number upper), ("maximumFractionDigits", .text "few")]
    let refusal := fun function => FormatError.optionOutOfRange function "minimumFractionDigits" (2 ^ 63 - 1) 100
    (∀ function, numberOf function (.number upper) = .ok upper) ∧
      pluralType options = .ok .cardinal ∧
      Functions.number surroundings (some (.number upper)) options = .error (refusal "number") ∧
      Functions.plural surroundings (some (.number upper)) options = .error (refusal "plural") := by
  intro surroundings upper options refusal
  have coerced : ∀ function, numberOf function (.number upper) = .ok upper := fun _ => rfl
  have typed : pluralType options = .ok .cardinal := by decide +kernel
  have width : options.get? "minimumIntegerDigits" = some (.text "+003") := by decide +kernel
  have least : options.get? "minimumFractionDigits" = some (.number upper) := by decide +kernel
  have signed : "+003".toList = '+' :: ['0', '0', '3'] := rfl
  have three : (Value.text "+003").Denotes 3 :=
    (Value.denotes_text (.inl signed)).2 ⟨by decide, List.all_eq_true.1 (by decide), by decide⟩
  have last : (Value.number upper).Denotes (2 ^ 63) :=
    .number (Binary64.integer?_eq_some_iff.1 (by decide +kernel))
  have refused : ∀ function, ReadsDigits function options (.error (refusal function)) := by
    intro function
    have order : digitNames = ["minimumIntegerDigits"] ++ "minimumFractionDigits" :: ["maximumFractionDigits"] := rfl
    have passes : ReadsDigit function "minimumIntegerDigits" (options.get? "minimumIntegerDigits") (.ok (some 3)) := by
      rw [width]
      exact .taken three (by decide)
    have fails : ReadsDigit function "minimumFractionDigits" (options.get? "minimumFractionDigits")
        (.error (refusal function)) := by
      rw [least]
      exact .atEnd last
    exact .refused order (List.forall_mem_singleton.2 ⟨_, passes⟩) fails
  obtain ⟨shows, selects⟩ := digits_read coerced surroundings options
  exact ⟨coerced, typed, (shows _).2 ⟨_, refused "number", rfl⟩, (selects .cardinal typed _).2 ⟨_, refused "plural", rfl⟩⟩

/-- A text of digits that has no 64 bits is refused as none that counts, not as one that is too large. -/
theorem digits_read_beyond :
    ¬ ∀ (surroundings : Surroundings) (operand : Value) (number : Number) (options : OptionValues) (value : Value)
        (n : ℕ), numberOf "number" operand = .ok number → options.get? "minimumIntegerDigits" = some value →
      value.Denotes n → 100 < n →
        Functions.number surroundings (some operand) options =
          .error (.optionOutOfRange "number" "minimumIntegerDigits" n 100) := by
  intro claimed
  have denotes : (Value.text "18446744073709551616").Denotes (2 ^ 64) :=
    Value.Denotes.digits (by decide) (List.all_eq_true.1 (by decide)) (.inl rfl)
  have refused := claimed ⟨"en", fun name => .error (.unknownVariable name), .empty⟩
    (.number (.ofInt 1)) (.ofInt 1) (.ofList [("minimumIntegerDigits", .text "18446744073709551616")]) _ _ rfl rfl
    denotes (by decide)
  exact absurd refused (by decide +kernel)

end Functions

end Localizable
