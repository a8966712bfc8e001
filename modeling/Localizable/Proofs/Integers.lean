import Localizable.CommandLine
import Localizable.Proofs.DigitLayers
import Localizable.Proofs.ReadBack

/-!
# Integers that are kept

Every integer up to two to the fifty-third is a value of the format, and another integer is
another value (`Binary64.exists_ofInt`). So such an integer is shown as its decimal, and it is the
only one whose decimal is a key for it (`LocalizedMessage.keeps_integers`).
-/

namespace Localizable

namespace Magnitude

theorem exists_of_parts (significand scale : ℕ) {n : ℕ} (filled : twoTo 52 ≤ significand) (inside : significand < twoTo 53)
    (bounded : scale ≤ 2045) (scaled : significand * twoTo scale = n * unitsPerOne) :
    ∃ magnitude : Magnitude, magnitude.value = n :=
  ⟨⟨significand, scale, inside, .inr filled, bounded⟩, (value_eq_natCast _ n).2 scaled⟩

/-- A natural number of at most 53 bits is a value: with zeros behind its bits they fill the significand. -/
theorem exists_value {n : ℕ} (small : n ≤ 2 ^ 53) : ∃ magnitude : Magnitude, magnitude.value = n := by
  have depth : BinaryFormat.binary64.depth = 1074 := rfl
  rcases Nat.eq_zero_or_pos n with rfl | positive
  · exact ⟨.zero, zero.value_eq_zero.2 (Nat.zero_mul _)⟩
  rcases small.lt_or_eq with fits | rfl
  · have bits : n.log2 < 53 := (Nat.log2_lt positive.ne').2 fits
    have top : twoTo n.log2 ≤ n := Nat.log2_self_le positive.ne'
    have above : n < twoTo (n.log2 + 1) := Nat.lt_log2_self
    have shift : ∀ more, twoTo (n.log2 + more) * twoTo (52 - n.log2) = twoTo (52 + more) := by
      intro more
      rw [twoTo_mul]
      congr 1
      omega
    refine exists_of_parts (n * twoTo (52 - n.log2)) (1022 + n.log2) ?_ ?_ (by omega) ?_
    · rw [← shift 0]
      exact Nat.mul_le_mul_right _ top
    · rw [← shift 1]
      exact Nat.mul_lt_mul_of_pos_right above (twoTo_pos _)
    · rw [unitsPerOne_eq, Nat.mul_assoc, twoTo_mul]
      congr 2
      omega
  · refine exists_of_parts (twoTo 52) 1075 le_rfl (by decide) (by decide) ?_
    have top : 2 ^ 53 = twoTo 53 := rfl
    rw [top, unitsPerOne_eq, twoTo_mul, twoTo_mul]
    exact congrArg twoTo (by rw [depth])

end Magnitude

/-- The value nearest to an integer within the range is that integer, with its sign. -/
theorem Binary64.exists_ofInt {n : ℤ} (small : n.natAbs ≤ 2 ^ 53) :
    ∃ magnitude : Magnitude, ofInt n = .finite (n < 0) magnitude ∧ magnitude.value = n.natAbs := by
  obtain ⟨magnitude, value⟩ := Magnitude.exists_value small
  refine ⟨magnitude, ?_, value⟩
  rw [ofInt]
  exact ofQuotient_of_exact _ Nat.one_pos (by rw [value, Nat.cast_one, div_one])

theorem Magnitude.signed_of_natAbs {magnitude : Magnitude} {n : ℤ} (value : magnitude.value = n.natAbs) :
    magnitude.signed (n < 0) = n := by
  rw [signed, value, Nat.cast_natAbs, Int.cast_abs]
  by_cases negative : n < 0
  · have below : (n : ℚ) < 0 := by exact_mod_cast negative
    rw [if_pos (decide_eq_true negative), abs_of_neg below, neg_neg]
  · have above : (0 : ℚ) ≤ n := by exact_mod_cast not_lt.1 negative
    rw [if_neg (by simpa using negative), abs_of_nonneg above]

/-- The decimal of an integer. -/
theorem toString_int (n : ℤ) :
    toString n = String.ofList ((if n < 0 then ['-'] else []) ++ Nat.toDigits 10 n.natAbs) := by
  cases n with
  | ofNat n =>
    have above : ¬ Int.ofNat n < 0 := not_lt.2 (Int.natCast_nonneg n)
    rw [if_neg above]
    exact Nat.repr_eq_ofList_toDigits
  | negSucc n =>
    have sign : toString (Int.negSucc n) = "-" ++ n.succ.repr := rfl
    rw [if_pos (Int.negSucc_lt_zero n), sign, Nat.repr_eq_ofList_toDigits, String.ofList_append]
    rfl

/-! ## What is shown of an integer -/

namespace Digits

/-- A whole number has no fraction digits unless some are asked for. -/
theorem ofRounded_fraction_eq_nil (negative : Bool) {options : NumberOptions} (none : options.leastFraction = 0) (n : ℕ) :
    (ofRounded negative options (n * 10 ^ options.mostFraction)).fraction = [] := by
  have spells := ofRounded_spells negative options (n * 10 ^ options.mostFraction)
  have same : decimal (Nat.toDigits 10 n) [] =
      decimal (ofRounded negative options (n * 10 ^ options.mostFraction)).integer
        (ofRounded negative options (n * 10 ^ options.mostFraction)).fraction := by
    rw [spells.denotes, decimal, List.append_nil, whole_toDigits]
    push_cast
    field_simp
    simp
  have shortest := spells.shortest _ [] (by omega) same
  exact List.length_eq_zero_iff.1 (Nat.le_zero.1 shortest)

theorem ofRounded_unset (negative : Bool) (n : ℕ) :
    ofRounded negative .unset (n * 10 ^ 3) = ⟨negative && n != 0, Nat.toDigits 10 n, []⟩ := by
  have least : NumberOptions.unset.leastFraction = 0 := rfl
  have fraction := ofRounded_fraction_eq_nil negative least n
  have sign : (ofRounded negative .unset (n * 10 ^ 3)).negative = (negative && n != 0) := by
    have zero : (n * 10 ^ 3 != 0) = (n != 0) := by simp [bne]
    exact congrArg (negative && ·) zero
  have integer : (ofRounded negative .unset (n * 10 ^ 3)).integer = Nat.toDigits 10 n := by
    have whole : n * 10 ^ 3 / tenTo 3 = n := Nat.mul_div_cancel n (by decide)
    have filled : 1 - (Nat.toDigits 10 n).length = 0 := by
      have : 0 < (Nat.toDigits 10 n).length := Nat.length_toDigits_pos
      omega
    calc (ofRounded negative .unset (n * 10 ^ 3)).integer
        = padInteger 1 (Nat.toDigits 10 (n * 10 ^ 3 / tenTo 3)) := rfl
      _ = Nat.toDigits 10 n := by rw [whole, padInteger, filled]; rfl
  rw [← sign, ← integer, ← fraction]
  rfl

end Digits

namespace Number

variable {n : ℤ}

theorem digits_ofInt (small : n.natAbs ≤ 2 ^ 53) :
    (ofInt n).digits = ⟨n < 0, Nat.toDigits 10 n.natAbs, []⟩ := by
  obtain ⟨magnitude, nearest, value⟩ := Binary64.exists_ofInt small
  have rounded : magnitude.roundedTo 3 = n.natAbs * 10 ^ 3 :=
    magnitude.roundedTo_of_exact (by rw [value]; push_cast; rfl)
  have sign : (decide (n < 0) && n.natAbs != 0) = decide (n < 0) := by
    by_cases negative : n < 0
    · have some : n.natAbs ≠ 0 := by omega
      simp [some]
    · simp [negative]
  calc (ofInt n).digits
      = .ofRounded (n < 0) .unset (magnitude.roundedTo 3) := by rw [ofInt, ofValue, nearest]; rfl
    _ = ⟨n < 0, Nat.toDigits 10 n.natAbs, []⟩ := by rw [rounded, Digits.ofRounded_unset, sign]

theorem text_ofInt (small : n.natAbs ≤ 2 ^ 53) : (ofInt n).text = toString n := by
  rw [text, digits_ofInt small, Digits.text, toString_int]
  simp

theorem parts_ofInt (small : n.natAbs ≤ 2 ^ 53) :
    (ofInt n).parts =
      (if n < 0 then [.text "minusSign" "-"] else []) ++ [.text "integer" (toString n.natAbs)] := by
  have decimal : toString n.natAbs = String.ofList (Nat.toDigits 10 n.natAbs) := Nat.repr_eq_ofList_toDigits
  rw [parts, digits_ofInt small, Digits.parts, decimal]
  simp

theorem rational?_ofInt (small : n.natAbs ≤ 2 ^ 53) : (ofInt n).value.rational? = some (n : ℚ) := by
  obtain ⟨magnitude, nearest, value⟩ := Binary64.exists_ofInt small
  rw [ofInt, ofValue, nearest, Binary64.rational?, Magnitude.signed_of_natAbs value]

theorem integer?_ofInt (small : n.natAbs ≤ 2 ^ 53) : (ofInt n).integer? = some n :=
  integer?_eq_some_iff.2 (.inl ⟨rational?_ofInt small, by omega, by omega⟩)

theorem pluralInput_ofInt (small : n.natAbs ≤ 2 ^ 53) : (ofInt n).pluralInput = .integer n := by
  rw [pluralInput, digits_ofInt small, Digits.pluralInput_of_digits Nat.toDigits_ne_nil (Digits.isDigit_toDigits _)]
  dsimp only
  rw [Digits.whole_toDigits, if_neg (not_not_intro rfl), if_pos (by omega)]
  congr 1
  by_cases negative : n < 0
  · rw [if_pos (decide_eq_true negative)]
    omega
  · rw [if_neg (by simpa using negative)]
    omega

/-- The decimal of an integer is a numeral for it. -/
theorem parse?_toString (small : n.natAbs ≤ 2 ^ 53) :
    ∃ negative magnitude, Binary64.parse? (toString n).toList = some (.finite negative magnitude) ∧
      magnitude.signed negative = n := by
  obtain ⟨magnitude, nearest, value⟩ := Binary64.exists_ofInt small
  have exact : magnitude.value * 10 ^ NumberOptions.unset.mostFraction = (n.natAbs * 10 ^ 3 : ℕ) := by
    rw [value]
    push_cast
    rfl
  obtain ⟨shown, parsed, signed⟩ := parse?_text_of_exact (n < 0) exact
  refine ⟨shown, magnitude, ?_, signed.trans (Magnitude.signed_of_natAbs value)⟩
  rw [← text_ofInt small, text, String.toList_ofList, ofInt, ofValue, nearest]
  exact parsed

/-- Of the decimals of integers only its own is a key for an integer. -/
theorem matchesKey_ofInt (small : n.natAbs ≤ 2 ^ 53) {k : ℤ} (smallKey : k.natAbs ≤ 2 ^ 53) :
    (ofInt n).matchesKey (toString k) = decide (k = n) := by
  obtain ⟨negative, magnitude, parsed, signed⟩ := parse?_toString smallKey
  obtain ⟨own, nearest, value⟩ := Binary64.exists_ofInt small
  have same := Binary64.sameNumber_finite negative (n < 0) magnitude own
  rw [signed, Magnitude.signed_of_natAbs value, Int.cast_inj] at same
  rw [matchesKey, parsed, ofInt, ofValue, nearest]
  exact Bool.eq_iff_iff.2 (same.trans (decide_eq_true_iff).symm)

end Number

/-- No category is named by the decimal of an integer. -/
theorem PluralCategory.name_ne_toString (category : PluralCategory) (k : ℤ) : category.name ≠ toString k := by
  intro same
  have letters : (category.name.toList.all fun c => !c.isDigit) = true := by
    cases category <;> decide
  obtain ⟨first, member⟩ := List.exists_mem_of_ne_nil _ (Nat.toDigits_ne_nil : Nat.toDigits 10 k.natAbs ≠ [])
  have digit := Digits.isDigit_toDigits k.natAbs first member
  rw [same, toString_int, String.toList_ofList, List.all_eq_true] at letters
  have letter := letters first (List.mem_append_right _ member)
  rw [digit] at letter
  cases letter

namespace Value

variable [Host] {n k : ℤ}

theorem isMatchedBy_ofInt (small : n.natAbs ≤ 2 ^ 53) (smallKey : k.natAbs ≤ 2 ^ 53) (surroundings : Surroundings) :
    (number (.ofInt n)).isMatchedBy surroundings (toString k) = .ok (decide (k = n)) := by
  rw [isMatchedBy, Number.matchesKey_ofInt small smallKey]

/-- A plural has no other key among the decimals of integers either, since the category is found and is a word. -/
theorem isMatchedBy_plural_ofInt (small : n.natAbs ≤ 2 ^ 53) (smallKey : k.natAbs ≤ 2 ^ 53)
    {surroundings : Surroundings} (type : PluralType) (tag : (LanguageTag.parse? surroundings.locale).isSome) :
    (plural (.ofInt n) type).isMatchedBy surroundings (toString k) = .ok (decide (k = n)) := by
  rw [isMatchedBy, Number.matchesKey_ofInt small smallKey]
  by_cases own : k = n
  · rw [if_pos (decide_eq_true own), decide_eq_true own]
  · obtain ⟨magnitude, nearest, _⟩ := Binary64.exists_ofInt small
    have finite : (Number.ofInt n).value.isFinite = true := by
      rw [Number.ofInt, Number.ofValue, nearest, Binary64.isFinite]
    obtain ⟨_, _, categorized⟩ := (Number.ofInt n).pluralCategory_outcome surroundings.locale type
    obtain ⟨category, found⟩ := categorized.2 ⟨finite, tag⟩
    have other : (category.name == toString k) = false := beq_false_of_ne (category.name_ne_toString k)
    rw [if_neg (by simpa using own), found, Except.map, other, decide_eq_false own]

end Value

/-! ## Integers that are passed -/

/-- An integer as a host has it, in one of its types. -/
inductive HostInteger
  | int32 (n : Int32)
  | int64 (n : Int64)
  | uint32 (n : UInt32)
  | uint64 (n : UInt64)
  | size (n : USize)

namespace HostInteger

def toInt : HostInteger → ℤ
  | .int32 n => n.toInt
  | .int64 n => n.toInt
  | .uint32 n => n.toNat
  | .uint64 n => n.toNat
  | .size n => n.toNat

/-- The value that a host passes for an integer. -/
def value (n : HostInteger) : Value := .number (.ofInt n.toInt)

end HostInteger

namespace CommandLine

/-- The arguments in which a name stands for an integer: those in which a host has put it, and those of a command line
that gives its decimal, behind others that it may give for the name. -/
inductive Passes (name : String) : ℤ → Dictionary Value → Prop
  | host {arguments : Dictionary Value} (n : HostInteger) (held : arguments.get? name = some n.value) :
    Passes name n.toInt arguments
  | commandLine {given : List (String × String)} (n : ℤ) (last : given.reverse.lookup name = some (toString n)) :
    Passes name n (messageArguments given)

/-- The decimal of an integer of 64 bits is read as that integer. -/
theorem integer64?_toString {n : ℤ} (fits : isSigned64 n = true) : integer64? (toString n) = some n := by
  have decimal : Digits.IsDecimal ⟨n < 0, Nat.toDigits 10 n.natAbs, []⟩ :=
    ⟨Nat.toDigits_ne_nil, Digits.isDigit_toDigits _, List.forall_mem_nil _⟩
  have sign : Numeral.takeSign (toString n).toList = (decide (n < 0), Nat.toDigits 10 n.natAbs) := by
    have taken := decimal.takeSign_text
    rw [Digits.unsigned, Digits.text] at taken
    rw [toString_int, String.toList_ofList]
    simpa using taken
  have spelled : Numeral.natural? (Nat.toDigits 10 n.natAbs) = some n.natAbs :=
    Numeral.natural?_eq_some_iff.2 ⟨Nat.toDigits_ne_nil, Digits.isDigit_toDigits _, Digits.whole_toDigits _⟩
  have signed : (if decide (n < 0) = true then -(n.natAbs : ℤ) else n.natAbs) = n := by
    by_cases negative : n < 0
    · rw [if_pos (decide_eq_true negative)]
      omega
    · rw [if_neg (by simpa using negative)]
      omega
  rw [integer64?, sign]
  dsimp only
  rw [spelled, Option.bind_some, signed, if_pos fits]

/-- Of two arguments of one name the last one counts. -/
theorem get?_messageArguments (given : List (String × String)) (name : String) :
    (messageArguments given).get? name = (given.reverse.lookup name).map argumentValue := by
  rw [messageArguments, Dictionary.get?_ofList, ← List.map_reverse]
  generalize given.reverse = entries
  induction entries with
  | nil => rfl
  | cons entry rest ih =>
    rw [List.map_cons, List.lookup_cons, List.lookup_cons]
    cases name == entry.1 with
    | true => rfl
    | false => exact ih

theorem Passes.get? {name : String} {n : ℤ} {arguments : Dictionary Value} (passed : Passes name n arguments)
    (small : n.natAbs ≤ 2 ^ 53) : arguments.get? name = some (.number (.ofInt n)) := by
  cases passed with
  | host n held => exact held
  | commandLine n last =>
    have fits : isSigned64 n = true := by
      have limit : (twoTo 63 : ℤ) = 2 ^ 63 := rfl
      simp only [isSigned64, Bool.and_eq_true, decide_eq_true_eq, limit]
      omega
    rw [get?_messageArguments, last, Option.map_some, argumentValue, integer64?_toString fits]

end CommandLine

namespace LocalizedMessage

/-- The message of `{{$name}}`, which shows a variable as it is. -/
def showing (locale name : String) (registry : Option Registry) : LocalizedMessage where
  locale := locale
  source := "\x7b\x7b$" ++ name ++ "\x7d\x7d"
  message := .showing [] (.operand (.variable name) none)
  registry := registry

section
variable [Host] {name : String} {arguments : Dictionary Value} {value : Value}

theorem resolve_argument (held : arguments.get? name = some value) (localized : LocalizedMessage) (current : Registry)
    (role : Role) :
    (localized.scope current arguments).resolve role (.operand (.variable name) none) = .ok value := by
  rw [Scope.resolve, Scope.resolveOperand, scope, Scope.valueOf_ofArguments, held]
  rfl

/-- A variable that is shown as it is is rendered as its value. -/
theorem format_showing (held : arguments.get? name = some value) (locale : String) (registry : Option Registry)
    (current : Registry) :
    let surroundings := ((showing locale name registry).scope current arguments).surroundings
    (showing locale name registry).formatText current arguments = value.formatText surroundings ∧
      (showing locale name registry).formatParts current arguments = value.formatParts surroundings := by
  intro surroundings
  have resolved := resolve_argument held (showing locale name registry) current .formatter
  constructor
  · rw [formatText, showing, Scope.messageText_showing_nil]
    exact congrArg (·.bind (·.formatText surroundings)) resolved
  · rw [formatParts, showing, Scope.messageParts_showing_nil]
    exact congrArg (·.bind (·.formatParts surroundings)) resolved

end

end LocalizedMessage

namespace Scope

variable [Host]

/-- Whether a key names the value of a selector. -/
def keyNames (scope : Scope) (selector : Expression) (key : Key) : Except FormatError Bool :=
  (scope.resolveSelector selector).bind fun value => key.names scope.surroundings value

theorem keyNames_of_resolve {scope : Scope} {selector : Expression} {value : Value}
    (resolved : scope.resolve .matcher selector = .ok value) (matchable : value.isMatchable) (text : String) :
    scope.keyNames selector (.literal text) = value.isMatchedBy scope.surroundings text := by
  rw [keyNames, resolveSelector_eq_ok.2 ⟨resolved, matchable⟩]
  rfl

end Scope

namespace LocalizedMessage

/-- An integer of at most two to the fifty-third is kept on its way through a message, whoever passes it: it is shown as
its decimal, is read as itself, and among the decimals of such integers only its own is a key for it, on its own and as a
plural. An argument of a command line that is no integer is shown as it is. -/
theorem keeps_integers [Host] (locale name : String) (registry : Option Registry) (current : Registry) :
    let shown := showing locale name registry
    (∀ n arguments, CommandLine.Passes name n arguments → n.natAbs ≤ 2 ^ 53 →
      shown.formatText current arguments = .ok (toString n) ∧
        shown.formatParts current arguments =
          .ok ((if n < 0 then [.text "minusSign" "-"] else []) ++ [.text "integer" (toString n.natAbs)]) ∧
        (∃ number, arguments.get? name = some (.number number) ∧ number.integer? = some n ∧
          number.pluralInput = .integer n) ∧
        ∀ k : ℤ, k.natAbs ≤ 2 ^ 53 →
          (shown.scope current arguments).keyNames (.operand (.variable name) none) (.literal (toString k)) =
              .ok (decide (k = n)) ∧
            ((shown.functions current).find? .matcher "plural" = some .plural →
              (LanguageTag.parse? locale).isSome →
              (shown.scope current arguments).keyNames (.operand (.variable name) (some ⟨"plural", .empty⟩))
                (.literal (toString k)) = .ok (decide (k = n)))) ∧
      ∀ given text, given.reverse.lookup name = some text → CommandLine.integer64? text = none →
        shown.formatText current (CommandLine.messageArguments given) = .ok text ∧
          shown.formatParts current (CommandLine.messageArguments given) = .ok [.literal text] := by
  intro shown
  constructor
  · intro n arguments passed small
    have held := passed.get? small
    obtain ⟨text, parts⟩ := format_showing held locale registry current
    refine ⟨?_, ?_, ⟨_, held, Number.integer?_ofInt small, Number.pluralInput_ofInt small⟩, fun k smallKey => ?_⟩
    · rw [text, Value.formatText, Number.text_ofInt small]
    · rw [parts, Value.formatParts, Number.parts_ofInt small]
    · have plain := resolve_argument held shown current .matcher
      refine ⟨?_, fun plurals tag => ?_⟩
      · rw [Scope.keyNames_of_resolve plain rfl]
        exact Value.isMatchedBy_ofInt small smallKey _
      · have counted : (shown.scope current arguments).resolve .matcher
            (.operand (.variable name) (some ⟨"plural", .empty⟩)) = .ok (.plural (.ofInt n) .cardinal) := by
          have own : (shown.scope current arguments).numberAt "plural" (.variable name) = .ok (.ofInt n) :=
            Scope.bind_eq_ok.2 ⟨_, plain, rfl⟩
          rw [Scope.resolve_plural plurals rfl rfl rfl, own]
          rfl
        rw [Scope.keyNames_of_resolve counted rfl]
        exact Value.isMatchedBy_plural_ofInt small smallKey .cardinal tag
  · intro given text last none
    have held : (CommandLine.messageArguments given).get? name = some (.text text) := by
      rw [CommandLine.get?_messageArguments, last, Option.map_some, CommandLine.argumentValue, none]
    exact format_showing held locale registry current

section
attribute [local instance] Host.none

/-- The least integer that is kept, given in a command line behind another argument of its name, has a neighbour as a key
of its own. The largest one may come from a host, and digits that have no 64 bits are a text. -/
theorem keeps_integers_at_ends :
    let shown := showing "ar-EG" "n" (some .builtIn)
    let least := CommandLine.messageArguments [("n", "many"), ("n", "-9007199254740992")]
    let largest := Dictionary.ofList [("n", (HostInteger.uint64 9007199254740992).value)]
    let plural := Expression.operand (.variable "n") (some ⟨"plural", .empty⟩)
    CommandLine.Passes "n" (-2 ^ 53) least ∧ CommandLine.Passes "n" (HostInteger.uint64 9007199254740992).toInt largest ∧
      (shown.functions .empty).find? .matcher "plural" = some .plural ∧
      (LanguageTag.parse? "ar-EG").isSome ∧
      shown.formatText .empty least = .ok "-9007199254740992" ∧
      (shown.scope .empty least).keyNames plural (.literal "-9007199254740991") = .ok false ∧
      (shown.scope .empty largest).keyNames plural (.literal "9007199254740992") = .ok true ∧
      CommandLine.integer64? "9223372036854775808" = none ∧
      shown.formatText .empty (CommandLine.messageArguments [("n", "9223372036854775808")]) =
        .ok "9223372036854775808" := by
  intro shown least largest plural
  have commandLine : CommandLine.Passes "n" (-2 ^ 53) least := .commandLine _ (by decide +kernel)
  have held : largest.get? "n" = some (HostInteger.uint64 9007199254740992).value := by
    rw [Dictionary.get?_ofList]
    exact List.lookup_cons_self
  have host : CommandLine.Passes "n" (HostInteger.uint64 9007199254740992).toInt largest := .host _ held
  have plurals : (shown.functions .empty).find? .matcher "plural" = some .plural := rfl
  have tag : (LanguageTag.parse? "ar-EG").isSome := by decide +kernel
  have beyond : CommandLine.integer64? "9223372036854775808" = none := by decide +kernel
  obtain ⟨kept, texts⟩ := keeps_integers "ar-EG" "n" (some .builtIn) .empty
  obtain ⟨text, _, _, leastKeys⟩ := kept _ least commandLine (by decide)
  obtain ⟨_, _, _, largestKeys⟩ := kept _ largest host (by decide)
  have neighbour := (leastKeys (-9007199254740991) (by decide)).2 plurals tag
  have own := (largestKeys 9007199254740992 (by decide)).2 plurals tag
  have unlike : decide ((-9007199254740991 : ℤ) = -2 ^ 53) = false := by decide
  have alike : decide (9007199254740992 = (HostInteger.uint64 9007199254740992).toInt) = true := by decide
  have below : toString (-9007199254740991 : ℤ) = "-9007199254740991" := by decide
  have above : toString (9007199254740992 : ℤ) = "9007199254740992" := by decide
  have last : toString (-2 ^ 53 : ℤ) = "-9007199254740992" := by decide
  rw [unlike, below] at neighbour
  rw [alike, above] at own
  rw [last] at text
  exact ⟨commandLine, host, plurals, tag, text, neighbour, own, beyond, (texts _ _ List.lookup_cons_self beyond).1⟩

end

end LocalizedMessage

end Localizable
