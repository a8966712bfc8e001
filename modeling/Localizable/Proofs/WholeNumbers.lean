import Localizable.Proofs.ShownDigits

/-!
# Numbers read as integers

A value is an integer exactly if the rational that it stands for is one. A number is read as
an integer of 64 bits if it is one, but for the upper end of the range: `2 ^ 63` is the least
integer beyond it and is read as the largest one within (`Number.integer?_eq_some_iff`).
-/

namespace Localizable

/-- The rational that a value is, if it is finite. -/
def Binary64.rational? : Binary64 → Option ℚ
  | .finite negative magnitude => some (magnitude.signed negative)
  | _ => none

theorem Magnitude.natural?_eq_some_iff {magnitude : Magnitude} {n : ℕ} :
    magnitude.natural? = some n ↔ magnitude.value = n := by
  have division := Nat.div_add_mod' magnitude.units unitsPerOne
  rw [value_eq_natCast, natural?]
  by_cases whole : magnitude.units % unitsPerOne = 0
  · rw [if_pos whole, Option.some_inj]
    constructor
    · rintro rfl
      omega
    · intro units
      rw [units, Nat.mul_div_cancel _ unitsPerOne_pos]
  · rw [if_neg whole]
    constructor
    · intro none
      cases none
    · intro units
      rw [units, Nat.mul_mod_left] at whole
      exact absurd rfl whole

theorem Binary64.integer?_finite (negative : Bool) (magnitude : Magnitude) :
    (finite negative magnitude).integer? = magnitude.natural?.map fun n : ℕ => if negative then -(n : ℤ) else n := by
  rw [integer?]
  cases magnitude.natural? <;> rfl

theorem Binary64.integer?_eq_some_iff {value : Binary64} {k : ℤ} :
    value.integer? = some k ↔ value.rational? = some (k : ℚ) := by
  cases value with
  | nan => simp [integer?, rational?]
  | infinite negative => simp [integer?, rational?]
  | finite negative magnitude =>
    rw [integer?_finite, rational?, Option.map_eq_some_iff, Option.some_inj]
    constructor
    · rintro ⟨n, natural, rfl⟩
      rw [Magnitude.signed, Magnitude.natural?_eq_some_iff.1 natural]
      cases negative <;> simp
    · intro exact
      have size : magnitude.value = k.natAbs := by
        rw [← magnitude.abs_signed negative, exact, Nat.cast_natAbs, Int.cast_abs]
      refine ⟨k.natAbs, Magnitude.natural?_eq_some_iff.2 size, ?_⟩
      rw [Magnitude.signed, size] at exact
      cases negative with
      | false =>
        have same : ((k.natAbs : ℤ) : ℚ) = k := exact
        exact Int.cast_injective same
      | true =>
        have same : ((-(k.natAbs : ℤ) : ℤ) : ℚ) = k := by
          rw [Int.cast_neg]
          exact exact
        exact Int.cast_injective same

namespace Number

/-- A number is read as an integer within the range of 64 bits, or at its upper end as the last one in front of it. -/
theorem integer?_eq_some_iff {number : Number} {k : ℤ} :
    number.integer? = some k ↔
      (number.value.rational? = some (k : ℚ) ∧ -2 ^ 63 ≤ k ∧ k < 2 ^ 63) ∨
        (number.value.rational? = some (2 ^ 63) ∧ k = 2 ^ 63 - 1) := by
  have value : ∀ n : ℤ, number.value.rational? = some (n : ℚ) ↔ number.value.integer? = some n :=
    fun n => Binary64.integer?_eq_some_iff.symm
  have last : number.value.rational? = some (2 ^ 63) ↔ number.value.integer? = some (2 ^ 63) := by
    rw [← value]
    norm_num
  rw [value, last, integer?]
  cases number.value.integer? with
  | none => simp
  | some n =>
    have range : isSigned64 n = true ↔ -2 ^ 63 ≤ n ∧ n < 2 ^ 63 := by
      simp [isSigned64]
    simp only [Option.some_inj]
    by_cases within : isSigned64 n = true
    · rw [if_pos within, Option.some_inj]
      rw [range] at within
      omega
    · rw [if_neg within]
      rw [range] at within
      have upper : (twoTo 63 : ℤ) = 2 ^ 63 := rfl
      by_cases isLast : n = 2 ^ 63
      · rw [upper, if_pos isLast, Option.some_inj]
        omega
      · rw [upper, if_neg isLast]
        constructor
        · intro none
          cases none
        · omega

end Number

end Localizable
