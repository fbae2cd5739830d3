import LoggingProvider.Json.Number
import Mathlib.Algebra.Order.Field.Rat
import Mathlib.Tactic.Linarith
import Mathlib.Tactic.Positivity

/-!
# The value of a number

A number of a document denotes a rational number: an integer denotes itself, and a floating-point
number as many units as it counts, with its sign. The numbers that denote natural numbers are the
integers among them that have no minus sign or are zero.

## Main definitions

* `Binary64.value`, `Number.value`: the rational number that is denoted
* `Binary64.sign`: one or minus one

## Main results

* `Binary64.value_eq_natCast_iff`, `Number.value_eq_natCast_iff`: the numbers that denote a given
  natural number
* `Binary64.value_eq_intCast_iff`: the floating-point numbers that denote a given integer
-/

namespace LoggingProvider

namespace Binary64

variable {x : Binary64}

/-- **The rational number that a floating-point number denotes.** -/
def value (x : Binary64) : ℚ :=
  (if x.negative then -1 else 1) * ((x.magnitude : ℚ) / (unit : ℚ))

theorem unit_pos : 0 < unit := by
  unfold unit
  -- The exponent is kept opaque, for the power is far too large to compute with.
  generalize 1074 = e
  exact Nat.two_pow_pos e

theorem isIntegral_iff : x.isIntegral ↔ unit ∣ x.magnitude := by
  unfold isIntegral
  rw [decide_eq_true_iff, Nat.dvd_iff_mod_eq_zero]

theorem magnitude_eq (h : x.isIntegral) : x.magnitude = x.truncated * unit :=
  (Nat.div_mul_cancel (isIntegral_iff.1 h)).symm

/-- The numbers of value zero are the two zeros. -/
theorem isZero_iff : x.isZero ↔ x.magnitude = 0 := by
  unfold isZero magnitude significand
  rw [Bool.and_eq_true, decide_eq_true_iff, decide_eq_true_iff, Nat.mul_eq_zero]
  split
  · next hexponent => simp [hexponent]
  · next hexponent => simp [hexponent]

/-- When the absolute value is a natural number. -/
theorem magnitude_div_unit_eq_iff {k : ℕ} :
    (x.magnitude : ℚ) / (unit : ℚ) = k ↔ x.isIntegral ∧ x.truncated = k := by
  have hunit : (unit : ℚ) ≠ 0 := Nat.cast_ne_zero.2 unit_pos.ne'
  rw [div_eq_iff hunit, ← Nat.cast_mul, Nat.cast_inj, isIntegral_iff]
  unfold truncated
  constructor
  · intro h
    exact ⟨⟨k, h.trans (Nat.mul_comm k unit)⟩, Nat.div_eq_of_eq_mul_left unit_pos h⟩
  · rintro ⟨hdvd, rfl⟩
    exact (Nat.div_mul_cancel hdvd).symm

/-- **The floating-point numbers that denote a natural number**: they are integers, and the sign is a
minus for zero alone. -/
theorem value_eq_natCast_iff {k : ℕ} : x.value = k ↔
    x.isIntegral ∧ (x.negative = false ∨ x.isZero) ∧ x.truncated = k := by
  have hunits : (0 : ℚ) ≤ (x.magnitude : ℚ) / (unit : ℚ) := by positivity
  unfold value
  cases hsign : x.negative with
  | false =>
    rw [if_neg Bool.false_ne_true, one_mul, magnitude_div_unit_eq_iff]
    simp
  | true =>
    rw [if_pos rfl, neg_one_mul]
    constructor
    · intro h
      have hzero : (x.magnitude : ℚ) / (unit : ℚ) = (0 : ℕ) := by
        have hk : (0 : ℚ) ≤ k := Nat.cast_nonneg k
        rw [Nat.cast_zero]
        linarith
      have hk : k = 0 := by
        rw [hzero, Nat.cast_zero, neg_zero] at h
        exact (Nat.cast_eq_zero.1 h.symm)
      obtain ⟨hintegral, htruncated⟩ := magnitude_div_unit_eq_iff.1 hzero
      refine ⟨hintegral, .inr (isZero_iff.2 ?_), htruncated.trans hk.symm⟩
      have hunit : (unit : ℚ) ≠ 0 := Nat.cast_ne_zero.2 unit_pos.ne'
      rw [Nat.cast_zero, div_eq_zero_iff, or_iff_left hunit] at hzero
      exact Nat.cast_eq_zero.1 hzero
    · rintro ⟨-, hzero, rfl⟩
      have hmagnitude : x.magnitude = 0 := isZero_iff.1 (by simpa using hzero)
      unfold truncated
      rw [hmagnitude, Nat.zero_div, Nat.cast_zero, zero_div, neg_zero]

/-- One or minus one, as the sign says. -/
def sign (x : Binary64) : ℤ := if x.negative then -1 else 1

/-- **The floating-point numbers that denote an integer.** -/
theorem value_eq_intCast_iff {i : ℤ} :
    x.value = i ↔ x.isIntegral ∧ i = x.sign * x.truncated := by
  have habs : x.value = i ↔ (x.magnitude : ℚ) / (unit : ℚ) = (x.sign * i : ℤ) := by
    unfold value sign
    -- The absolute value is kept opaque, for its unit is far too large to compute with.
    generalize (x.magnitude : ℚ) / (unit : ℚ) = a
    cases x.negative <;> simp [neg_eq_iff_eq_neg]
  rw [habs]
  constructor
  · intro h
    have hnonneg : 0 ≤ x.sign * i := by
      have hunits : (0 : ℚ) ≤ (x.magnitude : ℚ) / (unit : ℚ) := by positivity
      rw [h] at hunits
      exact_mod_cast hunits
    obtain ⟨k, hk⟩ := Int.eq_ofNat_of_zero_le hnonneg
    rw [hk, Int.cast_natCast] at h
    obtain ⟨hintegral, htruncated⟩ := magnitude_div_unit_eq_iff.1 h
    refine ⟨hintegral, ?_⟩
    rw [htruncated, ← hk]
    unfold sign
    cases x.negative <;> simp
  · rintro ⟨hintegral, rfl⟩
    have hsigns : x.sign * (x.sign * x.truncated) = x.truncated := by
      unfold sign
      cases x.negative <;> simp
    rw [hsigns, Int.cast_natCast, magnitude_div_unit_eq_iff]
    exact ⟨hintegral, rfl⟩

end Binary64

namespace Number

/-- **The rational number that a number denotes.** -/
def value : Number → ℚ
  | .natural n => n.toNat
  | .negSucc k => -(k.val + 1)
  | .real x => x.value

/-- **The numbers that denote a natural number.** -/
theorem value_eq_natCast_iff {n : Number} {k : ℕ} : n.value = k ↔
    match n with
    | .natural m => m.toNat = k
    | .negSucc _ => False
    | .real x => x.isIntegral ∧ (x.negative = false ∨ x.isZero) ∧ x.truncated = k := by
  cases n with
  | natural m => exact Nat.cast_inj
  | negSucc j =>
    have hneg : Number.value (.negSucc j) < 0 := by
      unfold value
      have hj : (0 : ℚ) ≤ j.val := Nat.cast_nonneg _
      linarith
    have hk : (0 : ℚ) ≤ k := Nat.cast_nonneg k
    exact iff_of_false (by linarith) not_false
  | real x => exact Binary64.value_eq_natCast_iff

end Number

end LoggingProvider
