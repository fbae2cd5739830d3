import LoggingProvider.Proofs.Binary64
import LoggingProvider.Proofs.Json.Number
import LoggingProvider.Schema.Validate

/-!
# Integers among the numbers

A number counts as an integer of 64 bits by the floating-point number nearest to it, unless it is an
integer below the bound. The bound itself is no integer of 64 bits, but it is a floating-point
number and counts, and so do the integers above it that are rounded down to it. The next
floating-point number is 2048 larger, so these are the integers up to 1024 more than the bound.

## Main definitions

* `Number.Within`: the numbers that denote an integer of a range

## Main results

* `Number.within_iff_or`: a range is cut in two
* `Number.isInt64_iff`: the numbers that count as integers of 64 bits
-/

namespace LoggingProvider

namespace Binary64

variable {x : Binary64}

/-- **Above the bound** the next floating-point number is 2048 larger. -/
theorem magnitude_gap (h : 2 ^ 63 * unit < x.magnitude) :
    (2 ^ 63 + 2048) * unit ≤ x.magnitude := by
  have hsignificand := x.significand_lt
  unfold magnitude unit at *
  simp only [Nat.pow_eq] at *
  -- The exponent is kept opaque, for the power is far too large to compute with.
  generalize 1074 = e at *
  generalize x.significand = s at *
  by_cases hscale : x.scale ≤ e + 10
  · have hsmall : s * 2 ^ x.scale < 2 ^ 63 * 2 ^ e := calc
      s * 2 ^ x.scale ≤ s * 2 ^ (e + 10) :=
        Nat.mul_le_mul_left s (Nat.pow_le_pow_right (by decide) hscale)
      _ < 2 ^ 53 * 2 ^ (e + 10) := Nat.mul_lt_mul_of_pos_right hsignificand (Nat.two_pow_pos _)
      _ = 2 ^ 63 * 2 ^ e := by rw [← Nat.pow_add, ← Nat.pow_add]; congr 1; omega
    omega
  · -- The significand counts a multiple of 2048 times the unit.
    obtain ⟨j, hj⟩ : ∃ j, x.scale = j + 11 + e := ⟨x.scale - 11 - e, by omega⟩
    have hsteps : s * 2 ^ x.scale = s * 2 ^ j * 2048 * 2 ^ e := by
      rw [hj, Nat.pow_add, Nat.pow_add, ← Nat.mul_assoc, ← Nat.mul_assoc]
    rw [hsteps] at h ⊢
    have hlarge := Nat.lt_of_mul_lt_mul_right h
    exact Nat.mul_le_mul_right _ (by omega)

/-- An integer that is at most 1024 larger than the bound is not larger. -/
theorem truncated_le_bound (hintegral : x.isIntegral) (h : x.truncated ≤ 2 ^ 63 + 1024) :
    x.truncated ≤ 2 ^ 63 := by
  by_contra hlarge
  have hgap : (2 ^ 63 + 2048) * unit ≤ x.truncated * unit := by
    rw [← magnitude_eq hintegral]
    refine magnitude_gap ?_
    rw [magnitude_eq hintegral]
    exact Nat.mul_lt_mul_of_pos_right (Nat.lt_of_not_le hlarge) unit_pos
  have hleast := Nat.le_of_mul_le_mul_right hgap unit_pos
  omega

end Binary64

namespace Number

/-- **The numbers that denote an integer of a range.** -/
def Within (least most : ℤ) (n : Number) : Prop :=
  ∃ i : ℤ, n.value = i ∧ least ≤ i ∧ i ≤ most

variable {least most : ℤ}

/-- A range is cut in two at any of its integers. -/
theorem within_iff_or {n : Number} (cut : ℤ) (hleast : least ≤ cut) (hmost : cut ≤ most + 1) :
    n.Within least most ↔ n.Within least (cut - 1) ∨ n.Within cut most := by
  constructor
  · rintro ⟨i, hi, hrange⟩
    rcases Int.lt_or_le i cut with hcut | hcut
    · exact .inl ⟨i, hi, hrange.1, by omega⟩
    · exact .inr ⟨i, hi, hcut, hrange.2⟩
  · rintro (⟨i, hi, hrange⟩ | ⟨i, hi, hrange⟩)
    · exact ⟨i, hi, hrange.1, by omega⟩
    · exact ⟨i, hi, by omega, hrange.2⟩

theorem Within.mono {n : Number} (h : n.Within least most) {most' : ℤ} (hmost : most ≤ most') :
    n.Within least most' := by
  obtain ⟨i, hi, hrange⟩ := h
  exact ⟨i, hi, hrange.1, hrange.2.trans hmost⟩

/-- A number denotes one integer at most, so it is not in two ranges that are apart. -/
theorem Within.not_within {n : Number} (h : n.Within least most) {least' most' : ℤ}
    (hapart : most < least') : ¬n.Within least' most' := by
  obtain ⟨i, hi, hrange⟩ := h
  rintro ⟨j, hj, hrange'⟩
  obtain rfl : i = j := by exact_mod_cast hi.symm.trans hj
  omega

theorem within_natural_iff {m : UInt64} :
    Within least most (.natural m) ↔ least ≤ m.toNat ∧ m.toNat ≤ most := by
  constructor
  · rintro ⟨i, hi, hrange⟩
    have hvalue : (m.toNat : ℚ) = i := hi
    obtain rfl : (m.toNat : ℤ) = i := by exact_mod_cast hvalue
    exact hrange
  · intro h
    exact ⟨m.toNat, (Int.cast_natCast _).symm, h⟩

theorem within_real_iff {x : Binary64} : Within least most (.real x) ↔
    x.isIntegral ∧ least ≤ x.sign * x.truncated ∧ x.sign * x.truncated ≤ most := by
  constructor
  · rintro ⟨i, hi, hrange⟩
    obtain ⟨hintegral, rfl⟩ := Binary64.value_eq_intCast_iff.1 hi
    exact ⟨hintegral, hrange⟩
  · rintro ⟨hintegral, hrange⟩
    exact ⟨_, Binary64.value_eq_intCast_iff.2 ⟨hintegral, rfl⟩, hrange⟩

theorem isInt64_iff_rounded {n : Number} : n.isInt64 ↔
    n.int64?.isSome ∨ n.rounded.isIntegral ∧ n.rounded.magnitude ≤ 2 ^ 63 * Binary64.unit := by
  have hbound : int64Bound = 2 ^ 63 := rfl
  unfold isInt64
  rw [Bool.or_eq_true, Bool.and_eq_true, decide_eq_true_eq, hbound]

/-- An integer without a sign counts if it is rounded to the bound or less. -/
theorem isInt64_natural_iff {m : UInt64} :
    isInt64 (.natural m) ↔ m.toNat ≤ 2 ^ 63 + 1024 := by
  have hint64 : (int64? (.natural m)).isSome ↔ m.toNat < 2 ^ 63 := by
    simp only [int64?]
    split
    · next h => exact iff_of_true rfl h
    · next h => exact iff_of_false Bool.false_ne_true h
  rw [isInt64_iff_rounded, hint64]
  by_cases hsmall : m.toNat < 2 ^ 63
  · exact iff_of_true (.inl hsmall) (by omega)
  have hmagnitude : (rounded (.natural m)).magnitude =
      Binary64.roundDiv m.toNat 2048 * 2048 * Binary64.unit :=
    Binary64.magnitude_ofNat (Nat.le_of_not_lt hsmall) m.toNat_lt
  have hintegral : (rounded (.natural m)).isIntegral := by
    rw [Binary64.isIntegral_iff, hmagnitude]
    exact Nat.dvd_mul_left _ _
  rw [or_iff_right hsmall, and_iff_right hintegral, hmagnitude,
    Nat.mul_le_mul_right_iff Binary64.unit_pos]
  -- The tie, 1024 more than the bound, is rounded down to the even neighbour.
  unfold Binary64.roundDiv
  simp only
  split
  · omega
  · split
    · omega
    · split <;> omega

/-- A floating-point number counts if it is an integer that is not beyond the bound. -/
theorem isInt64_real_iff {x : Binary64} :
    isInt64 (.real x) ↔ x.isIntegral ∧ x.truncated ≤ 2 ^ 63 := by
  rw [isInt64_iff_rounded, or_iff_right (by simp [int64?])]
  refine and_congr_right fun hintegral => ?_
  have hmagnitude : (rounded (.real x)).magnitude = x.truncated * Binary64.unit :=
    Binary64.magnitude_eq hintegral
  rw [hmagnitude]
  exact Nat.mul_le_mul_right_iff Binary64.unit_pos

/-- **The numbers that count as integers of 64 bits**: the integers from the least one of 64 bits to
1024 more than the bound. -/
theorem isInt64_iff {n : Number} : n.isInt64 ↔ n.Within (-2 ^ 63) (2 ^ 63 + 1024) := by
  cases n with
  | natural m =>
    rw [isInt64_natural_iff, within_natural_iff]
    omega
  | negSucc k =>
    refine iff_of_true rfl ⟨.negSucc k.val, ?_, ?_⟩
    · simp [value, Int.cast_negSucc]
    · have hk := k.isLt
      omega
  | real x =>
    rw [isInt64_real_iff, within_real_iff]
    refine and_congr_right fun hintegral => ?_
    have hbound := Binary64.truncated_le_bound hintegral
    unfold Binary64.sign
    split <;> omega

end Number

end LoggingProvider
