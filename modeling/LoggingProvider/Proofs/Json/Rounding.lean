import LoggingProvider.Proofs.Binary64
import LoggingProvider.Proofs.Json.Number

/-!
# Numbers that round alike

Numbers of different kinds are compared by the floating-point numbers nearest to them. Rounding
keeps a floating-point number and an integer of at most 53 binary digits as they are, so numbers of
one value round alike. An integer of more digits may lose the last ones, and then it rounds like
another integer, or like a floating-point number, that denotes something else.

## Main definitions

* `Number.nearest`: the value of the floating-point number nearest to a number
* `Number.Wide`: the integers beyond two to the power 53
* `Number.Confused`: numbers that round alike but do not have one value

## Main results

* `Binary64.same_iff`: floating-point numbers are the same if they have one value
* `Number.same_rounded_iff`: when the nearest floating-point numbers are the same
* `Number.nearest_eq_of_value_eq`: numbers of one value round alike
* `Number.same_rounded_iff_value_eq_or_confused`: numbers that round alike have one value, or are
  confused
* `Number.Confused.wide`: one of two numbers that are confused is a wide integer
-/

namespace LoggingProvider

namespace Binary64

variable {x y : Binary64}

/-! ## Values of floating-point numbers -/

theorem value_neg (x : Binary64) : x.neg.value = -x.value := by
  have hmagnitude : x.neg.magnitude = x.magnitude := rfl
  unfold value
  rw [negative_neg, hmagnitude]
  -- The absolute value is kept opaque, for its unit is far too large to compute with.
  generalize (x.magnitude : ℚ) / (unit : ℚ) = units
  cases x.negative <;> simp

theorem abs_value (x : Binary64) : |x.value| = (x.magnitude : ℚ) / (unit : ℚ) := by
  have hunits : (0 : ℚ) ≤ (x.magnitude : ℚ) / (unit : ℚ) := by positivity
  unfold value
  rw [abs_mul, abs_of_nonneg hunits]
  generalize (x.magnitude : ℚ) / (unit : ℚ) = units
  cases x.negative <;> simp

theorem value_eq_zero_iff : x.value = 0 ↔ x.isZero := by
  have hunit : (unit : ℚ) ≠ 0 := Nat.cast_ne_zero.2 unit_pos.ne'
  rw [← abs_eq_zero, abs_value, div_eq_zero_iff, or_iff_left hunit, Nat.cast_eq_zero, isZero_iff]

theorem magnitude_eq_of_abs_value_eq (h : |x.value| = |y.value|) : x.magnitude = y.magnitude := by
  have hunit : (unit : ℚ) ≠ 0 := Nat.cast_ne_zero.2 unit_pos.ne'
  rw [abs_value, abs_value, div_left_inj' hunit] at h
  exact Nat.cast_inj.1 h

/-- The sign of a number is that of its value, unless it is zero. -/
theorem negative_eq_of_value_eq (hzero : x.isZero = false) (h : x.value = y.value) :
    x.negative = y.negative := by
  have hne : x.value ≠ 0 := fun h0 => Bool.false_ne_true (hzero ▸ value_eq_zero_iff.1 h0)
  have hmagnitude := magnitude_eq_of_abs_value_eq (congrArg abs h)
  by_contra hsign
  have hopposite : x.value = -y.value := by
    unfold value
    rw [hmagnitude, Bool.eq_not.2 hsign]
    generalize (y.magnitude : ℚ) / (unit : ℚ) = units
    cases y.negative <;> simp
  exact hne (by linarith)

/-- **Floating-point numbers are the same if they have one value.** -/
theorem same_iff : x.same y ↔ x.value = y.value := by
  unfold same
  rw [Bool.or_eq_true, decide_eq_true_iff, Bool.and_eq_true]
  constructor
  · rintro (rfl | ⟨hx, hy⟩)
    · rfl
    · rw [value_eq_zero_iff.2 hx, value_eq_zero_iff.2 hy]
  · intro h
    cases hzero : x.isZero with
    | true =>
      have hy : y.value = 0 := h ▸ value_eq_zero_iff.2 hzero
      exact .inr ⟨rfl, value_eq_zero_iff.1 hy⟩
    | false =>
      have hnegative := negative_eq_of_value_eq hzero h
      obtain ⟨hexponent, hfraction⟩ :=
        magnitude_inj.1 (magnitude_eq_of_abs_value_eq (congrArg abs h))
      obtain ⟨negative, exponent, fraction⟩ := x
      obtain rfl : negative = y.negative := hnegative
      obtain rfl : exponent = y.exponent := hexponent
      obtain rfl : fraction = y.fraction := hfraction
      exact .inl rfl

/-! ## Integers -/

/-- **The value of the number nearest to an integer.** -/
theorem value_ofNat {n : ℕ} (hlt : n < 2 ^ 64) : (ofNat n).value = nearest n := by
  have hunit : (unit : ℚ) ≠ 0 := Nat.cast_ne_zero.2 unit_pos.ne'
  unfold value
  rw [negative_ofNat hlt, magnitude_ofNat_eq_nearest hlt, Nat.cast_mul, mul_div_cancel_right₀ _ hunit]
  simp

/-- **An integer that a floating-point number denotes** is not rounded. -/
theorem nearest_of_value_eq {n : ℕ} (h : x.value = n) : nearest n = n := by
  obtain ⟨hintegral, -, htruncated⟩ := value_eq_natCast_iff.1 h
  have hmagnitude : x.magnitude = n * unit := htruncated ▸ magnitude_eq hintegral
  rcases Nat.lt_or_ge 52 n.log2 with hlong | hshort
  · apply nearest_of_dvd
    have hleast : 2 ^ n.log2 ≤ n := Nat.log2_self_le (by rintro rfl; exact absurd hlong (by decide))
    have hsignificand := x.significand_lt
    unfold magnitude unit at hmagnitude
    simp only [Nat.pow_eq] at hmagnitude
    -- The exponent is kept opaque, for the power is far too large to compute with.
    generalize 1074 = e at hmagnitude
    generalize x.significand = s at *
    generalize x.scale = j at *
    have hscale : n.log2 - 52 + e ≤ j := by
      have hpow : 2 ^ (n.log2 + e) < 2 ^ (53 + j) := calc
        2 ^ (n.log2 + e) = 2 ^ n.log2 * 2 ^ e := Nat.pow_add _ _ _
        _ ≤ n * 2 ^ e := Nat.mul_le_mul_right _ hleast
        _ = s * 2 ^ j := hmagnitude.symm
        _ < 2 ^ 53 * 2 ^ j := Nat.mul_lt_mul_of_pos_right hsignificand (Nat.two_pow_pos j)
        _ = 2 ^ (53 + j) := (Nat.pow_add _ _ _).symm
      have hexponents := (Nat.pow_lt_pow_iff_right (by decide)).1 hpow
      omega
    have hdvd : 2 ^ (n.log2 - 52) * 2 ^ e ∣ n * 2 ^ e := by
      rw [← Nat.pow_add, ← hmagnitude]
      exact Dvd.dvd.mul_left (Nat.pow_dvd_pow 2 hscale) s
    exact Nat.dvd_of_mul_dvd_mul_right (Nat.two_pow_pos e) hdvd
  · exact nearest_of_log2_le hshort

end Binary64

namespace Number

variable {a b n : Number} {x : Binary64}

/-- **The value of the floating-point number nearest to a number.** -/
def nearest : Number → ℚ
  | .natural n => Binary64.nearest n.toNat
  | .negSucc k => -Binary64.nearest (k.val + 1)
  | .real x => x.value

/-- The integers beyond two to the power 53. -/
def Wide : Number → Prop
  | .natural n => 2 ^ 53 < n.toNat
  | .negSucc k => 2 ^ 53 < k.val + 1
  | .real _ => False

instance : DecidablePred Wide
  | .natural n => inferInstanceAs (Decidable (2 ^ 53 < n.toNat))
  | .negSucc k => inferInstanceAs (Decidable (2 ^ 53 < k.val + 1))
  | .real _ => inferInstanceAs (Decidable False)

/-- **Numbers that round alike but do not have one value.** -/
def Confused (a b : Number) : Prop := a.value ≠ b.value ∧ a.nearest = b.nearest

@[simp] theorem nearest_natural (n : UInt64) :
    nearest (.natural n) = (Binary64.nearest n.toNat : ℕ) := rfl

@[simp] theorem nearest_negSucc (k : Fin 9223372036854775808) :
    nearest (.negSucc k) = -(Binary64.nearest (k.val + 1) : ℕ) := rfl

@[simp] theorem value_natural (n : UInt64) : value (.natural n) = (n.toNat : ℕ) := rfl

@[simp] theorem value_negSucc (k : Fin 9223372036854775808) :
    value (.negSucc k) = -(k.val + 1 : ℕ) := by
  rw [Nat.cast_add, Nat.cast_one]
  rfl

theorem value_rounded (n : Number) : n.rounded.value = n.nearest := by
  cases n with
  | natural n => exact Binary64.value_ofNat n.toNat_lt
  | negSucc k =>
    have hlt : k.val + 1 < 2 ^ 64 := Nat.lt_of_le_of_lt k.isLt (by decide)
    unfold rounded
    rw [Binary64.value_neg, Binary64.value_ofNat hlt, nearest_negSucc]
  | real x => rfl

/-- **When the nearest floating-point numbers are the same.** -/
theorem same_rounded_iff : a.rounded.same b.rounded ↔ a.nearest = b.nearest := by
  rw [Binary64.same_iff, value_rounded, value_rounded]

/-- A number with the value of a floating-point number is not rounded. -/
theorem nearest_eq_value (h : n.value = x.value) : n.nearest = n.value := by
  cases n with
  | natural n => exact congrArg Nat.cast (Binary64.nearest_of_value_eq h.symm)
  | negSucc k =>
    have hneg : x.neg.value = (k.val + 1 : ℕ) := by
      rw [Binary64.value_neg, ← h, value_negSucc, neg_neg]
    rw [nearest_negSucc, value_negSucc, Binary64.nearest_of_value_eq hneg]
  | real y => rfl

/-- One of the integers is negative, and the other is not. -/
theorem value_natural_ne_negSucc (n : UInt64) (k : Fin 9223372036854775808) :
    value (.natural n) ≠ value (.negSucc k) := by
  have hn : (0 : ℚ) ≤ n.toNat := Nat.cast_nonneg _
  have hk : (0 : ℚ) < (k.val + 1 : ℕ) := Nat.cast_pos.2 k.val.succ_pos
  rw [value_natural, value_negSucc]
  intro h
  linarith

/-- **Numbers of one value round alike.** -/
theorem nearest_eq_of_value_eq (h : a.value = b.value) : a.nearest = b.nearest := by
  cases a with
  | real x => exact h.trans (nearest_eq_value h.symm).symm
  | natural m =>
    cases b with
    | real y => exact (nearest_eq_value h).trans h
    | natural n =>
      have hmn : m.toNat = n.toNat := Nat.cast_inj.1 h
      rw [nearest_natural, nearest_natural, hmn]
    | negSucc k => exact absurd h (value_natural_ne_negSucc m k)
  | negSucc j =>
    cases b with
    | real y => exact (nearest_eq_value h).trans h
    | natural n => exact absurd h.symm (value_natural_ne_negSucc n j)
    | negSucc k =>
      rw [value_negSucc, value_negSucc, neg_inj, Nat.cast_inj] at h
      rw [nearest_negSucc, nearest_negSucc, h]

theorem same_rounded_iff_value_eq_or_confused :
    a.rounded.same b.rounded ↔ a.value = b.value ∨ a.Confused b := by
  rw [same_rounded_iff]
  constructor
  · intro h
    exact (Decidable.em (a.value = b.value)).imp_right fun hne => ⟨hne, h⟩
  · rintro (h | h)
    · exact nearest_eq_of_value_eq h
    · exact h.2

theorem nearest_eq_value_of_not_wide (h : ¬n.Wide) : n.nearest = n.value := by
  cases n with
  | natural n => exact congrArg Nat.cast (Binary64.nearest_of_le (Nat.le_of_not_lt h))
  | negSucc k =>
    rw [nearest_negSucc, value_negSucc, Binary64.nearest_of_le (Nat.le_of_not_lt h)]
  | real x => rfl

/-- **One of two numbers that are confused** is an integer beyond two to the power 53. -/
theorem Confused.wide (h : a.Confused b) : a.Wide ∨ b.Wide := by
  by_contra hnone
  obtain ⟨ha, hb⟩ := not_or.1 hnone
  apply h.1
  rw [← nearest_eq_value_of_not_wide ha, ← nearest_eq_value_of_not_wide hb, h.2]

end Number

end LoggingProvider
