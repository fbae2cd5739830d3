import LoggingProvider.Json.Number
import Mathlib.Algebra.Group.Nat.Defs
import Mathlib.Data.Nat.Log

/-!
# The number nearest to an integer

A positive integer below two to the power 64 has a nearest number, which is positive. An integer is
rounded to 53 binary digits, so one of 64 binary digits is rounded to a multiple of 2048.

## Main definitions

* `Binary64.nearest`: an integer rounded to 53 binary digits
* `Number.isNegative`: the numbers less than zero

## Main results

* `Binary64.ofNat_spec`: the sign and the absolute value of this number
* `Binary64.magnitude_ofNat`: its absolute value, for an integer of 64 binary digits
* `Binary64.magnitude_inj`: numbers of one absolute value differ in the sign alone
* `Number.rounded_negSucc`: a negative integer rounds to a negative number
* `Number.isNegative_of_same`: a number that is the same as a positive integer is not negative
-/

namespace LoggingProvider

namespace Binary64

theorem roundDiv_le (num den : Nat) : roundDiv num den ≤ num / den + 1 := by
  unfold roundDiv
  simp only
  split
  · omega
  · split
    · omega
    · split <;> omega

theorem le_roundDiv (num den : Nat) : num / den ≤ roundDiv num den := by
  unfold roundDiv
  simp only
  split
  · exact Nat.le_refl _
  · split
    · omega
    · split <;> omega

/-- A quotient is rounded alike when both of its sides are scaled. -/
theorem roundDiv_mul_right (num den : Nat) {k : Nat} (hk : 0 < k) :
    roundDiv (num * k) (den * k) = roundDiv num den := by
  unfold roundDiv
  simp only [Nat.mul_div_mul_right num den hk, Nat.mul_mod_mul_right, ← Nat.mul_assoc,
    Nat.mul_lt_mul_right hk]

/-- A quotient without a remainder is not rounded. -/
theorem roundDiv_mul (q : Nat) {den : Nat} (hden : 0 < den) : roundDiv (q * den) den = q := by
  unfold roundDiv
  simp only [Nat.mul_div_cancel q hden, Nat.mul_mod_left, Nat.mul_zero, if_pos hden]

/-- An integer divided by the unit of its significand. -/
theorem div_significand_le (m : Nat) (hm : 52 ≤ m.log2) : m / 2 ^ (m.log2 - 52) < 2 ^ 53 := by
  rw [Nat.div_lt_iff_lt_mul (Nat.two_pow_pos _), ← Nat.pow_add]
  have hlog : 53 + (m.log2 - 52) = m.log2 + 1 := by omega
  rw [hlog]
  exact Nat.lt_log2_self

theorem negative_neg (x : Binary64) : x.neg.negative = !x.negative := rfl

theorem isZero_neg (x : Binary64) : x.neg.isZero = x.isZero := rfl

/-! ## An integer as a number -/

/-- **The number of a pattern of fields** that is made of an exponent and a significand. -/
theorem exists_ofFields? {negative : Bool} {shift significand : Nat}
    (hleast : 2 ^ 52 ≤ significand) (hmost : significand ≤ 2 ^ 53) (hshift : shift < 2045) :
    ∃ x, ofFields? negative (shift * 4503599627370496 + significand) = some x ∧
      x.negative = negative ∧ x.isZero = false ∧ x.magnitude = significand * 2 ^ shift := by
  have hexponent : (shift * 4503599627370496 + significand) / 4503599627370496 < 2047 := by omega
  have hpos : (shift * 4503599627370496 + significand) / 4503599627370496 ≠ 0 := by omega
  refine ⟨_, dif_pos hexponent, rfl, ?_, ?_⟩
  · unfold isZero
    rw [decide_eq_false hpos, Bool.false_and]
  · unfold magnitude Binary64.significand scale
    simp only [Nat.pow_eq]
    rw [if_neg hpos]
    rcases Nat.lt_or_eq_of_le hmost with hlt | rfl
    · have hfraction :
          4503599627370496 + (shift * 4503599627370496 + significand) % 4503599627370496 =
            significand := by omega
      have hscale : (shift * 4503599627370496 + significand) / 4503599627370496 - 1 = shift := by
        omega
      rw [hfraction, hscale]
    · -- The significand is the next power of two: it is carried, and the fraction is zero.
      have hfraction :
          4503599627370496 + (shift * 4503599627370496 + 2 ^ 53) % 4503599627370496 =
            4503599627370496 := by omega
      have hscale : (shift * 4503599627370496 + 2 ^ 53) / 4503599627370496 - 1 = shift + 1 := by
        omega
      rw [hfraction, hscale, Nat.pow_succ]
      omega

/-- **An integer rounded to 53 binary digits**; a tie goes to the even neighbour. -/
def nearest (n : Nat) : Nat :=
  roundDiv n (2 ^ (n.log2 - 52)) * 2 ^ (n.log2 - 52)

/-- An integer that is a multiple of its last place is not rounded. -/
theorem nearest_of_dvd {n : Nat} (h : 2 ^ (n.log2 - 52) ∣ n) : nearest n = n := by
  unfold nearest
  generalize 2 ^ (n.log2 - 52) = place at *
  obtain ⟨q, rfl⟩ := h
  rcases Nat.eq_zero_or_pos place with rfl | hplace
  · rw [Nat.mul_zero, Nat.zero_mul]
  · rw [Nat.mul_comm place q, roundDiv_mul q hplace]

theorem nearest_of_log2_le {n : Nat} (h : n.log2 ≤ 52) : nearest n = n := by
  apply nearest_of_dvd
  rw [Nat.sub_eq_zero_of_le h, Nat.pow_zero]
  exact Nat.one_dvd n

/-- An integer of at most 53 binary digits is not rounded, nor is the next one. -/
theorem nearest_of_le {n : Nat} (h : n ≤ 2 ^ 53) : nearest n = n := by
  rcases Nat.lt_or_eq_of_le h with hlt | rfl
  · rcases Nat.eq_zero_or_pos n with rfl | hpos
    · rfl
    · have hlog : n.log2 < 53 := (Nat.log2_lt hpos.ne').2 hlt
      exact nearest_of_log2_le (by omega)
  · exact nearest_of_dvd (by decide +kernel)

/-- **The significand of an integer of few digits** is the integer, filled up to 53 digits. -/
theorem exists_significand_of_lt {n e : Nat} (hpos : 0 < n) (he : 52 ≤ e) (hshort : n.log2 < 52) :
    ∃ significand, roundDiv (n * 2 ^ e) (2 ^ (n.log2 + e - 52)) = significand ∧
      2 ^ 52 ≤ significand ∧ significand ≤ 2 ^ 53 ∧
        significand * 2 ^ (n.log2 + e - 52) = nearest n * 2 ^ e := by
  have hleast : 2 ^ n.log2 ≤ n := Nat.log2_self_le hpos.ne'
  have hfilled : n * 2 ^ (52 - n.log2) * 2 ^ (n.log2 + e - 52) = n * 2 ^ e := by
    rw [Nat.mul_assoc, ← Nat.pow_add]
    congr 2
    omega
  refine ⟨n * 2 ^ (52 - n.log2), ?_, ?_, ?_, ?_⟩
  · rw [← hfilled]
    exact roundDiv_mul _ (Nat.two_pow_pos _)
  · calc 2 ^ 52 = 2 ^ n.log2 * 2 ^ (52 - n.log2) := by
          rw [← Nat.pow_add, Nat.add_sub_cancel' hshort.le]
      _ ≤ n * 2 ^ (52 - n.log2) := Nat.mul_le_mul_right _ hleast
  · calc n * 2 ^ (52 - n.log2) ≤ 2 ^ (n.log2 + 1) * 2 ^ (52 - n.log2) :=
          Nat.mul_le_mul_right _ Nat.lt_log2_self.le
      _ = 2 ^ 53 := by
          rw [← Nat.pow_add, Nat.add_right_comm, Nat.add_sub_cancel' hshort.le]
  · rw [hfilled, nearest_of_log2_le hshort.le]

/-- **The significand of an integer of many digits** is the integer, rounded to 53 digits. -/
theorem exists_significand_of_le {n e : Nat} (hpos : 0 < n) (hlong : 52 ≤ n.log2) :
    ∃ significand, roundDiv (n * 2 ^ e) (2 ^ (n.log2 + e - 52)) = significand ∧
      2 ^ 52 ≤ significand ∧ significand ≤ 2 ^ 53 ∧
        significand * 2 ^ (n.log2 + e - 52) = nearest n * 2 ^ e := by
  have hshift : n.log2 + e - 52 = (n.log2 - 52) + e := by omega
  have hfull : 2 ^ 52 ≤ n / 2 ^ (n.log2 - 52) := by
    rw [Nat.le_div_iff_mul_le (Nat.two_pow_pos _), ← Nat.pow_add, Nat.add_sub_cancel' hlong]
    exact Nat.log2_self_le hpos.ne'
  have hbits := div_significand_le n hlong
  have hlower := le_roundDiv n (2 ^ (n.log2 - 52))
  have hupper := roundDiv_le n (2 ^ (n.log2 - 52))
  refine ⟨roundDiv n (2 ^ (n.log2 - 52)), ?_, by omega, by omega, ?_⟩
  · rw [hshift, Nat.pow_add]
    exact roundDiv_mul_right n _ (Nat.two_pow_pos e)
  · rw [hshift, Nat.pow_add, ← Nat.mul_assoc]
    rfl

/-- **A positive integer below two to the power 64** rounds to a positive number, whose absolute
value is the integer rounded to 53 binary digits. -/
theorem ofNat_spec {n : Nat} (hpos : 0 < n) (hlt : n < 2 ^ 64) :
    (ofNat n).negative = false ∧ (ofNat n).isZero = false ∧
      (ofNat n).magnitude = nearest n * unit := by
  have hlog : n.log2 < 64 := (Nat.log2_lt hpos.ne').2 hlt
  unfold ofNat ofRatio? unit
  -- The exponent is kept opaque, for the power is far too large to compute with.
  generalize he : 1074 = e
  have hscaled : (n * 2 ^ e).log2 = n.log2 + e := by
    rw [Nat.log2_eq_iff (Nat.mul_pos hpos (Nat.two_pow_pos e)).ne', Nat.pow_add, Nat.add_right_comm,
      Nat.pow_add]
    exact ⟨Nat.mul_le_mul_right _ (Nat.log2_self_le hpos.ne'),
      Nat.mul_lt_mul_of_pos_right Nat.lt_log2_self (Nat.two_pow_pos e)⟩
  simp only [Nat.pow_eq, Nat.div_one, Nat.one_mul, hscaled]
  obtain ⟨significand, hround, hlower, hupper, hvalue⟩ : ∃ significand,
      roundDiv (n * 2 ^ e) (2 ^ (n.log2 + e - 52)) = significand ∧
        2 ^ 52 ≤ significand ∧ significand ≤ 2 ^ 53 ∧
          significand * 2 ^ (n.log2 + e - 52) = nearest n * 2 ^ e := by
    rcases Nat.lt_or_ge n.log2 52 with hshort | hlong
    · exact exists_significand_of_lt hpos (by omega) hshort
    · exact exists_significand_of_le hpos hlong
  obtain ⟨x, hx, hnegative, hzero, hmagnitude⟩ : ∃ x,
      ofFields? false ((n.log2 + e - 52) * 4503599627370496 + significand) = some x ∧
        x.negative = false ∧ x.isZero = false ∧
          x.magnitude = significand * 2 ^ (n.log2 + e - 52) :=
    exists_ofFields? hlower hupper (by omega)
  rw [hround, hx, Option.getD_some, ← hvalue]
  exact ⟨hnegative, hzero, hmagnitude⟩

theorem ofNat_zero : ofNat 0 = zero := by
  unfold ofNat ofRatio?
  rw [Nat.zero_mul]
  rfl

theorem negative_ofNat {n : Nat} (hlt : n < 2 ^ 64) : (ofNat n).negative = false := by
  rcases Nat.eq_zero_or_pos n with rfl | hpos
  · rw [ofNat_zero]
    rfl
  · exact (ofNat_spec hpos hlt).1

/-- **The absolute value of the number nearest to an integer**: the integer rounded to 53 binary
digits. -/
theorem magnitude_ofNat_eq_nearest {n : Nat} (hlt : n < 2 ^ 64) :
    (ofNat n).magnitude = nearest n * unit := by
  rcases Nat.eq_zero_or_pos n with rfl | hpos
  · rw [ofNat_zero, nearest_of_le (Nat.zero_le _), Nat.zero_mul]
    rfl
  · exact (ofNat_spec hpos hlt).2.2

/-- **An integer of 64 binary digits** is rounded to a multiple of 2048. -/
theorem magnitude_ofNat {n : Nat} (hleast : 2 ^ 63 ≤ n) (hlt : n < 2 ^ 64) :
    (ofNat n).magnitude = roundDiv n 2048 * 2048 * unit := by
  have hlog : n.log2 = 63 := (Nat.log2_eq_iff (by omega)).2 ⟨hleast, hlt⟩
  have hplace : 2 ^ (n.log2 - 52) = 2048 := by simp [hlog]
  rw [magnitude_ofNat_eq_nearest hlt, nearest, hplace]

/-! ## Which numbers have the same value -/

theorem significand_lt (x : Binary64) : x.significand < 2 ^ 53 := by
  unfold significand
  split <;> omega

/-- A larger exponent makes a larger absolute value. -/
theorem magnitude_lt_of_exponent_lt {x y : Binary64} (h : x.exponent < y.exponent) :
    x.magnitude < y.magnitude := by
  have hexponent : x.exponent.val < y.exponent.val := h
  have hy : 2 ^ 52 ≤ y.significand := by
    unfold significand
    rw [if_neg (by omega)]
    omega
  have hx : x.magnitude < 2 ^ 52 * 2 ^ y.scale := by
    unfold magnitude scale
    simp only [Nat.pow_eq]
    rcases Nat.eq_zero_or_pos x.exponent.val with hzero | hpos
    · have hfraction : x.significand < 2 ^ 52 := by
        unfold significand
        rw [if_pos hzero]
        exact x.fraction.isLt
      rw [hzero, Nat.zero_sub, Nat.pow_zero, Nat.mul_one]
      exact Nat.lt_of_lt_of_le hfraction (Nat.le_mul_of_pos_right _ (Nat.two_pow_pos _))
    · calc x.significand * 2 ^ (x.exponent.val - 1)
          < 2 ^ 53 * 2 ^ (x.exponent.val - 1) :=
            Nat.mul_lt_mul_of_pos_right x.significand_lt (Nat.two_pow_pos _)
        _ = 2 ^ (52 + x.exponent.val) := by rw [← Nat.pow_add]; congr 1; omega
        _ ≤ 2 ^ (52 + (y.exponent.val - 1)) := Nat.pow_le_pow_right (by decide) (by omega)
        _ = 2 ^ 52 * 2 ^ (y.exponent.val - 1) := Nat.pow_add _ _ _
  exact Nat.lt_of_lt_of_le hx (Nat.mul_le_mul_right _ hy)

/-- **Two numbers with one absolute value** have the same fields but for the sign. -/
theorem magnitude_inj {x y : Binary64} :
    x.magnitude = y.magnitude ↔ x.exponent = y.exponent ∧ x.fraction = y.fraction := by
  constructor
  · intro h
    have hexponent : x.exponent = y.exponent := by
      rcases Nat.lt_trichotomy x.exponent.val y.exponent.val with hlt | heq | hgt
      · exact absurd h (magnitude_lt_of_exponent_lt hlt).ne
      · exact Fin.ext heq
      · exact absurd h (magnitude_lt_of_exponent_lt hgt).ne'
    refine ⟨hexponent, Fin.ext ?_⟩
    unfold magnitude scale at h
    rw [hexponent] at h
    have hsignificand := Nat.mul_right_cancel (Nat.two_pow_pos _) h
    unfold significand at hsignificand
    rw [hexponent] at hsignificand
    split at hsignificand <;> omega
  · rintro ⟨hexponent, hfraction⟩
    unfold magnitude significand scale
    rw [hexponent, hfraction]

end Binary64

namespace Number

/-- **A negative integer** rounds to a negative number. -/
theorem rounded_negSucc (k : Fin 9223372036854775808) :
    (rounded (.negSucc k)).negative = true ∧ (rounded (.negSucc k)).isZero = false := by
  have hlt : k.val + 1 < 2 ^ 64 := Nat.lt_of_le_of_lt k.isLt (by decide)
  obtain ⟨hnegative, hzero, -⟩ := Binary64.ofNat_spec k.val.succ_pos hlt
  unfold rounded
  rw [Binary64.negative_neg, Binary64.isZero_neg]
  exact ⟨by rw [hnegative, Bool.not_false], hzero⟩

/-- Whether a number is less than zero. -/
def isNegative : Number → Bool
  | .natural _ => false
  | .negSucc _ => true
  | .real x => x.negative && !x.isZero

/-- A number that rounds to the same number as a positive integer is not negative. -/
theorem isNegative_of_same {k : Nat} (hpos : 0 < k) (hlt : k < 2 ^ 64) {n : Number}
    (h : (Binary64.ofNat k).same n.rounded) : n.isNegative = false := by
  obtain ⟨hnegative, hzero, -⟩ := Binary64.ofNat_spec hpos hlt
  have heq : Binary64.ofNat k = n.rounded := by
    unfold Binary64.same at h
    rw [hzero, Bool.false_and, Bool.or_false] at h
    exact of_decide_eq_true h
  rw [heq] at hnegative
  cases n with
  | natural n => rfl
  | negSucc k =>
    rw [(rounded_negSucc k).1] at hnegative
    cases hnegative
  | real x =>
    have hx : x.negative = false := hnegative
    simp [isNegative, hx]

end Number

end LoggingProvider
