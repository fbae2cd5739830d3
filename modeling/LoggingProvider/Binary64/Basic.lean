/-!
# Binary floating-point numbers

The finite numbers of the 64-bit binary floating-point format. A number is its sign, its exponent
field and its fraction field, so every value of the type is finite, and zero has two signs. All
arithmetic is exact arithmetic on natural numbers followed by one rounding to the nearest number,
where a tie goes to the even neighbour.

## Main definitions

* `Binary64`: sign, exponent field and fraction field
* `Binary64.magnitude`: the absolute value, in units of the least positive number
* `Binary64.ofRatio?`: the number nearest to a quotient
* `Binary64.isIntegral`, `Binary64.truncated`: the integers among the numbers
* `Binary64.same`: equality of values, which ignores the sign of zero
* `Binary64.ofDecimal?`: the number that decimal digits and an exponent denote

## Main results

* `Binary64.same_refl`: a number is the same as itself
-/

namespace LoggingProvider

/-- **A finite binary floating-point number** of 64 bits. -/
structure Binary64 where
  /-- Whether the sign is minus. -/
  negative : Bool
  /-- The exponent field; the field that marks infinities is left out. -/
  exponent : Fin 2047
  /-- The fraction field. -/
  fraction : Fin 4503599627370496
deriving DecidableEq

namespace Binary64

/-- The zero with the sign plus. -/
def zero : Binary64 := ⟨false, 0, 0⟩

/-- The units in one: the least positive number is two to the power -1074. -/
def unit : Nat := Nat.pow 2 1074

/-- The significand: the fraction, with the leading bit that the exponent field implies. -/
def significand (x : Binary64) : Nat :=
  if x.exponent.val = 0 then x.fraction.val else 4503599627370496 + x.fraction.val

/-- The power of two by which the significand counts units. -/
def scale (x : Binary64) : Nat :=
  x.exponent.val - 1

/-- **The absolute value**, in units of the least positive number. -/
def magnitude (x : Binary64) : Nat :=
  x.significand * Nat.pow 2 x.scale

/-- Whether the number is a zero of either sign. -/
def isZero (x : Binary64) : Bool :=
  x.exponent.val = 0 && x.fraction.val = 0

/-- The number with the other sign. -/
def neg (x : Binary64) : Binary64 :=
  { x with negative := !x.negative }

/-! ## Rounding -/

/-- The integer nearest to a quotient; a tie goes to the even neighbour. -/
def roundDiv (num den : Nat) : Nat :=
  let q := num / den
  let r := num % den
  if 2 * r < den then q
  else if den < 2 * r then q + 1
  else if q % 2 = 0 then q else q + 1

/-- The number whose exponent and fraction fields, read as one integer, are the given one. -/
def ofFields? (negative : Bool) (fields : Nat) : Option Binary64 :=
  if h : fields / 4503599627370496 < 2047 then
    some ⟨negative, ⟨fields / 4503599627370496, h⟩,
      ⟨fields % 4503599627370496, Nat.mod_lt _ (by decide)⟩⟩
  else none

/-- **The number nearest to a quotient**, with a given sign; nothing when the quotient is beyond
the largest number. A significand that rounds up to the next power of two carries into the
exponent field. -/
def ofRatio? (negative : Bool) (num den : Nat) : Option Binary64 :=
  let total := num * unit
  let shift := Nat.log2 (total / den) - 52
  ofFields? negative (shift * 4503599627370496 + roundDiv total (den * Nat.pow 2 shift))

/-- The number nearest to an integer below two to the power 64. -/
def ofNat (n : Nat) : Binary64 :=
  (ofRatio? false n 1).getD zero

/-! ## Values -/

/-- Whether the value is an integer. -/
def isIntegral (x : Binary64) : Bool :=
  x.magnitude % unit = 0

/-- The integer part of the absolute value. -/
def truncated (x : Binary64) : Nat :=
  x.magnitude / unit

/-- **Equality of values**: the two zeros are the same. -/
def same (x y : Binary64) : Bool :=
  x = y || (x.isZero && y.isZero)

theorem same_refl (x : Binary64) : same x x := by simp [same]

/-! ## Decimal digits -/

/-- The product of the absolute values, rounded. -/
def mul? (x y : Binary64) : Option Binary64 :=
  ofRatio? false (x.magnitude * y.magnitude) (unit * unit)

/-- The quotient of the absolute values, rounded. -/
def div? (x y : Binary64) : Option Binary64 :=
  ofRatio? false x.magnitude y.magnitude

/-- The number nearest to a power of ten; nothing beyond the 308th. -/
def tenTo? (k : Nat) : Option Binary64 :=
  ofRatio? false (Nat.pow 10 k) 1

/-- A number divided by a power of ten, in steps of at most the 308th power. -/
def scaleDown? (x : Binary64) (k : Nat) : Option Binary64 :=
  if k ≤ 308 then (tenTo? k).bind x.div?
  else if x.isZero then some x
  else do scaleDown? (← (tenTo? 308).bind x.div?) (k - 308)
termination_by k

/-- A number multiplied by a power of ten, in one step. -/
def scaleUp? (x : Binary64) (k : Nat) : Option Binary64 :=
  if k ≤ 308 then (tenTo? k).bind x.mul?
  else if x.isZero then some x
  else none

/-- **The number that decimal digits and an exponent denote**: the digits are rounded to a number,
which is then multiplied or divided by a power of ten. Nothing when the result is too large. -/
def ofDecimal? (digits : Nat) : Int → Option Binary64
  | .ofNat k => scaleUp? (ofNat digits) k
  | .negSucc k => scaleDown? (ofNat digits) (k + 1)

end Binary64

end LoggingProvider
