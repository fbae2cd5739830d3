import LoggingProvider.Binary64.Shortest

/-!
# Numbers of a document

A number of a document is an integer of 64 bits, without or with a sign, or a binary floating-point
number. The three kinds are disjoint: the integer 1 and the number 1.0 are different.

## Main definitions

* `Number`: the three kinds of number
* `Number.ofInt?`: the integer kinds
* `Number.natural?`, `Number.int64?`: the integers of two ranges among the numbers
* `Number.rounded`: the floating-point number nearest to a number
* `Number.same`: equality of numbers of one kind
* `Number.text`: the text of a number
-/

namespace LoggingProvider

/-- **A number of a document.** -/
inductive Number where
  /-- An integer from zero to the largest unsigned integer of 64 bits. -/
  | natural (n : UInt64)
  /-- The negative integer `-(k + 1)`, at least the smallest signed integer of 64 bits. -/
  | negSucc (k : Fin 9223372036854775808)
  /-- A floating-point number. -/
  | real (x : Binary64)
deriving DecidableEq

namespace Number

/-- The integer with a sign and an absolute value, if it fits 64 bits. Minus zero is no integer. -/
def ofInt? (negative : Bool) (n : Nat) : Option Number :=
  if negative then
    if h : 0 < n ∧ n ≤ 9223372036854775808 then
      some (.negSucc ⟨n - 1, by omega⟩)
    else none
  else if n < 18446744073709551616 then some (.natural (UInt64.ofNat n))
  else none

/-- The number as an unsigned integer, if it is of that kind. -/
def natural? : Number → Option UInt64
  | .natural n => some n
  | _ => none

/-- The number as a signed integer of 64 bits, if it is an integer of that range. -/
def int64? : Number → Option Int
  | .natural n => if n.toNat < 9223372036854775808 then some n.toNat else none
  | .negSucc k => some (.negSucc k.val)
  | .real _ => none

/-- The floating-point number nearest to a number. -/
def rounded : Number → Binary64
  | .natural n => .ofNat n.toNat
  | .negSucc k => (Binary64.ofNat (k.val + 1)).neg
  | .real x => x

/-- Equality of numbers of one kind; the two floating-point zeros are the same. -/
def same : Number → Number → Bool
  | .real x, .real y => x.same y
  | a, b => a = b

theorem same_refl (a : Number) : same a a := by
  cases a <;> simp [same, Binary64.same_refl]

/-- **The text of a number.** -/
def text : Number → String
  | .natural n => toString n.toNat
  | .negSucc k => "-" ++ toString (k.val + 1)
  | .real x => x.text

end Number

end LoggingProvider
