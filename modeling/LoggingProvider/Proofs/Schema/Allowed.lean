import LoggingProvider.Proofs.Json.Rounding
import LoggingProvider.Proofs.Schema.Conformance

/-!
# Allowed values

A value of an attribute is accepted if it equals one of the allowed values. Two numbers are equal if
they have one value, whichever their kinds are, and everything else is compared by structure, so the
numbers in two lists have to be of one kind. The comparison goes through floating-point numbers, and
it takes two numbers for equal if they round alike. So a value is accepted also if it is confused
with an allowed value, where one of the two is an integer beyond two to the power 53. What an
attribute that is computed holds is not looked at.

## Main definitions

* `Json.Equals`: values that are equal, where numbers of one value are
* `Json.Confused`: numbers that are taken for equal and are not

## Main results

* `Json.sameValue_iff`: what the comparison finds
* `Attribute.diagnose_eq_nil_iff_of_admits`: which values of an attribute are accepted
* `Attribute.allowed_matched_iff`: the same for a schema of one attribute
* `Attribute.unequal_number_accepted`: a value that is accepted and equals no allowed value
-/

namespace LoggingProvider

open Dict

namespace Json

/-- **Equality of values**: numbers are equal if they have one value, all else by structure. -/
def Equals : Json → Json → Prop
  | .number a, .number b => a.value = b.value
  | u, v => (u == v) = true

/-- **Numbers that are taken for equal and are not.** -/
def Confused (u v : Json) : Prop :=
  ∃ a b, u = .number a ∧ v = .number b ∧ a.Confused b

/-- An integer beyond two to the power 53. -/
def Wide (v : Json) : Prop := ∃ n, v = .number n ∧ n.Wide

variable {u v : Json}

theorem confused_number_iff {a b : Number} : Confused (.number a) (.number b) ↔ a.Confused b := by
  constructor
  · rintro ⟨_, _, ⟨⟩, ⟨⟩, h⟩
    exact h
  · exact fun h => ⟨a, b, rfl, rfl, h⟩

theorem wide_number_iff {n : Number} : Wide (.number n) ↔ n.Wide := by
  constructor
  · rintro ⟨_, ⟨⟩, h⟩
    exact h
  · exact fun h => ⟨n, rfl, h⟩

/-- **What the comparison finds**: values that are equal, and numbers that are confused. -/
theorem sameValue_iff : u.sameValue v ↔ u.Equals v ∨ u.Confused v := by
  cases u with
  | number a =>
    cases v with
    | number b =>
      rw [confused_number_iff]
      exact Number.same_rounded_iff_value_eq_or_confused
    | _ => simp [sameValue, Equals, Confused]
  | _ => simp [sameValue, Equals, Confused]

/-- One of two values that are confused is an integer beyond two to the power 53. -/
theorem Confused.wide (h : u.Confused v) : u.Wide ∨ v.Wide := by
  obtain ⟨a, b, rfl, rfl, hconfused⟩ := h
  exact hconfused.wide.imp wide_number_iff.2 wide_number_iff.2

end Json

namespace Attribute

variable {a : Attribute} {v : Json}

/-- **Which values of an attribute are accepted.** -/
theorem diagnose_eq_nil_iff_of_admits (hallowed : a.allowed ≠ []) (htype : a.type.Admits v)
    (path : String) : a.diagnose (some v) path = [] ↔
      a.computedOnly ∨ (∃ u ∈ a.allowed, u.Equals v) ∨ ∃ u ∈ a.allowed, u.Confused v := by
  have hmatched : (∃ u ∈ a.allowed, u.sameValue v) ↔
      (∃ u ∈ a.allowed, u.Equals v) ∨ ∃ u ∈ a.allowed, u.Confused v := by
    simp only [Json.sameValue_iff, and_or_left, exists_or]
  rw [diagnose_eq_nil_iff, ← hmatched]
  constructor
  · intro h
    by_cases hcomputed : a.computedOnly
    · exact .inl hcomputed
    · have hnull : v ≠ .null := fun hv => a.type.not_admits_null (hv ▸ htype)
      exact .inr ((h.admits hcomputed hnull).2 hallowed)
  · rintro (hcomputed | hmatch)
    · exact .computed hcomputed _
    · exact .value htype fun _ => hmatch

/-- The findings of a schema of one attribute are those of the attribute. -/
theorem validate_withAttribute (a : Attribute) (version : UInt64) (n : String) (v : Json) :
    ((Schema.empty version).withAttribute n a).validate (.object [(n, v)]) =
      a.diagnose (some v) n := by
  have hlookup : value? [(n, v)] n = some v := by
    rw [value?_cons, if_pos rfl]
  have hpath : Schema.joinPath "" n = n := rfl
  change ([(n, a)].flatMap fun e => e.2.diagnose (value? [(n, v)] e.1) (Schema.joinPath "" e.1)) ++
    [] = _
  rw [List.append_nil, List.flatMap_singleton, hlookup, hpath]

/-- **Which values of an attribute are accepted** where some are allowed: those that equal an
allowed value, and no others but the numbers that are confused with an allowed one, where one of the
two is an integer beyond two to the power 53. Nothing is looked at in an attribute that is
computed. -/
theorem allowed_matched_iff (hallowed : a.allowed ≠ []) (htype : a.type.Admits v)
    (version : UInt64) (n : String) :
    (((Schema.empty version).withAttribute n a).validate (.object [(n, v)]) = [] ↔
      a.computedOnly ∨ (∃ u ∈ a.allowed, u.Equals v) ∨ ∃ u ∈ a.allowed, u.Confused v) ∧
    (∀ path, a.diagnose (some v) path = [] ↔
      a.computedOnly ∨ (∃ u ∈ a.allowed, u.Equals v) ∨ ∃ u ∈ a.allowed, u.Confused v) ∧
    ∀ u ∈ a.allowed, u.Confused v → u.Wide ∨ v.Wide := by
  refine ⟨?_, diagnose_eq_nil_iff_of_admits hallowed htype, fun u _ h => h.wide⟩
  rw [validate_withAttribute]
  exact diagnose_eq_nil_iff_of_admits hallowed htype n

/-- Where two is allowed, the number 2.0 is accepted, and three is not. -/
theorem allowed_matched_iff_of_two :
    let a := requiredInt64.withAllowed [.number (.natural 2)]
    let s := (Schema.empty 0).withAttribute "digit" a
    s.validate (.object [("digit", .number (.real ⟨false, 1024, 0⟩))]) = [] ∧
      s.validate (.object [("digit", .number (.natural 3))]) ≠ [] := by
  intro a s
  have hallowed : a.allowed ≠ [] := List.cons_ne_nil _ _
  have hsmall : ¬Json.Wide (.number (.natural 2)) ∧ ¬Json.Wide (.number (.natural 3)) := by
    rw [Json.wide_number_iff, Json.wide_number_iff]
    decide
  constructor
  · have htwo : Binary64.value ⟨false, 1024, 0⟩ = (2 : ℕ) := by
      rw [Binary64.value_eq_natCast_iff]
      decide +kernel
    have htyped : Number.Within (-2 ^ 63) (2 ^ 63 + 1024) (.real ⟨false, 1024, 0⟩) :=
      Number.isInt64_iff.1 (by decide +kernel)
    refine (allowed_matched_iff hallowed (.int64 htyped) 0 "digit").1.2 ?_
    exact .inr (.inl ⟨_, List.mem_singleton.2 rfl, htwo.symm⟩)
  · intro h
    obtain ⟨haccepted, -, hwide⟩ := allowed_matched_iff hallowed (v := .number (.natural 3))
      (.int64 (Number.isInt64_iff.1 (by decide +kernel))) 0 "digit"
    rcases haccepted.1 h with hcomputed | ⟨u, hu, heq⟩ | ⟨u, hu, hconfused⟩
    · cases hcomputed
    · obtain rfl := List.mem_singleton.1 hu
      have htwo : ((2 : UInt64).toNat : ℚ) = (3 : UInt64).toNat := heq
      exact absurd (Nat.cast_inj.1 htwo) (by decide)
    · have hw := hwide u hu hconfused
      obtain rfl := List.mem_singleton.1 hu
      exact hw.elim hsmall.1 hsmall.2

/-- Where two to the power 53 is allowed, the next integer is accepted. -/
theorem unequal_number_accepted :
    let a := requiredInt64.withAllowed [.number (.natural 9007199254740992)]
    let v := Json.number (.natural 9007199254740993)
    ((Schema.empty 0).withAttribute "digit" a).validate (.object [("digit", v)]) = [] ∧
      a.type.Admits v ∧ ¬a.computedOnly ∧ ¬∃ u ∈ a.allowed, u.Equals v := by
  intro a v
  refine ⟨List.isEmpty_iff.1 (by decide +kernel),
    .int64 (Number.isInt64_iff.1 (by decide +kernel)), by decide, ?_⟩
  rintro ⟨u, hu, heq⟩
  obtain rfl := List.mem_singleton.1 hu
  have hvalues : ((9007199254740992 : UInt64).toNat : ℚ) = (9007199254740993 : UInt64).toNat := heq
  exact absurd (Nat.cast_inj.1 hvalues) (by decide)

end Attribute

end LoggingProvider
