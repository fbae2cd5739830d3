import LoggingProvider.Proofs.Endpoint.Record
import LoggingProvider.Proofs.Outcome
import LoggingProvider.Proofs.Remote.Store

/-!
# Spellings of a form

An interface answers with the fields of a form, but it is free in how it spells truth values and
counts, and in which members it adds. However each field of a form is spelled, the document is read
as the endpoint that a store keeps for a creation with this form.

## Main definitions

* `Endpoint.Kind.Spells`: the spellings of a value
* `Endpoint.Kind.Spelled`: the texts that spell a natural number
* `Endpoint.Writes`: the documents that write a name and settings

## Main results

* `Endpoint.Kind.spelledBelow?_eq_some_iff`: when a text spells a number below a bound
* `Endpoint.Kind.ofJson_of_spells`: every spelling of a value is read as the value
* `Endpoint.ofJson_eq_created`: a document is read as the endpoint that it writes
-/

namespace LoggingProvider

open Dict

namespace Endpoint

/-! ## Values -/

namespace Kind

/-- **The spellings of a value.** A text is spelled in one way, a truth value as itself, as a digit
or as a word, and a count as itself or by its decimal digits. -/
inductive Spells : (k : Kind) → k.Carrier → Json → Prop
  | text (s : String) : Spells .text s (.string s)
  | flag (b : Bool) : Spells .flag b (.bool b)
  | digit (b : Bool) : Spells .flag b (.ofNat b.toNat)
  | digitText (b : Bool) : Spells .flag b (.string (if b then "1" else "0"))
  | word (b : Bool) : Spells .flag b (.string (if b then "true" else "false"))
  | count (n : UInt64) : Spells .count n (.ofUInt64 n)
  | countText (n : UInt64) : Spells .count n (.string (toString n.toNat))

/-- **A text that spells a natural number**: decimal digits, with one plus sign before them or
none. -/
def Spelled (s : String) (n : Nat) : Prop :=
  ∃ sign ∈ ["", "+"], ∃ digits ≠ [], s.toList = sign.toList ++ digits ∧
    (∀ c ∈ digits, c.isDigit) ∧ Nat.ofDigitChars 10 digits 0 = n

/-- The digits of a number have a value exactly if all of them are digits. -/
theorem digitsValue_eq_some_iff {cs : List Char} {n m : Nat} :
    digitsValue cs n = some m ↔ (∀ c ∈ cs, c.isDigit) ∧ Nat.ofDigitChars 10 cs n = m := by
  induction cs generalizing n with
  | nil => simp [digitsValue, Nat.ofDigitChars]
  | cons c rest ih =>
    rw [digitsValue, List.forall_mem_cons, Nat.ofDigitChars_cons]
    by_cases hc : c.isDigit
    · rw [if_pos hc, ih, and_iff_right hc]
      rfl
    · simp [hc]

/-- **When a text spells a number below a bound.** -/
theorem spelledBelow?_eq_some_iff {bound n : Nat} {s : String} :
    spelledBelow? bound s = some n ↔ Spelled s n ∧ n < bound := by
  -- What is read of the digits, whatever stands before them.
  have hread : ∀ cs : List Char,
      (if cs.isEmpty then none else (digitsValue cs 0).filter (· < bound)) = some n ↔
        cs ≠ [] ∧ ((∀ c ∈ cs, c.isDigit) ∧ Nat.ofDigitChars 10 cs 0 = n) ∧ n < bound := by
    intro cs
    rw [Option.ite_none_left_eq_some, Option.filter_eq_some_iff, digitsValue_eq_some_iff,
      decide_eq_true_iff, List.isEmpty_iff]
  have hplus : ('+').isDigit = false := rfl
  unfold spelledBelow? Spelled
  simp only [List.mem_cons, List.not_mem_nil, or_false, exists_eq_or_imp, exists_eq_left]
  split
  · next rest hs =>
    rw [hread, hs]
    constructor
    · rintro ⟨hne, hvalue, hbound⟩
      exact ⟨.inr ⟨rest, hne, rfl, hvalue⟩, hbound⟩
    · rintro ⟨⟨digits, -, rfl, hdigits, -⟩ | ⟨digits, hne, hdigits, hvalue⟩, hbound⟩
      · exact absurd (hdigits _ List.mem_cons_self) (by simp [hplus])
      · obtain rfl : rest = digits := (List.cons.inj hdigits).2
        exact ⟨hne, hvalue, hbound⟩
  · next hs =>
    rw [hread]
    constructor
    · rintro ⟨hne, hvalue, hbound⟩
      exact ⟨.inl ⟨_, hne, rfl, hvalue⟩, hbound⟩
    · rintro ⟨⟨digits, hne, hdigits, hvalue⟩ | ⟨digits, -, hdigits, -⟩, hbound⟩
      · obtain rfl : s.toList = digits := hdigits
        exact ⟨hne, hvalue, hbound⟩
      · exact absurd hdigits (hs digits)

/-- The decimal digits of a number spell it. -/
theorem spelled_toString (n : Nat) : Spelled (toString n) n := by
  refine ⟨"", by simp, Nat.toDigits 10 n, Nat.toDigits_ne_nil, Nat.toList_repr, fun c hc => ?_,
    Nat.ofDigitChars_ten_toDigits⟩
  exact Nat.isDigit_of_mem_toDigits (by decide) (by decide) hc

theorem spelledBelow?_toString {bound n : Nat} (h : n < bound) :
    spelledBelow? bound (toString n) = some n :=
  spelledBelow?_eq_some_iff.2 ⟨spelled_toString n, h⟩

/-- **Every spelling of a value is read as the value.** -/
theorem ofJson_of_spells {k : Kind} {v : k.Carrier} {w : Json} (h : k.Spells v w) :
    k.ofJson w = .ok (some v) := by
  cases h with
  | text s | flag b | count n => rfl
  | digit b | digitText b | word b => cases b <;> rfl
  | countText n =>
    have hspelled : spelledBelow? 18446744073709551616 (toString n.toNat) = some n.toNat :=
      spelledBelow?_toString n.toNat_lt
    have hread : looseCount (.string (toString n.toNat)) = some n := by
      simp only [looseCount, hspelled, Option.map_some, UInt64.ofNat_toNat]
    exact congrArg Except.ok hread

end Kind

theorem Field.name_of_ofName? {n : String} {f : Field} (h : ofName? n = some f) : f.name = n :=
  of_decide_eq_true (List.find?_some (p := fun f : Field => decide (f.name = n)) h)

/-! ## Documents -/

/-- **The documents that write a name and settings**: under the name of each field that is set
stands a spelling of its value, and under that of any other field nothing. Members of other names
are free. -/
structure Writes (name : String) (settings : Settings) (d : Dict Json) : Prop where
  ordered : Ordered d
  name : value? d "name" = some (.string name)
  field (f : Field) : Option.Rel f.kind.Spells (settings f) (value? d f.name)

namespace Writes

variable {n : String} {settings : Settings} {d : Dict Json}

theorem fieldOf_eq (h : Writes n settings d) (f : Field) :
    fieldOf (value? d f.name) f = settings f := by
  have hf := h.field f
  generalize settings f = v, value? d f.name = w at hf
  cases hf with
  | none => rfl
  | some hspells => simp [fieldOf, Kind.ofJson_of_spells hspells]

/-- No member of the document is at fault. -/
theorem checkMember_eq_ok (h : Writes n settings d) {e : String × Json} (he : e ∈ d) :
    checkMember e.1 e.2 = .ok () := by
  obtain ⟨m, w⟩ := e
  have hw := h.ordered.mem_iff.1 he
  unfold checkMember
  split
  · next hm =>
    subst hm
    obtain rfl := Option.some.inj (hw.symm.trans h.name)
    rfl
  · split
    · next f hf =>
      have hm : f.name = m := Field.name_of_ofName? hf
      have hfield := h.field f
      rw [hm, hw] at hfield
      generalize settings f = v at hfield
      cases hfield with
      | some hspells => rw [Kind.ofJson_of_spells hspells]; rfl
    · rfl

theorem ofJson_eq_ok (h : Writes n settings d) : ofJson (.object d) = .ok ⟨n, settings⟩ := by
  have hcheck : Json.checkMembers d checkMember = .ok () :=
    Outcome.forM_eq_ok_iff.2 fun _ => h.checkMember_eq_ok
  have hname : Json.required d "name" Json.asText = .ok n := by
    rw [Json.required, h.name]
    rfl
  have hsettings : (fun f => fieldOf (value? d f.name) f) = settings := funext h.fieldOf_eq
  rw [ofJson, hcheck, hname, hsettings]
  rfl

end Writes

/-- **A document is read as the endpoint that it writes**, which is the one that a store keeps, and
answers with, for the creation with this name and these settings. -/
theorem ofJson_eq_created {n : String} {settings : Settings} {d : Dict Json}
    (h : Writes n settings d) :
    ∃ e : Endpoint, ofJson (.object d) = .ok e ∧ e.name = n ∧ (∀ f, e.settings f = settings f) ∧
      ∀ (s : Store) (t : Target), s.failure = none → s.find? t n = none →
        (s.answer (.create t n settings)).1 = .ok e ∧
          (s.answer (.create t n settings)).2.find? t n = some e := by
  refine ⟨⟨n, settings⟩, h.ofJson_eq_ok, rfl, fun _ => rfl, fun s t hs hfree => ⟨?_, ?_⟩⟩
  · have hname : ¬hasName (s.endpoints t) n := by
      rw [hasName, Option.not_isSome_iff_eq_none]
      exact hfree
    simp [Store.answer, hs, Store.serve, hname]
  · have hfound := Store.find?_answer (c := .create t n settings) (t := t) (n := n) hs rfl
    rw [hfound, hfree]
    exact if_pos rfl

/-- The members of an answer: truth values as words and digits, the largest count by its digits, and
a member that is no field. -/
def spelledAnswer : Dict Json :=
  [("brokers", .string "b"), ("created_at", .null), ("name", .string "k"),
    ("parse_log_keyvals", .ofNat 0), ("request_max_bytes", .string "18446744073709551615"),
    ("topic", .string "t"), ("use_tls", .string "true")]

/-- The settings of the form behind `spelledAnswer`. -/
def spelledSettings : Settings
  | .topic => some "t"
  | .brokers => some "b"
  | .useTls => some true
  | .parseLogKeyvals => some false
  | .requestMaxBytes => some 18446744073709551615
  | _ => none

theorem writes_spelledAnswer : Writes "k" spelledSettings spelledAnswer where
  ordered := ordered_of_names ["brokers", "created_at", "name", "parse_log_keyvals",
    "request_max_bytes", "topic", "use_tls"] rfl (by decide)
  name := rfl
  field f := by
    cases f
    case topic | brokers => exact .some (.text _)
    case useTls => exact .some (.word true)
    case parseLogKeyvals => exact .some (.digit false)
    case requestMaxBytes => exact .some (.countText 18446744073709551615)
    all_goals exact .none

theorem ofJson_eq_created_of_spelledAnswer :
    Writes "k" spelledSettings spelledAnswer ∧ ∃ e : Endpoint,
      ofJson (.object spelledAnswer) = .ok e ∧ e.settings .requestMaxBytes =
        some 18446744073709551615 ∧
      (Store.empty.answer (.create ⟨"svc", 1⟩ "k" spelledSettings)).2.find? ⟨"svc", 1⟩ "k" =
        some e := by
  obtain ⟨e, hread, -, hsettings, hstored⟩ := ofJson_eq_created writes_spelledAnswer
  exact ⟨writes_spelledAnswer, e, hread, hsettings .requestMaxBytes,
    (hstored Store.empty ⟨"svc", 1⟩ rfl rfl).2⟩

end Endpoint

end LoggingProvider
