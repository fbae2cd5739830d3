import LoggingProvider.Proofs.Endpoint.Conforming
import LoggingProvider.Proofs.Json.Number

/-!
# Counts in requests

A record may give a count as an integer or as a floating-point number. It is sent if the number
denotes a natural number, whatever the spelling, and no request is built for any other number. But a
natural number that does not fit 64 bits is not refused: the largest count is sent in its place. So
a request carries what the record says exactly when the number is less than two to the power 64.

## Main definitions

* `Call.Carries`: whether a request gives a field a count
* `Endpoint.CountSent`: what becomes of a number under the name of a count

## Main results

* `Endpoint.countOf_eq_some_iff`: the count that a number is read as
* `Endpoint.count_sent_exactly_iff`: when a number is sent, and when it is sent exactly
* `Endpoint.count_cut_off`: two to the power 64 is sent as one less
-/

namespace LoggingProvider

open Dict Reconcile

/-- **Whether a request gives a field a count.** -/
def Call.Carries (f : Endpoint.Field) (c : UInt64) : Call → Prop
  | .create _ _ settings | .update _ _ settings =>
    (settings f).map f.kind.formJson = some (.ofUInt64 c)
  | _ => False

namespace Endpoint

variable {kind : ServiceKind} {target : Target} {purpose : Purpose} {f : Field} {n : Number}
  {d : Dict Json}

/-- The largest count. -/
def largestCount : ℕ := 18446744073709551615

/-! ## The count that a number is read as -/

theorem toNat_le_largestCount (c : UInt64) : c.toNat ≤ largestCount :=
  Nat.le_of_lt_succ c.toNat_lt

/-- A natural number that is cut off at the largest count fits 64 bits. -/
theorem toNat_ofNat_min (k : ℕ) :
    (UInt64.ofNat (min k largestCount)).toNat = min k largestCount :=
  UInt64.toNat_ofNat_of_lt' (Nat.lt_succ_of_le (Nat.min_le_right _ _))

/-- **The count that a number is read as** is the natural number that it denotes, cut off at the
largest count. -/
theorem countOf_eq_some_iff {c : UInt64} :
    countOf n = some c ↔ ∃ k : ℕ, n.value = k ∧ c.toNat = min k largestCount := by
  simp only [Number.value_eq_natCast_iff]
  cases n with
  | natural m =>
    have hm : min m.toNat largestCount = m.toNat := Nat.min_eq_left (toNat_le_largestCount m)
    simp only [countOf, Option.some.injEq, exists_eq_left', hm]
    rw [UInt64.toNat_inj, eq_comm]
  | negSucc j => simp [countOf_negSucc]
  | real x =>
    unfold countOf Number.rounded
    simp only [Option.ite_none_right_eq_some, Option.some.injEq, Bool.and_eq_true,
      Bool.or_eq_true, Bool.not_eq_true']
    have hcut : UInt64.ofNat (min x.truncated 18446744073709551615) = c ↔
        c.toNat = min x.truncated largestCount := by
      rw [← toNat_ofNat_min, UInt64.toNat_inj, eq_comm]
      rfl
    rw [hcut]
    constructor
    · rintro ⟨⟨hintegral, hsign⟩, hc⟩
      exact ⟨_, ⟨hintegral, hsign, rfl⟩, hc⟩
    · rintro ⟨_, ⟨hintegral, hsign, rfl⟩, hc⟩
      exact ⟨⟨hintegral, hsign⟩, hc⟩

/-- A number is read as a count exactly if it denotes a natural number. -/
theorem exists_countOf_iff : (∃ c, countOf n = some c) ↔ ∃ k : ℕ, n.value = k := by
  constructor
  · rintro ⟨c, hc⟩
    obtain ⟨k, hk, -⟩ := countOf_eq_some_iff.1 hc
    exact ⟨k, hk⟩
  · rintro ⟨k, hk⟩
    exact ⟨_, countOf_eq_some_iff.2 ⟨k, hk, toNat_ofNat_min k⟩⟩

/-- The count is the number itself unless the number is too large. -/
theorem value_eq_toNat_iff {c : UInt64} (h : countOf n = some c) :
    n.value = c.toNat ↔ n.value < UInt64.size := by
  obtain ⟨k, hk, hc⟩ := countOf_eq_some_iff.1 h
  rw [hk, hc, Nat.cast_inj, Nat.cast_lt]
  unfold largestCount UInt64.size
  omega

/-! ## What is sent for a number -/

theorem Kind.read_number_eq_ok_iff {k : Kind} (hk : k = .count) (name : String)
    {u : Option k.Carrier} : k.read name purpose (some (.number n)) = .ok u ↔
      ∃ c, countOf n = some c ∧ u.map k.formJson = some (.ofUInt64 c) := by
  subst hk
  rw [Kind.read_number]
  cases countOf n with
  | none => simp
  | some c => cases u <;> simp [formJson, Json.ofUInt64, eq_comm]

theorem Kind.exists_read_number_iff {k : Kind} (hk : k = .count) (name : String) :
    (∃ u, k.read name purpose (some (.number n)) = .ok u) ↔ ∃ c, countOf n = some c := by
  subst hk
  rw [Kind.read_number]
  cases countOf n <;> simp

/-- **The number is an obstacle** to a request exactly if it denotes no natural number. -/
theorem exists_settingsFor_iff (hf : f.registered kind) (hcount : f.kind = .count)
    (hv : value? d f.name = some (.number n)) :
    (∃ settings, settingsFor kind purpose d = .ok settings) ↔ (∃ k : ℕ, n.value = k) ∧
      ∀ g : Field, g.registered kind → g ≠ f → ∃ u, g.read purpose d = .ok u := by
  have hread : (∃ u, f.read purpose d = .ok u) ↔ ∃ k : ℕ, n.value = k := by
    unfold Field.read
    rw [hv, Kind.exists_read_number_iff hcount, exists_countOf_iff]
  rw [← hread]
  constructor
  · rintro ⟨settings, hs⟩
    have hall := (settingsFor_eq_ok_iff.1 hs).1
    exact ⟨⟨_, hall f hf⟩, fun g hg _ => ⟨_, hall g hg⟩⟩
  · rintro ⟨hnumber, hothers⟩
    refine exists_settingsFor fun g hg => ?_
    by_cases hgf : g = f
    · exact hgf ▸ hnumber
    · exact hothers g hg hgf

/-- What is sent for the number is the count that it is read as. -/
theorem exists_count_of_settingsFor {settings : Settings} (hf : f.registered kind)
    (hcount : f.kind = .count) (hv : value? d f.name = some (.number n))
    (hs : settingsFor kind purpose d = .ok settings) :
    ∃ c, countOf n = some c ∧ (settings f).map f.kind.formJson = some (.ofUInt64 c) := by
  have hread := (settingsFor_eq_ok_iff.1 hs).1 f hf
  unfold Field.read at hread
  rw [hv] at hread
  exact (Kind.read_number_eq_ok_iff hcount _).1 hread

/-! ## Requests -/

/-- **What becomes of a number** under the name of a count, when a request is built from the members
of an object and from a name. -/
structure CountSent (kind : ServiceKind) (purpose : Purpose) (d : Dict Json)
    (name : Except DiffFault String) (f : Field) (n : Number) (outcome : Except Fault Call) :
    Prop where
  /-- The request is built exactly if there is a name, the number denotes a natural number, and the
  other fields can be read. -/
  built_iff : (∃ call, outcome = .ok call) ↔ (∃ m, name = .ok m) ∧ (∃ k : ℕ, n.value = k) ∧
    ∀ g : Field, g.registered kind → g ≠ f → ∃ u, g.read purpose d = .ok u
  /-- The request carries the number, cut off at the largest count, so it carries the number itself
  exactly if this fits 64 bits. -/
  carried : ∀ call, outcome = .ok call → ∃ c : UInt64, call.Carries f c ∧
    (c.toNat : ℚ) = min n.value largestCount ∧ (n.value = c.toNat ↔ n.value < UInt64.size)
  /-- Otherwise there is no name, or the members are not valid. -/
  refused : ∀ fault, outcome = .error fault →
    (∃ cause, name = .error cause ∧ fault = .diff cause) ∨ ∃ m, fault = .validation m

/-- The count that is sent for a number. -/
theorem toNat_eq_min {c : UInt64} (h : countOf n = some c) :
    (c.toNat : ℚ) = min n.value largestCount := by
  obtain ⟨k, hk, hc⟩ := countOf_eq_some_iff.1 h
  rw [hk, hc, Nat.cast_min]

/-- A request that has a name and the fields read of some members sends a number among them. -/
theorem CountSent.of_settingsFor {name : Except DiffFault String} {outcome : Except Fault Call}
    (hf : f.registered kind) (hcount : f.kind = .count)
    (hv : value? d f.name = some (.number n)) (build : String → Settings → Call)
    (hbuild : ∀ m settings c, (settings f).map f.kind.formJson = some (.ofUInt64 c) →
      (build m settings).Carries f c)
    (hok : ∀ call, outcome = .ok call ↔ ∃ m settings, name = .ok m ∧
      settingsFor kind purpose d = .ok settings ∧ call = build m settings)
    (hunnamed : ∀ cause, name = .error cause → outcome = .error (.diff cause))
    (hnamed : ∀ m fault, name = .ok m → outcome = .error fault → ∃ text, fault = .validation text) :
    CountSent kind purpose d name f n outcome where
  built_iff := by
    rw [← exists_settingsFor_iff hf hcount hv]
    simp only [hok]
    constructor
    · rintro ⟨_, m, settings, hm, hs, -⟩
      exact ⟨⟨m, hm⟩, settings, hs⟩
    · rintro ⟨⟨m, hm⟩, settings, hs⟩
      exact ⟨_, m, settings, hm, hs, rfl⟩
  carried := by
    intro call hcall
    obtain ⟨m, settings, -, hs, rfl⟩ := (hok call).1 hcall
    obtain ⟨c, hc, hsent⟩ := exists_count_of_settingsFor hf hcount hv hs
    exact ⟨c, hbuild m settings c hsent, toNat_eq_min hc, value_eq_toNat_iff hc⟩
  refused := by
    intro fault hfault
    cases name with
    | ok m => exact .inr (hnamed m fault rfl hfault)
    | error cause =>
      exact .inl ⟨cause, rfl, Except.error.inj (hfault.symm.trans (hunnamed cause rfl))⟩

/-- A creation sends a number under the name of a count. -/
theorem countSent_createCall (hf : f.registered kind) (hcount : f.kind = .count)
    (hv : value? d f.name = some (.number n)) :
    CountSent kind .create d (nameOf (.object d)) f n (createCall kind target (.object d)) := by
  refine .of_settingsFor hf hcount hv (.create target) (fun _ _ _ h => h) (fun call => ?_) ?_ ?_
  · rw [createCall_eq_ok_iff]
    constructor
    · rintro ⟨_, m, settings, hd, hm, hs, hcall⟩
      obtain rfl := Json.object.inj hd
      exact ⟨m, settings, hm, hs, hcall⟩
    · rintro ⟨m, settings, hm, hs, hcall⟩
      exact ⟨d, m, settings, rfl, hm, hs, hcall⟩
  · intro cause hcause
    unfold createCall recordName
    rw [hcause]
    rfl
  · intro m fault hm hfault
    exact exists_validation_of_createCall hm hfault

/-- An update sends a number under the name of a count. -/
theorem countSent_updateCall (r : Json) (hf : f.registered kind) (hcount : f.kind = .count)
    (hv : value? d f.name = some (.number n)) :
    CountSent kind .update d (nameOf r) f n (updateCall kind target r d) := by
  refine .of_settingsFor hf hcount hv (.update target) (fun _ _ _ h => h)
    (fun call => updateCall_eq_ok_iff) ?_ ?_
  · intro cause hcause
    unfold updateCall recordName
    rw [hcause]
    rfl
  · intro m fault hm hfault
    exact exists_validation_of_updateCall hm hfault

/-- **When a number is sent, and when it is sent exactly**, in a creation and in an update: it is
sent if it denotes a natural number, and exactly if it is less than two to the power 64. -/
theorem count_sent_exactly_iff (kind : ServiceKind) (target : Target) {f : Field}
    (hf : f.registered kind) (hcount : f.kind = .count) (n : Number) :
    (∀ d, value? d f.name = some (.number n) →
      CountSent kind .create d (nameOf (.object d)) f n (createCall kind target (.object d))) ∧
    ∀ r changed, value? changed f.name = some (.number n) →
      CountSent kind .update changed (nameOf r) f n (updateCall kind target r changed) :=
  ⟨fun _ hv => countSent_createCall hf hcount hv,
    fun r _ hv => countSent_updateCall r hf hcount hv⟩

/-! ## Three floating-point numbers -/

/-- A power of two, told by its exponent field. -/
def powerOfTwo (exponent : Fin 2047) : Binary64 := { Binary64.zero with exponent }

/-- The members of a record with the size of a batch. -/
def batched (n : Number) : Dict Json := [("name", .string "k"), ("request_max_bytes", .number n)]

/-- Only the size of a batch can be an obstacle to a request for this record. -/
theorem exists_read_batched {g : Field} (hg : g ≠ .requestMaxBytes) :
    ∃ u, g.read purpose (batched n) = .ok u := by
  cases g with
  | requestMaxBytes => exact absurd rfl hg
  | _ => exact ⟨_, rfl⟩

/-- One half is no number of bytes, and the version two of the format is sent. -/
theorem count_sent_exactly_iff_of_powers :
    (∃ m, createCall .compute ⟨"svc", 1⟩ (.object (batched (.real (powerOfTwo 1022)))) =
      .error (.validation m)) ∧
    ∃ call, updateCall .vcl ⟨"svc", 1⟩ (.object [("name", .string "k")])
      [("format_version", .number (.real (powerOfTwo 1024)))] = .ok call ∧
        call.Carries .formatVersion 2 := by
  constructor
  · have hsent := (count_sent_exactly_iff .compute ⟨"svc", 1⟩ (f := .requestMaxBytes) rfl rfl
      (.real (powerOfTwo 1022))).1 (batched _) rfl
    have hvalue : ¬∃ k : ℕ, (Number.real (powerOfTwo 1022)).value = k := by
      rintro ⟨k, hk⟩
      exact absurd (Number.value_eq_natCast_iff.1 hk).1 (by decide +kernel)
    cases hcall : createCall .compute ⟨"svc", 1⟩ (.object (batched (.real (powerOfTwo 1022)))) with
    | ok call => exact absurd (hsent.built_iff.1 ⟨call, hcall⟩).2.1 hvalue
    | error fault =>
      rcases hsent.refused fault hcall with ⟨cause, hname, -⟩ | ⟨m, rfl⟩
      · cases hname
      · exact ⟨m, rfl⟩
  · have hsent := (count_sent_exactly_iff .vcl ⟨"svc", 1⟩ (f := .formatVersion) rfl rfl
      (.real (powerOfTwo 1024))).2 (.object [("name", .string "k")])
        [("format_version", .number (.real (powerOfTwo 1024)))] rfl
    have hvalue : (Number.real (powerOfTwo 1024)).value = (2 : ℕ) :=
      Number.value_eq_natCast_iff.2 ⟨by decide +kernel, .inl rfl, by decide +kernel⟩
    obtain ⟨call, hcall⟩ := hsent.built_iff.2 ⟨⟨"k", rfl⟩, ⟨2, hvalue⟩, fun g _ hg => by
      cases g with
      | formatVersion => exact absurd rfl hg
      | _ => exact ⟨_, rfl⟩⟩
    obtain ⟨c, hc, -, hexact⟩ := hsent.carried call hcall
    refine ⟨call, hcall, ?_⟩
    have hfits : (Number.real (powerOfTwo 1024)).value < UInt64.size := by
      rw [hvalue, Nat.cast_lt]
      decide
    have htwo : (2 : ℕ) = c.toNat := Nat.cast_inj.1 (hvalue.symm.trans (hexact.2 hfits))
    obtain rfl : (2 : UInt64) = c := UInt64.toNat_inj.1 htwo
    exact hc

/-- **A number that does not fit is sent all the same**: two to the power 64, as one less. -/
theorem count_cut_off : ∃ call,
    createCall .vcl ⟨"svc", 1⟩ (.object (batched (.real (powerOfTwo 1087)))) = .ok call ∧
      (Number.real (powerOfTwo 1087)).value = (18446744073709551616 : ℕ) ∧
      call.Carries .requestMaxBytes 18446744073709551615 := by
  have hvalue : (Number.real (powerOfTwo 1087)).value = (18446744073709551616 : ℕ) :=
    Number.value_eq_natCast_iff.2 ⟨by decide +kernel, .inl rfl, by decide +kernel⟩
  have hsent : CountSent .vcl .create (batched (.real (powerOfTwo 1087))) (.ok "k")
      .requestMaxBytes (.real (powerOfTwo 1087))
      (createCall .vcl ⟨"svc", 1⟩ (.object (batched (.real (powerOfTwo 1087))))) :=
    countSent_createCall rfl rfl rfl
  obtain ⟨call, hcall⟩ := hsent.built_iff.2
    ⟨⟨"k", rfl⟩, ⟨_, hvalue⟩, fun g _ hg => exists_read_batched hg⟩
  obtain ⟨c, hc, hmin, -⟩ := hsent.carried call hcall
  refine ⟨call, hcall, hvalue, ?_⟩
  rw [hvalue, ← Nat.cast_min, Nat.cast_inj] at hmin
  obtain rfl : c = 18446744073709551615 := UInt64.toNat_inj.1 hmin
  exact hc

end Endpoint

end LoggingProvider
