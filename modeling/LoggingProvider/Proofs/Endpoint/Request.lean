import LoggingProvider.Endpoint.Request
import LoggingProvider.Proofs.Binary64
import LoggingProvider.Proofs.Endpoint.Record
import LoggingProvider.Proofs.Outcome
import LoggingProvider.Proofs.Reconcile.Named

/-!
# What requests send

A request sends a value or none for each registered field and nothing for the others. The endpoint
that is created for a record has that record. The request that updates an endpoint sends nothing for
a member that stays as it is, and for any other a value that the endpoint then shows as the record
does: a text that is gone is cleared, and truth values and counts are never gone from a record.

## Main results

* `Endpoint.settingsFor_eq_ok_iff`: the fields that are sent
* `Endpoint.createCall_eq_ok_iff`, `Endpoint.updateCall_eq_ok_iff`, `Endpoint.deleteCall_eq_ok_iff`:
  when a request can be built
* `Endpoint.exists_validation_of_createCall`, `Endpoint.exists_validation_of_updateCall`: why none can
  be built
* `Endpoint.IsRecord.exists_create`: the request that creates the endpoint of a record
* `Endpoint.IsRecord.exists_update`: the request for what changed in a record
-/

namespace LoggingProvider

namespace Endpoint

open Dict Reconcile

variable {kind : ServiceKind} {target : Target} {purpose : Purpose} {f : Field}

theorem Field.mem_readOrder : f ∈ Field.readOrder kind ↔ f.registered kind := by
  unfold Field.readOrder Field.registered
  cases kind <;> cases h : f.vclOnly <;> simp [h, Field.mem_all]

/-! ## The fields that are sent -/

/-- **The fields that are sent**: what is read of each registered field, and none of the others. -/
theorem settingsFor_eq_ok_iff {d : Dict Json} {settings : Settings} :
    settingsFor kind purpose d = .ok settings ↔
      (∀ f : Field, f.registered kind → f.read purpose d = .ok (settings f)) ∧
        ∀ f : Field, ¬f.registered kind → settings f = none := by
  unfold settingsFor
  simp only [Outcome.bind_eq_ok_iff, Outcome.pure_eq_ok_iff]
  constructor
  · rintro ⟨_, hall, rfl⟩
    refine ⟨fun f hf => ?_, fun f hf => if_neg hf⟩
    obtain ⟨v, hv, -⟩ :=
      Outcome.map_eq_ok_iff.1 (Outcome.forM_eq_ok_iff.1 hall f (Field.mem_readOrder.2 hf))
    rw [readable, if_pos hf, hv]
  · rintro ⟨hreg, hother⟩
    refine ⟨(), Outcome.forM_eq_ok_iff.2 fun f hf => ?_, funext fun f => ?_⟩
    · rw [hreg f (Field.mem_readOrder.1 hf)]
      rfl
    · by_cases hf : f.registered kind
      · rw [readable, if_pos hf, hreg f hf]
      · rw [readable, if_neg hf, hother f hf]

/-- Fields are sent if each registered one can be read. -/
theorem exists_settingsFor {d : Dict Json}
    (h : ∀ f : Field, f.registered kind → ∃ v, f.read purpose d = .ok v) :
    ∃ settings, settingsFor kind purpose d = .ok settings := by
  refine ⟨readable kind purpose d, settingsFor_eq_ok_iff.2 ⟨fun f hf => ?_, fun f hf => if_neg hf⟩⟩
  obtain ⟨v, hv⟩ := h f hf
  rw [readable, if_pos hf, hv]

/-! ## When a request can be built -/

theorem deleteCall_eq_ok_iff {r : Json} {c : Call} : deleteCall target r = .ok c ↔
    ∃ n, nameOf r = .ok n ∧ c = .delete target n := by
  unfold deleteCall recordName
  simp only [Outcome.bind_eq_ok_iff, Outcome.mapError_eq_ok_iff, Outcome.pure_eq_ok_iff]

theorem recordObject_eq_ok_iff {r : Json} {d : Dict Json} :
    recordObject r = .ok d ↔ r = .object d := by
  unfold recordObject Json.members?
  cases r <;> simp

theorem createCall_eq_ok_iff {r : Json} {c : Call} : createCall kind target r = .ok c ↔
    ∃ d n settings, r = .object d ∧ nameOf r = .ok n ∧
      settingsFor kind .create d = .ok settings ∧ c = .create target n settings := by
  unfold createCall recordName
  simp only [Outcome.bind_eq_ok_iff, Outcome.mapError_eq_ok_iff, Outcome.pure_eq_ok_iff,
    recordObject_eq_ok_iff]
  constructor
  · rintro ⟨d, hd, n, hn, settings, hs, hc⟩
    exact ⟨d, n, settings, hd, hn, hs, hc⟩
  · rintro ⟨d, n, settings, hd, hn, hs, hc⟩
    exact ⟨d, hd, n, hn, settings, hs, hc⟩

theorem updateCall_eq_ok_iff {r : Json} {changed : Dict Json} {c : Call} :
    updateCall kind target r changed = .ok c ↔
      ∃ n settings, nameOf r = .ok n ∧ settingsFor kind .update changed = .ok settings ∧
        c = .update target n settings := by
  unfold updateCall recordName
  simp only [Outcome.bind_eq_ok_iff, Outcome.mapError_eq_ok_iff, Outcome.pure_eq_ok_iff]
  constructor
  · rintro ⟨n, hn, settings, hs, hc⟩
    exact ⟨n, settings, hn, hs, hc⟩
  · rintro ⟨n, settings, hn, hs, hc⟩
    exact ⟨n, hn, settings, hs, hc⟩

/-! ## Why a request cannot be built -/

/-- A member that cannot be read holds a wrong value. -/
theorem Kind.exists_validation_of_read {k : Kind} {name : String} {v : Option Json} {fault : Fault}
    (h : k.read name purpose v = .error fault) : ∃ m, fault = .validation m := by
  unfold Kind.read at h
  split at h
  case h_4 => split at h <;> cases h
  case h_8 =>
    split at h
    · cases h
    · exact ⟨_, (Except.error.inj h).symm⟩
  all_goals cases h
  all_goals exact ⟨_, rfl⟩

theorem exists_validation_of_settingsFor {d : Dict Json} {fault : Fault}
    (h : settingsFor kind purpose d = .error fault) : ∃ m, fault = .validation m := by
  rcases Outcome.bind_eq_error_iff.1 h with hread | ⟨_, -, hpure⟩
  · obtain ⟨f, -, hf⟩ := Outcome.exists_of_forM_eq_error hread
    cases hv : f.read purpose d with
    | ok v =>
      rw [hv] at hf
      cases hf
    | error cause =>
      rw [hv] at hf
      obtain rfl := Except.error.inj hf
      exact Kind.exists_validation_of_read hv
  · cases hpure

/-- **Why a named record cannot be created**: it is not valid. -/
theorem exists_validation_of_createCall {r : Json} {n : String} {fault : Fault}
    (hn : nameOf r = .ok n) (h : createCall kind target r = .error fault) :
    ∃ m, fault = .validation m := by
  have hname : recordName r = .ok n := Outcome.mapError_eq_ok_iff.2 hn
  unfold createCall at h
  rcases Outcome.bind_eq_error_iff.1 h with hobject | ⟨d, -, h⟩
  · unfold recordObject at hobject
    split at hobject
    · cases hobject
    · exact ⟨_, (Except.error.inj hobject).symm⟩
  · rw [hname] at h
    rcases Outcome.bind_eq_error_iff.1 h with hok | ⟨_, -, h⟩
    · cases hok
    · rcases Outcome.bind_eq_error_iff.1 h with hsettings | ⟨_, -, hpure⟩
      · exact exists_validation_of_settingsFor hsettings
      · cases hpure

/-- **Why a named record cannot be updated**: what changed in it is not valid. -/
theorem exists_validation_of_updateCall {r : Json} {n : String} {changed : Dict Json}
    {fault : Fault} (hn : nameOf r = .ok n)
    (h : updateCall kind target r changed = .error fault) : ∃ m, fault = .validation m := by
  have hname : recordName r = .ok n := Outcome.mapError_eq_ok_iff.2 hn
  unfold updateCall at h
  rw [hname] at h
  rcases Outcome.bind_eq_error_iff.1 h with hok | ⟨_, -, h⟩
  · cases hok
  · rcases Outcome.bind_eq_error_iff.1 h with hsettings | ⟨_, -, hpure⟩
    · exact exists_validation_of_settingsFor hsettings
    · cases hpure

/-! ## What is read of a record -/

/-- For a creation every field is read alike. -/
theorem Field.purpose_create : f.purpose .create = .create := by
  simp [purpose]

/-- Nothing is sent for a member that is absent. -/
theorem Kind.read_none (k : Kind) (name : String) (purpose : Purpose) :
    k.read name purpose none = .ok none := by
  cases k <;> rfl

/-- Nothing is sent of null for a creation. -/
theorem Kind.read_null_create (k : Kind) (name : String) :
    k.read name .create (some .null) = .ok none := by
  cases k <;> rfl

/-- For an update null is what clears the field. -/
theorem Kind.read_null_update (k : Kind) (name : String) :
    k.read name .update (some .null) = .ok (some k.cleared) := by
  cases k <;> rfl

/-- A value of its own kind is read as what it holds; of a text for a creation, the empty one is
left out. -/
theorem Kind.read_toJson {k : Kind} {name : String} (c : k.Carrier)
    (h : purpose = .create → (k.toJson c).isUnset = false) :
    k.read name purpose (some (k.toJson c)) = .ok (some c) := by
  cases k with
  | text =>
    have hne : ¬(purpose = .create ∧ c = "") := by
      rintro ⟨hcreate, rfl⟩
      cases h hcreate
    cases purpose with
    | create => exact if_neg hne
    | update => rfl
  | flag => cases purpose <;> rfl
  | count => cases purpose <;> rfl

/-- A negative integer is no count. -/
theorem countOf_negSucc (k : Fin 9223372036854775808) : countOf (.negSucc k) = none := by
  obtain ⟨hnegative, hzero⟩ := Number.rounded_negSucc k
  unfold countOf
  simp only
  -- The number is kept opaque, for its fields are far too large to compute with.
  generalize Number.rounded (.negSucc k) = x at *
  rw [hnegative, hzero, Bool.not_true, Bool.or_self, Bool.and_false]
  rfl

/-- The integers that are counts. -/
theorem eq_natural_of_countOf {n : Number} (hfree : (Json.number n).FloatFree) {c : UInt64}
    (h : countOf n = some c) : n = .natural c := by
  cases n with
  | natural c' => exact congrArg Number.natural (Option.some.inj h)
  | negSucc k =>
    rw [countOf_negSucc] at h
    cases h
  | real x => cases hfree

/-- What is read of a number is the count that it denotes. -/
theorem Kind.read_number (name : String) (n : Number) :
    Kind.count.read name purpose (some (.number n)) =
      match countOf n with
      | some c => .ok (some c)
      | none => .error (wrongMember name "non-negative integer" (.number n)) := by
  cases purpose <;> rfl

/-- What a creation sends for a value that is set and no floating-point number is this value. -/
theorem Kind.eq_toJson_of_read {k : Kind} {name : String} {v : Json} {u : Option k.Carrier}
    (h : k.read name .create (some v) = .ok u) (hset : v.isUnset = false) (hfree : v.FloatFree) :
    ∃ c, u = some c ∧ v = k.toJson c := by
  cases v with
  | null => cases hset
  | bool b =>
    cases k with
    | flag => exact ⟨b, (Except.ok.inj h).symm, rfl⟩
    | _ => cases h
  | number n =>
    cases k with
    | count =>
      rw [Kind.read_number] at h
      cases hc : countOf n with
      | none =>
        rw [hc] at h
        cases h
      | some c =>
        rw [hc] at h
        exact ⟨c, (Except.ok.inj h).symm, congrArg Json.number (eq_natural_of_countOf hfree hc)⟩
    | _ => cases h
  | string s =>
    cases k with
    | text =>
      have hread : Kind.text.read name .create (some (Kind.text.toJson s)) = .ok (some s) :=
        Kind.read_toJson (k := .text) s fun _ => hset
      exact ⟨s, Except.ok.inj (h.symm.trans hread), rfl⟩
    | _ => cases h
  | array items => cases k <;> cases h
  | object d => cases k <;> cases h

/-- A text that is cleared is not shown. -/
theorem Field.shown_cleared (h : f.kind = .text) : f.shown (some f.kind.cleared) = none := by
  have hunset : (f.kind.toJson f.kind.cleared).isUnset := by
    rw [h]
    rfl
  rw [Field.shown, Option.map_some, Attribute.settle_of_isUnset hunset,
    Field.default_eq_none_iff.2 h]

namespace IsRecord

variable {r : Json}

/-- Of a record a creation sends what it holds. -/
theorem read_create {d : Dict Json} (hd : IsRecord kind (.object d)) (hf : f.registered kind) :
    f.read .create d = .ok ((value? d f.name).bind f.kind.strict?) := by
  unfold Field.read
  rw [Field.purpose_create]
  cases hv : value? d f.name with
  | none => exact Kind.read_none _ _ _
  | some v =>
    obtain ⟨hset, c, rfl⟩ := hd.member?_field_typed hf hv
    rw [Kind.read_toJson c fun _ => hset, Option.bind_some, Kind.strict?_toJson]

/-- The endpoint with the fields that a creation sends for a record has this record. -/
theorem record_of_settingsFor {d : Dict Json} (hd : IsRecord kind (.object d)) {n : String}
    (hn : nameOf (.object d) = .ok n) {settings : Settings}
    (hs : settingsFor kind .create d = .ok settings) : record kind ⟨n, settings⟩ = .object d := by
  refine record_eq hd hn fun f hf => ?_
  have hread := (settingsFor_eq_ok_iff.1 hs).1 f hf
  rw [hd.read_create hf] at hread
  rw [hd.member?_field hf]
  exact congrArg f.shown (Except.ok.inj hread).symm

/-- **The request that creates the endpoint of a record**: this endpoint has the record. -/
theorem exists_create (hr : IsRecord kind r) {n : String} (hn : nameOf r = .ok n) :
    ∃ settings, createCall kind target r = .ok (.create target n settings) ∧
      record kind ⟨n, settings⟩ = r := by
  obtain ⟨d, rfl⟩ := hr.exists_object
  obtain ⟨settings, hs⟩ : ∃ settings, settingsFor kind .create d = .ok settings :=
    exists_settingsFor fun f hf => ⟨_, hr.read_create hf⟩
  exact ⟨settings, createCall_eq_ok_iff.2 ⟨d, n, settings, rfl, hn, hs, rfl⟩,
    hr.record_of_settingsFor hn hs⟩

/-- A member that is gone from a record is a text. -/
theorem kind_eq_text (hr : IsRecord kind r) (hf : f.registered kind)
    (h : r.member? f.name = none) : f.kind = .text := by
  have hshown := hr.member?_field hf
  rw [h, Option.bind_none] at hshown
  exact Field.default_eq_none_iff.1 hshown.symm

/-- **What an update sends for a field**: nothing when the member stays as it is, and else a value
that is shown as the new member. -/
theorem read_changed {o d : Dict Json} (ho : IsRecord kind (.object o))
    (hd : IsRecord kind (.object d)) (hf : f.registered kind) :
    ∃ u, f.read .update (changedMembers o d) = .ok u ∧
      (value? o f.name = value? d f.name → u = none) ∧
      (value? o f.name ≠ value? d f.name →
        ∃ c, u = some c ∧ f.shown (some c) = value? d f.name) := by
  unfold Field.read
  rw [value?_changedMembers ho.typed_members.ordered hd.typed_members.ordered]
  cases hv : value? d f.name with
  | some v =>
    obtain ⟨hset, c, rfl⟩ := hd.member?_field_typed hf hv
    by_cases hsame : value? o f.name = some (f.kind.toJson c)
    · refine ⟨none, ?_, fun _ => rfl, fun hne => absurd hsame hne⟩
      rw [hsame]
      simp only [Option.any_some, Json.beq_refl, if_true]
      exact Kind.read_none _ _ _
    · refine ⟨some c, ?_, fun heq => absurd heq hsame, fun _ => ⟨c, rfl, ?_⟩⟩
      · have hany : ¬((value? o f.name).any (· == f.kind.toJson c)) := by
          intro hany
          obtain ⟨w, hw, hwv⟩ := (Option.any_eq_true _ _).1 hany
          have hfree := (ho.member?_field_typed hf hw).2
          obtain ⟨c', rfl⟩ := hfree
          rw [Json.beq_eq_true_iff (Kind.floatFree_toJson c')] at hwv
          exact hsame (hwv ▸ hw)
        simp only [hany]
        exact Kind.read_toJson c fun _ => hset
      · have hshown := hd.member?_field hf
        rw [Json.member?, hv, Option.bind_some, Kind.strict?_toJson] at hshown
        exact hshown.symm
  | none =>
    cases hw : value? o f.name with
    | none =>
      exact ⟨none, Kind.read_none _ _ _, fun _ => rfl, fun hne => absurd rfl hne⟩
    | some w =>
      have htext := hd.kind_eq_text hf hv
      refine ⟨some f.kind.cleared, ?_, nofun, fun _ => ⟨_, rfl, Field.shown_cleared htext⟩⟩
      have hpurpose : f.purpose .update = .update := by
        unfold Field.purpose
        refine if_neg ?_
        rintro rfl
        cases htext
      rw [hpurpose]
      exact Kind.read_null_update _ _

/-- **The request for what changed in a record**: a field whose member stays is not sent, and any
other gets a value that is shown as the new member. -/
theorem exists_update {o : Json} (ho : IsRecord kind o) (hr : IsRecord kind r) {old : List Json}
    (hold : byName.Keyed old) (hmem : o ∈ old) {n : String} (hon : nameOf o = .ok n)
    (hn : nameOf r = .ok n) :
    ∃ changed settings, patch r old = .ok changed ∧
      updateCall kind target r changed = .ok (.update target n settings) ∧
      ∀ f : Field, f.registered kind →
        (o.member? f.name = r.member? f.name → settings f = none) ∧
        (o.member? f.name ≠ r.member? f.name →
          ∃ c, settings f = some c ∧ f.shown (some c) = r.member? f.name) := by
  obtain ⟨d, rfl⟩ := hr.exists_object
  obtain ⟨d', rfl⟩ := ho.exists_object
  obtain ⟨settings, hs⟩ :
      ∃ settings, settingsFor kind .update (changedMembers d' d) = .ok settings :=
    exists_settingsFor fun f hf => (ho.read_changed hr hf).imp fun u h => h.1
  refine ⟨_, settings, patch_eq hold hmem hon hn,
    updateCall_eq_ok_iff.2 ⟨n, settings, hn, hs, rfl⟩, fun f hf => ?_⟩
  obtain ⟨u, hu, hkept, hsent⟩ := ho.read_changed hr hf
  rw [(settingsFor_eq_ok_iff.1 hs).1 f hf] at hu
  obtain rfl := Except.ok.inj hu
  exact ⟨hkept, hsent⟩

end IsRecord

end Endpoint

end LoggingProvider
