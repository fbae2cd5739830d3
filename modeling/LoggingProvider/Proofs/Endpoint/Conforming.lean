import LoggingProvider.Proofs.Endpoint.Storable
import LoggingProvider.Proofs.Schema.Conformance

/-!
# Requests for records that conform

A record that conforms to the block of an endpoint has values of the right types, and so has its
normal form. What the block does not ask for is that a count is not negative. Of the two counts, one
may only be a one or a two; the other is the size of a batch, and a record that conforms can be sent
exactly when its size is not negative.

## Main definitions

* `Endpoint.Kind.type`: the type of the attribute of a field

## Main results

* `Endpoint.countOf_eq_none_iff`: which integers are no counts
* `Endpoint.Field.exists_read`: the values that can be read
* `Endpoint.exists_createCall_iff`: when the request for a record that conforms can be built
-/

namespace LoggingProvider

open Dict Reconcile

/-! ## Types and normalizers -/

/-- A normalizer keeps the type of a value. -/
theorem AttributeType.AdmitsUpTo.normalized {most : ℤ} {t : AttributeType} {v : Json}
    (h : t.AdmitsUpTo most v) (a : Attribute) : t.AdmitsUpTo most (a.normalized v) := by
  unfold Attribute.normalized
  cases a.normalizer with
  | none => exact h
  | some n =>
    cases n
    cases h with
    | string s => exact .string (Text.trim s)
    | int64 h => exact .int64 h
    | bool b => exact .bool b
    | list h => exact .list h

theorem Attribute.normalized_eq_number_iff {a : Attribute} {v : Json} {n : Number} :
    a.normalized v = .number n ↔ v = .number n := by
  unfold Attribute.normalized
  cases a.normalizer with
  | none => rfl
  | some m =>
    cases m
    cases v with
    | string s => exact ⟨nofun, nofun⟩
    | _ => exact Iff.rfl

namespace Endpoint

variable {kind : ServiceKind} {target : Target} {d : Dict Json} {v : Option Json} {f : Field}

/-- **The type of the attribute** of a field. -/
def Kind.type : Kind → AttributeType
  | .text => .string
  | .flag => .bool
  | .count => .int64

namespace Field

theorem type_attr (f : Field) : f.attr.type = f.kind.type := by
  cases f <;> rfl

theorem not_computedOnly_attr (f : Field) : ¬f.attr.computedOnly := by
  cases f <;> decide

theorem kind_eq_count_iff : f.kind = .count ↔ f = .formatVersion ∨ f = .requestMaxBytes := by
  cases f <;> decide

end Field

/-! ## Values that can be read -/

/-- Of the integers of a range the negative ones are no counts. -/
theorem countOf_eq_none_iff {least most : ℤ} {n : Number} (h : n.Within least most) :
    countOf n = none ↔ n.isNegative := by
  cases n with
  | natural n => exact ⟨nofun, nofun⟩
  | negSucc k => exact iff_of_true (countOf_negSucc k) rfl
  | real x =>
    have hintegral : x.isIntegral := (Number.within_real_iff.1 h).1
    unfold countOf Number.isNegative Number.rounded
    simp only [hintegral, Bool.true_and]
    cases x.negative <;> cases x.isZero <;> simp

/-- A value that is set can be read if it is of the type and not negative. -/
theorem Kind.exists_read {k : Kind} (name : String) {w : Json} (htype : k.type.Admits w)
    (hset : w.isUnset = false) (hcount : ∀ n, w = .number n → n.isNegative = false) :
    ∃ u, k.read name .create (some w) = .ok u := by
  cases k with
  | text =>
    cases htype with
    | string s => exact ⟨some s, Kind.read_toJson (k := .text) s fun _ => hset⟩
  | flag =>
    cases htype with
    | bool b => exact ⟨some b, Kind.read_toJson (k := .flag) b fun _ => hset⟩
  | count =>
    cases htype with
    | @int64 n h =>
      have hsome : countOf n ≠ none := by
        rw [Ne, countOf_eq_none_iff h, hcount n rfl]
        exact Bool.false_ne_true
      obtain ⟨c, hc⟩ := Option.ne_none_iff_exists'.1 hsome
      exact ⟨some c, by rw [Kind.read_number, hc]⟩

/-- **What a normal form has can be read** if the value conforms and is not negative. -/
theorem Field.exists_read (hv : f.attr.Conforms v)
    (hcount : ∀ n, v = some (.number n) → n.isNegative = false) :
    ∃ u, f.kind.read f.name .create (f.attr.settle v) = .ok u := by
  cases hw : f.attr.settle v with
  | none => exact ⟨none, Kind.read_none _ _ _⟩
  | some w =>
    have hset := Field.isUnset_of_settle hw
    unfold Attribute.settle at hw
    rcases Option.or_eq_some_iff.1 hw with hvalue | ⟨-, hdefault⟩
    · obtain ⟨u, rfl, rfl⟩ := Option.map_eq_some_iff.1 (Option.filter_eq_some_iff.1 hvalue).1
      have hnull : u ≠ .null := by
        rintro rfl
        rw [f.attr.normalized_of_isUnset rfl] at hset
        cases hset
      obtain ⟨htype, -⟩ := hv.admits f.not_computedOnly_attr hnull
      rw [f.type_attr] at htype
      refine Kind.exists_read _ (htype.normalized f.attr) hset fun n hn => hcount n ?_
      rw [Attribute.normalized_eq_number_iff.1 hn]
    · obtain ⟨-, c, rfl⟩ := Field.default_typed hdefault
      exact ⟨some c, Kind.read_toJson c fun _ => hset⟩

/-- What is read of a size is a count, so it is not negative. -/
theorem isNegative_of_read_settle {n : Number} {u : Option UInt64}
    (htype : Field.requestMaxBytes.attr.type.Admits (.number n))
    (h : Kind.count.read Field.requestMaxBytes.name .create
      (Field.requestMaxBytes.attr.settle (some (.number n))) = .ok u) : n.isNegative = false := by
  change Kind.count.read _ .create (some (.number n)) = _ at h
  rw [Kind.read_number] at h
  cases htype with
  | int64 hn =>
    rw [← Bool.not_eq_true, ← countOf_eq_none_iff hn]
    intro hnone
    rw [hnone] at h
    cases h

/-- Only counts are numbers. -/
theorem eq_of_conforms_number {n : Number} (h : f.attr.Conforms (some (.number n))) :
    f = .formatVersion ∨ f = .requestMaxBytes := by
  obtain ⟨htype, -⟩ := h.admits f.not_computedOnly_attr nofun
  rw [f.type_attr] at htype
  rw [← Field.kind_eq_count_iff]
  cases hk : f.kind with
  | count => rfl
  | _ =>
    rw [hk] at htype
    cases htype

/-- The version of the logging format is one or two, in whichever spelling. -/
theorem isNegative_of_conforms_formatVersion {n : Number}
    (h : Field.formatVersion.attr.Conforms (some (.number n))) : n.isNegative = false := by
  obtain ⟨-, hallowed⟩ := h.admits (Field.not_computedOnly_attr _) nofun
  obtain ⟨u, hu, hsame⟩ := hallowed (List.cons_ne_nil _ _)
  rcases List.mem_pair.1 hu with rfl | rfl
  · exact Number.isNegative_of_same (k := 1) (by decide) (by decide) hsame
  · exact Number.isNegative_of_same (k := 2) (by decide) (by decide) hsame

/-! ## Records that conform -/

theorem conforms_field (h : (block kind).Conforms (.object d)) (hf : f.registered kind) :
    f.attr.Conforms (value? d f.name) := by
  cases h with
  | object hattributes _ =>
    exact hattributes (f.name, f.attr) (mem_attributes_block_iff.2 (.inr ⟨f, hf, rfl⟩))

/-- A record that conforms has a name. -/
theorem exists_nameOf_of_conforms (h : (block kind).Conforms (.object d)) :
    ∃ n, nameOf (.object d) = .ok n := by
  have hname : nameAttr.Conforms (value? d "name") := by
    cases h with
    | object hattributes _ =>
      exact hattributes ("name", nameAttr) (mem_attributes_block_iff.2 (.inl rfl))
  obtain ⟨v, hv, htype⟩ := hname.exists_value (by decide) rfl
  cases htype with
  | string n => exact ⟨n, nameOf_eq_ok_iff.2 hv⟩

/-- **When a record that conforms can be sent**: its size of a batch is not negative. -/
theorem exists_createCall_iff (hd : Dict.Ordered d) (h : (block kind).Conforms (.object d))
    {n : String} (hn : nameOf (.object d) = .ok n) (hne : n ≠ "") :
    (∃ c, createCall kind target ((block kind).normalize (.object d)) = .ok c) ↔
      ∀ m, value? d Field.requestMaxBytes.name = some (.number m) → m.isNegative = false := by
  have hname : nameOf ((block kind).normalize (.object d)) = .ok n :=
    (nameOf_normalize hd).2 ⟨hn, hne⟩
  have hread : ∀ f : Field, f.registered kind → f.read .create ((block kind).settled d) =
      f.kind.read f.name .create (f.attr.settle (value? d f.name)) := by
    intro f hf
    unfold Field.read
    rw [Field.purpose_create, Block.value?_settled (ordered_block kind) hd, settle_block_field hf]
  rw [Block.normalize_object] at hname ⊢
  constructor
  · rintro ⟨c, hc⟩ m hm
    obtain ⟨d', -, settings, hd', -, hsettings, -⟩ := createCall_eq_ok_iff.1 hc
    obtain rfl := Json.object.inj hd'
    have hregistered : Field.requestMaxBytes.registered kind := by cases kind <;> rfl
    have hsize := (settingsFor_eq_ok_iff.1 hsettings).1 _ hregistered
    have hconforms := conforms_field h hregistered
    rw [hm] at hconforms
    obtain ⟨htype, -⟩ := hconforms.admits (Field.not_computedOnly_attr _) nofun
    rw [hread _ hregistered, hm] at hsize
    exact isNegative_of_read_settle htype hsize
  · -- Only the two counts are numbers, and the version of the format is never negative.
    intro hsize
    obtain ⟨settings, hsettings⟩ :
        ∃ settings, settingsFor kind .create ((block kind).settled d) = .ok settings := by
      refine exists_settingsFor fun f hf => ?_
      rw [hread f hf]
      have hconforms := conforms_field h hf
      refine Field.exists_read hconforms fun m hm => ?_
      rw [hm] at hconforms
      rcases eq_of_conforms_number hconforms with rfl | rfl
      · exact isNegative_of_conforms_formatVersion hconforms
      · exact hsize m hm
    exact ⟨_, createCall_eq_ok_iff.2 ⟨_, n, settings, rfl, hname, hsettings, rfl⟩⟩

end Endpoint

end LoggingProvider
