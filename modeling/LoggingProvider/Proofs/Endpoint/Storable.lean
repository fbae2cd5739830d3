import LoggingProvider.Proofs.Endpoint.Request

/-!
# Records that come back as they are

What is read back of a record is what the remote interface holds. A member that is not registered is
not sent, and a count that is written as a floating-point number comes back as an integer. Of a
record without such members the normal form is the record of the endpoint that is created for it.

## Main definitions

* `Endpoint.Storable`: records whose members come back as they are

## Main results

* `Endpoint.storable_normalize`: the normal form of a record is as storable as the record
* `Endpoint.Storable.isRecord`: a storable record has typed members if it can be sent
-/

namespace LoggingProvider

open Dict Reconcile

namespace Endpoint

variable {kind : ServiceKind} {r v : Json} {d : Dict Json} {n : String}

/-- **A record whose members come back as they are**: what is set is registered and holds no
floating-point number. -/
def Storable (kind : ServiceKind) (r : Json) : Prop :=
  ∀ n v, r.member? n = some v → v.isUnset = false → (block kind).hasField n ∧ v.FloatFree

/-! ## Normal forms -/

theorem floatFree_of_isUnset (h : v.isUnset) : v.FloatFree := by
  cases v with
  | null => trivial
  | string s => trivial
  | _ => cases h

/-- A normalizer does not make or remove floating-point numbers. -/
theorem floatFree_normalized (a : Attribute) : (a.normalized v).FloatFree ↔ v.FloatFree := by
  unfold Attribute.normalized
  cases a.normalizer with
  | none => rfl
  | some n =>
    cases n
    cases v with
    | string s => exact ⟨fun _ => trivial, fun _ => trivial⟩
    | _ => rfl

/-- A field is settled without floating-point numbers where it is set without them. -/
theorem Field.floatFree_settle (f : Field) {u : Option Json} {w : Json}
    (h : f.attr.settle u = some w) (hu : ∀ v, u = some v → v.FloatFree) : w.FloatFree := by
  unfold Attribute.settle at h
  rcases Option.or_eq_some_iff.1 h with hset | ⟨-, hdef⟩
  · obtain ⟨v, hv, rfl⟩ := Option.map_eq_some_iff.1 (Option.filter_eq_some_iff.1 hset).1
    exact (floatFree_normalized f.attr).2 (hu v hv)
  · obtain ⟨-, c, rfl⟩ := Field.default_typed hdef
    exact Kind.floatFree_toJson c

/-- A value that is lost when it settles holds no floating-point number. -/
theorem Field.floatFree_of_settle (f : Field)
    (h : ∀ w, f.attr.settle (some v) = some w → w.FloatFree) : v.FloatFree := by
  rw [← floatFree_normalized f.attr]
  by_cases hv : (f.attr.normalized v).isUnset
  · exact floatFree_of_isUnset hv
  · exact h _ (Attribute.settle_of_normalized (Bool.not_eq_true _ ▸ hv))

/-- What a normal form has is set. -/
theorem isUnset_of_settle_block {u : Option Json} (h : (block kind).settle n u = some v) :
    v.isUnset = false := by
  by_cases hn : (block kind).hasField n
  · rcases (hasField_block kind).1 hn with rfl | ⟨f, hf, rfl⟩
    · rw [settle_block_name, Option.filter_eq_some_iff] at h
      simpa using h.2
    · rw [settle_block_field hf] at h
      exact Field.isUnset_of_settle h
  · rw [settle_block_of_not_hasField hn, Option.filter_eq_some_iff] at h
    simpa using h.2

theorem member?_normalize (kind : ServiceKind) (hd : Dict.Ordered d) (n : String) :
    ((block kind).normalize (.object d)).member? n = (block kind).settle n (value? d n) := by
  rw [Block.normalize_object]
  exact Block.value?_settled (ordered_block kind) hd n

theorem ordered_of_normalize {d' : Dict Json} (hd : Dict.Ordered d)
    (h : (block kind).normalize (.object d) = .object d') : Dict.Ordered d' := by
  have hsettled := Block.ordered_settled (block kind) hd
  rw [Block.normalize_object] at h
  rwa [Json.object.inj h] at hsettled

/-- **A normal form is as storable as the record.** -/
theorem storable_normalize (hd : Dict.Ordered d) :
    Storable kind ((block kind).normalize (.object d)) ↔ Storable kind (.object d) := by
  constructor
  · intro h n v hv hset
    have hfilter : (some v).filter (!·.isUnset) = some v := by simp [Option.filter, hset]
    have hmember := member?_normalize kind hd n
    rw [show value? d n = some v from hv] at hmember
    by_cases hn : (block kind).hasField n
    · refine ⟨hn, ?_⟩
      rcases (hasField_block kind).1 hn with rfl | ⟨f, hf, rfl⟩
      · rw [settle_block_name, hfilter] at hmember
        exact (h _ v hmember hset).2
      · rw [settle_block_field hf] at hmember
        refine f.floatFree_of_settle fun w hw => ?_
        exact (h _ w (hmember.trans hw) (Field.isUnset_of_settle hw)).2
    · rw [settle_block_of_not_hasField hn, hfilter] at hmember
      exact h n v hmember hset
  · intro h n w hw hset
    rw [member?_normalize kind hd] at hw
    have hfree : ∀ v, value? d n = some v → v.FloatFree := by
      intro v hv
      by_cases hunset : v.isUnset
      · exact floatFree_of_isUnset hunset
      · exact (h n v hv (by simpa using hunset)).2
    by_cases hn : (block kind).hasField n
    · refine ⟨hn, ?_⟩
      rcases (hasField_block kind).1 hn with rfl | ⟨f, hf, rfl⟩
      · rw [settle_block_name, Option.filter_eq_some_iff] at hw
        exact hfree w hw.1
      · rw [settle_block_field hf] at hw
        exact f.floatFree_settle hw hfree
    · rw [settle_block_of_not_hasField hn, Option.filter_eq_some_iff] at hw
      exact h n w hw.1 hset

/-! ## Created and read back -/

/-- A storable record in normal form that can be sent has typed members. -/
theorem Storable.isRecord (h : Storable kind (.object d)) (hd : Dict.Ordered d)
    (hnormal : (block kind).normalize (.object d) = .object d) (hn : nameOf (.object d) = .ok n)
    {settings : Settings} (hs : settingsFor kind .create d = .ok settings) :
    IsRecord kind (.object d) := by
  refine ⟨⟨d, rfl, hd, ?_⟩, hnormal⟩
  rintro ⟨m, v⟩ hmem
  have hv : value? d m = some v := value?_of_mem hd.nodup_names hmem
  have hset : v.isUnset = false := by
    have hmember := member?_normalize kind hd m
    rw [hnormal] at hmember
    exact isUnset_of_settle_block (hmember.symm.trans hv)
  obtain ⟨hfield, hfree⟩ := h m v hv hset
  refine ⟨hfield, .inr ?_⟩
  rcases (hasField_block kind).1 hfield with rfl | ⟨f, hf, rfl⟩
  · exact hasKind_name.2 ⟨n, Option.some.inj (hv.symm.trans (nameOf_eq_ok_iff.1 hn))⟩
  · have hread := (settingsFor_eq_ok_iff.1 hs).1 f hf
    unfold Field.read at hread
    rw [Field.purpose_create, hv] at hread
    obtain ⟨c, -, hc⟩ := Kind.eq_toJson_of_read hread hset hfree
    exact hasKind_field.2 ⟨c, hc⟩

end Endpoint

end LoggingProvider
