import LoggingProvider.Proofs.Endpoint.Block
import LoggingProvider.Proofs.Json.Same
import LoggingProvider.Reconcile.Named

/-!
# Records of endpoints

A record is an object whose members are the name and registered fields, each of its kind, and which
is its own normal form. The record of an endpoint is one, and a record is determined by its name
and by what it shows of each field.

## Main definitions

* `Endpoint.Typed`: the members are registered, and null or of their kinds
* `Endpoint.IsRecord`: an object with typed members in normal form

## Main results

* `Endpoint.member?_record_name`, `Endpoint.member?_record_field`: the record of an endpoint, member
  by member
* `Endpoint.isRecord_record`: the record of an endpoint is a record
* `Endpoint.record_eq`: when an endpoint has a given record
-/

namespace LoggingProvider

open Dict

namespace Endpoint

/-- Whether a value is a text under the name, or a value of a field under the name of the field. -/
def HasKind (n : String) (v : Json) : Prop :=
  (n = "name" ∧ ∃ s, v = .string s) ∨
    ∃ (f : Field) (c : f.kind.Carrier), f.name = n ∧ v = f.kind.toJson c

/-- **Typed members**, in name order: each is registered, and null or of its kind. -/
structure Typed (kind : ServiceKind) (d : Dict Json) : Prop where
  ordered : Dict.Ordered d
  member : ∀ e ∈ d, (block kind).hasField e.1 ∧ (e.2 = .null ∨ HasKind e.1 e.2)

/-- **A record**: an object with typed members that is its own normal form. -/
structure IsRecord (kind : ServiceKind) (r : Json) : Prop where
  typed : ∃ d, r = .object d ∧ Typed kind d
  normal : (block kind).normalize r = r

/-! ## Kinds of values -/

theorem hasKind_field {f : Field} {v : Json} :
    HasKind f.name v ↔ ∃ c, v = f.kind.toJson c := by
  constructor
  · rintro (⟨hn, -⟩ | ⟨g, c, hg, rfl⟩)
    · exact absurd hn f.name_ne_name
    · obtain rfl := Field.name_injective hg
      exact ⟨c, rfl⟩
  · rintro ⟨c, rfl⟩
    exact .inr ⟨f, c, rfl, rfl⟩

theorem hasKind_name {v : Json} : HasKind "name" v ↔ ∃ s, v = .string s := by
  constructor
  · rintro (⟨-, h⟩ | ⟨g, c, hg, -⟩)
    · exact h
    · exact absurd hg g.name_ne_name
  · exact fun h => .inl ⟨rfl, h⟩

theorem Kind.strict?_toJson {k : Kind} (c : k.Carrier) : k.strict? (k.toJson c) = some c := by
  cases k <;> rfl

theorem Kind.floatFree_toJson {k : Kind} (c : k.Carrier) : (k.toJson c).FloatFree := by
  cases k <;> simp [Kind.toJson, Json.ofUInt64, Json.FloatFree]

theorem HasKind.floatFree {n : String} {v : Json} (h : HasKind n v) : v.FloatFree := by
  rcases h with ⟨-, s, rfl⟩ | ⟨f, c, -, rfl⟩
  · simp [Json.FloatFree]
  · exact Kind.floatFree_toJson c

/-- A normalizer keeps the kind of a value. -/
theorem Kind.exists_normalized (a : Attribute) {k : Kind} (c : k.Carrier) :
    ∃ c', a.normalized (k.toJson c) = k.toJson c' := by
  unfold Attribute.normalized
  cases a.normalizer with
  | none => exact ⟨c, rfl⟩
  | some n =>
    cases n
    cases k with
    | text => exact ⟨Text.trim c, rfl⟩
    | flag => exact ⟨c, rfl⟩
    | count => exact ⟨c, rfl⟩

/-- A settled value is set. -/
theorem Field.isUnset_of_settle {f : Field} {v : Option Json} {w : Json}
    (h : f.attr.settle v = some w) : w.isUnset = false := by
  unfold Attribute.settle at h
  rcases Option.or_eq_some_iff.1 h with hset | ⟨-, hdef⟩
  · simpa using (Option.filter_eq_some_iff.1 hset).2
  · exact (Field.default_typed hdef).1

/-- What is shown of a field is set and of the field's kind. -/
theorem Field.shown_typed {f : Field} {v : Option f.kind.Carrier} {w : Json}
    (h : f.shown v = some w) : w.isUnset = false ∧ ∃ c, w = f.kind.toJson c := by
  refine ⟨Field.isUnset_of_settle h, ?_⟩
  unfold Field.shown Attribute.settle at h
  rcases Option.or_eq_some_iff.1 h with hset | ⟨-, hdef⟩
  · obtain ⟨hmap, -⟩ := Option.filter_eq_some_iff.1 hset
    obtain ⟨u, hu, rfl⟩ := Option.map_eq_some_iff.1 hmap
    obtain ⟨c, -, rfl⟩ := Option.map_eq_some_iff.1 hu
    exact Kind.exists_normalized _ c
  · exact (Field.default_typed hdef).2

/-- A typed value settles as its content is shown: null counts as absent. -/
theorem Field.settle_eq_shown (f : Field) {v : Option Json}
    (hv : ∀ w, v = some w → w = .null ∨ ∃ c, w = f.kind.toJson c) :
    f.attr.settle v = f.shown (v.bind f.kind.strict?) := by
  cases v with
  | none => rfl
  | some w =>
    rcases hv w rfl with rfl | ⟨c, rfl⟩
    · have hstrict : f.kind.strict? .null = none := by cases f <;> rfl
      rw [Option.bind_some, hstrict, Field.shown, Option.map_none,
        ← Attribute.settle_filter _ (some Json.null)]
      rfl
    · rw [Option.bind_some, Kind.strict?_toJson, Field.shown, Option.map_some]

/-! ## Typed members -/

namespace Typed

variable {kind : ServiceKind} {d : Dict Json}

theorem hasField (hd : Typed kind d) {n : String} {v : Json} (h : value? d n = some v) :
    (block kind).hasField n :=
  (hd.member _ (mem_of_value? h)).1

theorem field (hd : Typed kind d) {f : Field} {v : Json} (h : value? d f.name = some v) :
    v = .null ∨ ∃ c, v = f.kind.toJson c :=
  (hd.member _ (mem_of_value? h)).2.imp_right hasKind_field.1

theorem name (hd : Typed kind d) {v : Json} (h : value? d "name" = some v) :
    v = .null ∨ ∃ s, v = .string s :=
  (hd.member _ (mem_of_value? h)).2.imp_right hasKind_name.1

theorem floatFree (hd : Typed kind d) : (Json.object d).FloatFree := by
  rw [Json.FloatFree, Json.floatFreeMembers_iff]
  intro e he
  rcases (hd.member e he).2 with h | h
  · rw [h]
    trivial
  · exact h.floatFree

/-- The normal form of typed members is typed. -/
theorem settled (hd : Typed kind d) : Typed kind ((block kind).settled d) where
  ordered := Block.ordered_settled _ hd.ordered
  member := by
    rintro ⟨n, v⟩ he
    have hv := value?_of_mem (Block.ordered_settled _ hd.ordered).nodup_names he
    rw [Block.value?_settled (ordered_block kind) hd.ordered] at hv
    by_cases hn : (block kind).hasField n
    · refine ⟨hn, .inr ?_⟩
      rcases (hasField_block kind).1 hn with rfl | ⟨f, hf, rfl⟩
      · rw [settle_block_name, Option.filter_eq_some_iff] at hv
        rcases hd.name hv.1 with rfl | hs
        · exact absurd hv.2 (by decide)
        · exact hasKind_name.2 hs
      · rw [settle_block_field hf, f.settle_eq_shown fun w hw => hd.field hw] at hv
        exact hasKind_field.2 (Field.shown_typed hv).2
    · rw [settle_block_of_not_hasField hn, Option.filter_eq_some_iff] at hv
      exact absurd (hd.hasField hv.1) hn

end Typed

/-! ## Records -/

theorem normalize_normalize {kind : ServiceKind} {d : Dict Json} (hd : Dict.Ordered d) :
    (block kind).normalize ((block kind).normalize (.object d)) =
      (block kind).normalize (.object d) := by
  have hs := Block.ordered_settled (block kind) hd
  rw [Block.normalize_object, Block.normalize_object]
  refine congrArg Json.object (Dict.Ordered.ext (Block.ordered_settled _ hs) hs fun n => ?_)
  rw [Block.value?_settled (ordered_block kind) hs, Block.value?_settled (ordered_block kind) hd,
    settle_block_settle]

/-- The normal form of typed members is a record. -/
theorem Typed.isRecord {kind : ServiceKind} {d : Dict Json} (hd : Typed kind d) :
    IsRecord kind ((block kind).normalize (.object d)) where
  typed := ⟨_, Block.normalize_object _ _, hd.settled⟩
  normal := normalize_normalize hd.ordered

theorem nameOf_eq_ok_iff {r : Json} {n : String} :
    Reconcile.nameOf r = .ok n ↔ r.member? "name" = some (.string n) := by
  unfold Reconcile.nameOf
  rcases r.member? "name" with _ | (_ | _ | _ | s | _ | _) <;> simp

/-- A document with a name is an object. -/
theorem exists_object_of_nameOf {r : Json} {n : String} (h : Reconcile.nameOf r = .ok n) :
    ∃ d, r = .object d := by
  rw [nameOf_eq_ok_iff] at h
  cases r with
  | object d => exact ⟨d, rfl⟩
  | _ => cases h

/-- The name of a normal form is the name, unless this is empty. -/
theorem nameOf_normalize {kind : ServiceKind} {d : Dict Json} (hd : Dict.Ordered d) {n : String} :
    Reconcile.nameOf ((block kind).normalize (.object d)) = .ok n ↔
      Reconcile.nameOf (.object d) = .ok n ∧ n ≠ "" := by
  rw [nameOf_eq_ok_iff, nameOf_eq_ok_iff, Block.normalize_object]
  change value? ((block kind).settled d) "name" = _ ↔ value? d "name" = _ ∧ _
  rw [Block.value?_settled (ordered_block kind) hd, settle_block_name, Option.filter_eq_some_iff]
  simp [Json.isUnset]

namespace IsRecord

variable {kind : ServiceKind} {r : Json}

theorem settled_eq {d : Dict Json} (hr : IsRecord kind (.object d)) :
    (block kind).settled d = d :=
  Json.object.inj ((Block.normalize_object _ d).symm.trans hr.normal)

theorem typed_members {d : Dict Json} (hr : IsRecord kind (.object d)) : Typed kind d := by
  obtain ⟨d', h, hd'⟩ := hr.typed
  rwa [Json.object.inj h]

theorem exists_object (hr : IsRecord kind r) : ∃ d, r = .object d :=
  hr.typed.imp fun _ h => h.1

/-- The members of a record are settled. -/
theorem member?_eq_settle (hr : IsRecord kind r) (n : String) :
    r.member? n = (block kind).settle n (r.member? n) := by
  obtain ⟨d, rfl⟩ := hr.exists_object
  conv_lhs => rw [← hr.settled_eq]
  exact Block.value?_settled (ordered_block kind) hr.typed_members.ordered n

/-- A record shows of each field what it has. -/
theorem member?_field (hr : IsRecord kind r) {f : Field} (hf : f.registered kind) :
    r.member? f.name = f.shown ((r.member? f.name).bind f.kind.strict?) := by
  conv_lhs => rw [hr.member?_eq_settle, settle_block_field hf]
  obtain ⟨d, rfl⟩ := hr.exists_object
  exact f.settle_eq_shown fun w hw => hr.typed_members.field hw

theorem member?_field_typed (hr : IsRecord kind r) {f : Field} (hf : f.registered kind) {v : Json}
    (hv : r.member? f.name = some v) : v.isUnset = false ∧ ∃ c, v = f.kind.toJson c := by
  rw [hr.member?_field hf] at hv
  exact Field.shown_typed hv

theorem member?_eq_none (hr : IsRecord kind r) {n : String} (hn : ¬(block kind).hasField n) :
    r.member? n = none := by
  obtain ⟨d, rfl⟩ := hr.exists_object
  cases h : Json.member? (.object d) n with
  | none => rfl
  | some v => exact absurd (hr.typed_members.hasField h) hn

theorem floatFree (hr : IsRecord kind r) : r.FloatFree := by
  obtain ⟨d, rfl⟩ := hr.exists_object
  exact hr.typed_members.floatFree

/-- The name of a record is not empty. -/
theorem name_ne_empty (hr : IsRecord kind r) {n : String} (hn : Reconcile.nameOf r = .ok n) :
    n ≠ "" := by
  rintro rfl
  have hset := hr.member?_eq_settle "name"
  rw [nameOf_eq_ok_iff.1 hn, settle_block_name] at hset
  simp [Option.filter, Json.isUnset] at hset

/-- **Two records with the same members are equal.** -/
theorem ext {r' : Json} (hr : IsRecord kind r) (hr' : IsRecord kind r')
    (h : ∀ n, r.member? n = r'.member? n) : r = r' := by
  obtain ⟨d, rfl⟩ := hr.exists_object
  obtain ⟨d', rfl⟩ := hr'.exists_object
  exact congrArg Json.object (hr.typed_members.ordered.ext hr'.typed_members.ordered h)

end IsRecord

/-! ## The record of an endpoint -/

/-- The fields that have a value are under their names. -/
theorem names_filterMap_fields (l : List Field) (g : Field → Option Json) :
    names (l.filterMap fun f => (g f).map fun v => (f.name, v)) =
      (l.filter fun f => (g f).isSome).map Field.name := by
  induction l with
  | nil => rfl
  | cons f rest ih =>
    rw [List.filterMap_cons, List.filter_cons]
    cases g f with
    | none => exact ih
    | some v => exact congrArg (f.name :: ·) ih

theorem value?_filterMap_fields {l : List Field} (hl : (l.map Field.name).Nodup)
    (g : Field → Option Json) (n : String) :
    value? (l.filterMap fun f => (g f).map fun v => (f.name, v)) n =
      (l.find? fun f => f.name = n).bind g := by
  induction l with
  | nil => rfl
  | cons f rest ih =>
    obtain ⟨hf, hrest⟩ := List.nodup_cons.1 hl
    rw [List.filterMap_cons, List.find?_cons]
    by_cases hn : f.name = n
    · -- No later field has the name, so the first one decides even when it has no value.
      have hnone : rest.find? (fun g => g.name = n) = none := by
        refine List.find?_eq_none.2 fun x hx hxn => hf ?_
        rw [hn, ← of_decide_eq_true hxn]
        exact List.mem_map_of_mem hx
      cases hg : g f with
      | none => simpa [hn, hg, hnone] using ih hrest
      | some v => simp [hn, hg, value?_cons]
    · cases hg : g f with
      | none => simpa [hn, hg] using ih hrest
      | some v => simpa [hn, hg, value?_cons] using ih hrest

/-- The name and the fields that have a value are under different names. -/
theorem nodup_names_filterMap_fields {l : List Field} (hl : (l.map Field.name).Nodup) (name : Json)
    (g : Field → Option Json) :
    (names (("name", name) :: l.filterMap fun f => (g f).map fun v => (f.name, v))).Nodup := by
  rw [names, List.map_cons, ← names, names_filterMap_fields]
  refine List.nodup_cons.2 ⟨fun hmem => ?_, ?_⟩
  · obtain ⟨f, -, hf⟩ := List.mem_map.1 hmem
    exact f.name_ne_name hf
  · exact hl.sublist (List.filter_sublist.map Field.name)

variable {kind : ServiceKind}

theorem value?_recordMembers (e : Endpoint) (n : String) :
    value? (recordMembers kind e) n =
      if "name" = n then some (.string e.name)
      else (Field.named? kind n).bind fun f => (e.settings f).map f.kind.toJson := by
  have hentries : recordMembers kind e = ofEntries (("name", .string e.name) ::
      (Field.registeredIn kind).filterMap fun f =>
        ((e.settings f).map f.kind.toJson).map fun v => (f.name, v)) := by
    simp only [recordMembers, Option.map_map]
    rfl
  have hdistinct := Field.nodup_map_name_registeredIn kind
  rw [hentries, value?_ofEntries (nodup_names_filterMap_fields hdistinct _ _), value?_cons,
    value?_filterMap_fields hdistinct]
  rfl

theorem typed_recordMembers (e : Endpoint) : Typed kind (recordMembers kind e) where
  ordered := ordered_ofEntries _
  member := by
    rintro ⟨n, v⟩ he
    have hd : Dict.Ordered (recordMembers kind e) := ordered_ofEntries _
    have hv := value?_of_mem hd.nodup_names he
    rw [value?_recordMembers] at hv
    by_cases hn : "name" = n
    · subst hn
      rw [if_pos rfl] at hv
      obtain rfl := Option.some.inj hv
      exact ⟨(hasField_block kind).2 (.inl rfl), .inr (hasKind_name.2 ⟨_, rfl⟩)⟩
    · rw [if_neg hn, Option.bind_eq_some_iff] at hv
      obtain ⟨f, hf, hv⟩ := hv
      obtain ⟨hreg, rfl⟩ := Field.named?_eq_some_iff.1 hf
      obtain ⟨c, -, rfl⟩ := Option.map_eq_some_iff.1 hv
      exact ⟨(hasField_block kind).2 (.inr ⟨f, hreg, rfl⟩), .inr (hasKind_field.2 ⟨c, rfl⟩)⟩

/-- **The record of an endpoint is a record.** -/
theorem isRecord_record (e : Endpoint) : IsRecord kind (record kind e) :=
  (typed_recordMembers e).isRecord

theorem member?_record (e : Endpoint) (n : String) :
    (record kind e).member? n = (block kind).settle n (value? (recordMembers kind e) n) := by
  rw [record, Block.normalize_object]
  exact Block.value?_settled (ordered_block kind) (typed_recordMembers e).ordered n

theorem member?_record_name (e : Endpoint) :
    (record kind e).member? "name" = (some (Json.string e.name)).filter (!·.isUnset) := by
  rw [member?_record, settle_block_name, value?_recordMembers, if_pos rfl]

/-- **The record of an endpoint shows each registered field.** -/
theorem member?_record_field (e : Endpoint) {f : Field} (hf : f.registered kind) :
    (record kind e).member? f.name = f.shown (e.settings f) := by
  rw [member?_record, settle_block_field hf, value?_recordMembers,
    if_neg (Ne.symm f.name_ne_name), Field.named?_name hf]
  rfl

theorem nameOf_record {e : Endpoint} (he : e.name ≠ "") :
    Reconcile.nameOf (record kind e) = .ok e.name := by
  rw [nameOf_eq_ok_iff, member?_record_name]
  simp [Option.filter, Json.isUnset, he]

theorem nameOf_record_eq_ok_iff {e : Endpoint} {n : String} :
    Reconcile.nameOf (record kind e) = .ok n ↔ e.name = n ∧ n ≠ "" := by
  constructor
  · intro h
    have hne := (isRecord_record e).name_ne_empty h
    rw [nameOf_eq_ok_iff, member?_record_name, Option.filter_eq_some_iff] at h
    exact ⟨Json.string.inj (Option.some.inj h.1), hne⟩
  · rintro ⟨rfl, hne⟩
    exact nameOf_record hne

/-- **When an endpoint has a given record**: it has its name, and of each registered field it shows
what the record has. -/
theorem record_eq {r : Json} (hr : IsRecord kind r) {e : Endpoint}
    (hname : Reconcile.nameOf r = .ok e.name)
    (hfield : ∀ f : Field, f.registered kind → f.shown (e.settings f) = r.member? f.name) :
    record kind e = r := by
  refine (isRecord_record e).ext hr fun n => ?_
  by_cases hn : (block kind).hasField n
  · rcases (hasField_block kind).1 hn with rfl | ⟨f, hf, rfl⟩
    · rw [nameOf_eq_ok_iff.1 (nameOf_record (hr.name_ne_empty hname)), nameOf_eq_ok_iff.1 hname]
    · rw [member?_record_field e hf, hfield f hf]
  · rw [(isRecord_record e).member?_eq_none hn, hr.member?_eq_none hn]

end Endpoint

end LoggingProvider
