import LoggingProvider.Proofs.Endpoint.Record
import LoggingProvider.Provider.Changes

/-!
# States in normal form

The schema of a resource has three plain attributes and the set of endpoint blocks. A state in
normal form has the attributes that are set, with the identity of the service as its own, and the
normal forms of its records; it addresses the service version that the state addressed before.

## Main results

* `State.target_eq_ok_iff`, `State.exists_target_iff`: which states address a service version
* `State.settle_attribute`, `State.settle_blockName`: the values in normal forms of states
* `State.member?_withId`: the members of a state with its identity set
* `State.target_normalize`, `State.records_normalize`: the service version and the records of a
  normal form
* `State.normalize_planned`: a plan is in normal form
-/

namespace LoggingProvider

namespace State

open Dict Endpoint

variable {kind : ServiceKind} {t : Target} {state other : Json} {d : Dict Json} {n : String}

/-! ## Service versions -/

theorem serviceId?_eq_some_iff {service : String} : serviceId? state = some service ↔
    state.member? "service_id" = some (.string service) ∧ service ≠ "" := by
  unfold serviceId?
  rw [Option.filter_eq_some_iff, Option.bind_eq_some_iff]
  constructor
  · rintro ⟨⟨v, hv, htext⟩, hne⟩
    cases v <;> simp [Json.text?] at htext
    exact ⟨htext ▸ hv, by simpa using hne⟩
  · rintro ⟨hv, hne⟩
    exact ⟨⟨_, hv, rfl⟩, by simpa using hne⟩

theorem version?_eq_some_iff {version : UInt32} : version? state = some version ↔
    state.member? "version" = some (.ofNat version.toNat) ∧ version ≠ 0 := by
  unfold version?
  constructor
  · intro h
    split at h
    · next n hn =>
      split at h
      · next hbound =>
        obtain rfl := Option.some.inj h
        have htoNat : (UInt32.ofNat n.toNat).toNat = n.toNat :=
          UInt32.toNat_ofNat_of_lt hbound.2
        refine ⟨?_, fun hzero => ?_⟩
        · rw [hn, htoNat, Json.ofNat, UInt64.ofNat_toNat]
        · rw [hzero] at htoNat
          exact absurd hbound.1 (by rw [← htoNat]; decide)
      · cases h
    · cases h
  · rintro ⟨hv, hne⟩
    have hpos : 0 < version.toNat := by
      refine Nat.pos_of_ne_zero fun hzero => hne ?_
      exact UInt32.toNat_inj.1 hzero
    have hlt := version.toNat_lt
    have htoNat : (UInt64.ofNat version.toNat).toNat = version.toNat :=
      UInt64.toNat_ofNat_of_lt (Nat.lt_trans hlt (by decide))
    simp only [hv, Json.ofNat, htoNat]
    rw [if_pos ⟨hpos, by omega⟩, UInt32.ofNat_toNat]

/-- **Which states address a service version.** -/
theorem target_eq_ok_iff : target state = .ok t ↔
    (state.member? "service_id" = some (.string t.service) ∧ t.service ≠ "") ∧
      state.member? "version" = some (.ofNat t.version.toNat) ∧ t.version ≠ 0 := by
  rw [← serviceId?_eq_some_iff, ← version?_eq_some_iff]
  unfold target
  cases serviceId? state with
  | none => simp
  | some service =>
    cases version? state with
    | none => simp
    | some version =>
      obtain ⟨service', version'⟩ := t
      simp

/-- A service version is addressed by a text that is not empty and a positive integer of 32 bits. -/
theorem exists_target_iff : (∃ t, target state = .ok t) ↔
    (∃ service, state.member? "service_id" = some (.string service) ∧ service ≠ "") ∧
      ∃ n : UInt64, state.member? "version" = some (.number (.natural n)) ∧
        0 < n.toNat ∧ n.toNat < UInt32.size := by
  have hservice : (∃ service, serviceId? state = some service) ↔ _ :=
    exists_congr fun _ => serviceId?_eq_some_iff
  have hversion : (∃ version, version? state = some version) ↔
      ∃ n : UInt64, state.member? "version" = some (.number (.natural n)) ∧
        0 < n.toNat ∧ n.toNat < UInt32.size := by
    unfold version?
    split
    · next n hn => simp [hn]
    · next hother => exact iff_of_false nofun fun ⟨n, hn, _⟩ => hother n hn
  rw [← hservice, ← hversion]
  unfold target
  cases serviceId? state with
  | none => simp
  | some service => cases version? state <;> simp

/-- **Why a state addresses no service version**: it is not valid. -/
theorem exists_validation_of_target {fault : Fault} (h : target state = .error fault) :
    ∃ m, fault = .validation m := by
  unfold target at h
  split at h
  · exact ⟨_, (Except.error.inj h).symm⟩
  · split at h
    · exact ⟨_, (Except.error.inj h).symm⟩
    · cases h

theorem exists_object_of_target (h : target state = .ok t) : ∃ d, state = .object d := by
  obtain ⟨⟨hservice, -⟩, -⟩ := target_eq_ok_iff.1 h
  cases state <;> simp [Json.member?] at hservice ⊢

/-! ## The schema of a resource -/

theorem attributes_schemaOf (kind : ServiceKind) : ∃ id service version : Attribute,
    (id.normalizer = none ∧ id.default = none) ∧
      (service.normalizer = none ∧ service.default = none) ∧
        (version.normalizer = none ∧ version.default = none) ∧
          (schemaOf kind).block.attributes =
            [("id", id), ("service_id", service), ("version", version)] :=
  ⟨_, _, _, ⟨rfl, rfl⟩, ⟨rfl, rfl⟩, ⟨rfl, rfl⟩, rfl⟩

theorem names_attributes_schemaOf (kind : ServiceKind) :
    names (schemaOf kind).block.attributes = ["id", "service_id", "version"] := rfl

theorem blocks_schemaOf (kind : ServiceKind) :
    (schemaOf kind).block.blocks = [(blockName, Nested.set (block kind))] := rfl

theorem ordered_schemaOf (kind : ServiceKind) : (schemaOf kind).block.Ordered where
  attributes := by
    obtain ⟨id, service, version, -, -, -, h⟩ := attributes_schemaOf kind
    rw [h]
    exact ordered_of_names ["id", "service_id", "version"] rfl (by decide)
  blocks := List.pairwise_singleton _ _

/-- The attributes of a state have neither a normalizer nor a default. -/
theorem plain_of_mem {e : String × Attribute} (he : e ∈ (schemaOf kind).block.attributes) :
    e.2.normalizer = none ∧ e.2.default = none := by
  obtain ⟨id, service, version, hid, hservice, hversion, h⟩ := attributes_schemaOf kind
  rw [h] at he
  simp only [List.mem_cons, List.not_mem_nil, or_false] at he
  rcases he with rfl | rfl | rfl
  · exact hid
  · exact hservice
  · exact hversion

theorem canonical_schemaOf (kind : ServiceKind) : (schemaOf kind).block.Canonical := by
  refine .intro ⟨ordered_schemaOf kind, fun e he v hv => ?_⟩ fun e he => ?_
  · rw [(plain_of_mem he).2] at hv
    cases hv
  · rw [blocks_schemaOf] at he
    obtain rfl := List.mem_singleton.1 he
    exact canonical_block kind

theorem separate_schemaOf (kind : ServiceKind) : (schemaOf kind).block.Separate := by
  refine .intro (fun e he => .inl (plain_of_mem he).1) fun e he => ?_
  rw [blocks_schemaOf] at he
  obtain rfl := List.mem_singleton.1 he
  exact separate_block kind

/-- Apart from the blocks, a state keeps in normal form what is set. -/
theorem settle_attribute (hn : n ≠ blockName) (v : Option Json) :
    (schemaOf kind).block.settle n v = v.filter (!·.isUnset) := by
  have hblock : value? (schemaOf kind).block.blocks n = none := by
    rw [blocks_schemaOf, value?_cons, if_neg hn.symm, value?_nil]
  unfold Block.settle Block.settleNested Block.settleAttribute
  rw [hblock]
  simp only
  split
  · next a ha =>
    obtain ⟨hnormalizer, hdefault⟩ := plain_of_mem (mem_of_value? ha)
    rw [Attribute.settle_filter]
    unfold Attribute.settle Attribute.normalized
    rw [hnormalizer, hdefault, Option.or_none]
    simp
  · rfl

/-- The blocks of a state settle as a set. -/
theorem settle_blockName (v : Option Json) : (schemaOf kind).block.settle blockName v =
    (Nested.set (block kind)).settle (v.filter (!·.isUnset)) := rfl

/-! ## Normal forms -/

/-- The members of a state with its identity set. -/
theorem member?_withId (d : Dict Json) (n : String) : (withId (.object d)).member? n =
    if n = "id" then (value? d "service_id").or (value? d "id") else value? d n := by
  simp only [withId]
  cases h : value? d "service_id" with
  | none =>
    by_cases hn : n = "id"
    · subst hn
      simp [Json.member?]
    · simp [Json.member?, hn]
  | some id =>
    by_cases hn : n = "id"
    · subst hn
      simp [Json.member?, value?_put]
    · simp [Json.member?, value?_put, hn, Ne.symm hn]

/-- The members of the normal form of a state, apart from its identity. -/
theorem member?_normalize (hd : Dict.Ordered d) (hn : n ≠ "id") :
    (normalize (schemaOf kind) (.object d)).member? n =
      (schemaOf kind).block.settle n (value? d n) := by
  unfold normalize Schema.normalize
  rw [Block.normalize_object, member?_withId, if_neg hn,
    Block.value?_settled (ordered_schemaOf kind) hd]

theorem member?_normalize_attribute (hd : Dict.Ordered d) (hn : n ≠ "id") (hb : n ≠ blockName) :
    (normalize (schemaOf kind) (.object d)).member? n = (value? d n).filter (!·.isUnset) := by
  rw [member?_normalize hd hn, settle_attribute hb]

/-- **The service version of a normal form** is that of the state. -/
theorem target_normalize (hd : Dict.Ordered d) :
    target (normalize (schemaOf kind) (.object d)) = .ok t ↔ target (.object d) = .ok t := by
  have hservice : (normalize (schemaOf kind) (.object d)).member? "service_id" = _ :=
    member?_normalize_attribute hd (by decide) (by decide)
  have hversion : (normalize (schemaOf kind) (.object d)).member? "version" = _ :=
    member?_normalize_attribute hd (by decide) (by decide)
  rw [target_eq_ok_iff, target_eq_ok_iff, hservice, hversion, Option.filter_eq_some_iff,
    Option.filter_eq_some_iff]
  constructor
  · rintro ⟨⟨⟨hs, -⟩, hne⟩, ⟨hv, -⟩, hpos⟩
    exact ⟨⟨hs, hne⟩, hv, hpos⟩
  · rintro ⟨⟨hs, hne⟩, hv, hpos⟩
    exact ⟨⟨⟨hs, by simpa [Json.isUnset] using hne⟩, hne⟩, ⟨hv, rfl⟩, hpos⟩

theorem items_filter_isUnset (v : Option Json) :
    (v.filter (!·.isUnset)).bind Json.items? = v.bind Json.items? := by
  cases v with
  | none => rfl
  | some v =>
    rw [Option.filter_some]
    split
    · rfl
    · cases v with
      | array items => next h => exact absurd rfl h
      | _ => rfl

theorem items_settle_set (b : Block) (v : Option Json) :
    (((Nested.set b).settle v).bind Json.items?).getD [] =
      ((v.bind Json.items?).getD []).map b.normalize := by
  rcases v with _ | (_ | _ | _ | _ | items | _) <;> rfl

/-- **The records of a normal form** are the normal forms of the records. -/
theorem records_normalize (hd : Dict.Ordered d) :
    records (normalize (schemaOf kind) (.object d)) blockName =
      (records (.object d) blockName).map (block kind).normalize := by
  unfold records
  rw [member?_normalize hd (by decide), settle_blockName, items_settle_set, items_filter_isUnset]
  rfl

/-- The identity of a normal form: that of the service if it is set, or else the state's own. -/
theorem member?_normalize_id (hd : Dict.Ordered d) :
    (normalize (schemaOf kind) (.object d)).member? "id" =
      ((value? d "service_id").filter (!·.isUnset)).or ((value? d "id").filter (!·.isUnset)) := by
  unfold normalize Schema.normalize
  rw [Block.normalize_object, member?_withId, if_pos rfl,
    Block.value?_settled (ordered_schemaOf kind) hd, Block.value?_settled (ordered_schemaOf kind) hd,
    settle_attribute (by decide), settle_attribute (by decide)]

/-- The identity of a normal form that addresses a service version. -/
theorem member?_normalize_id_of_target (hd : Dict.Ordered d) (ht : target (.object d) = .ok t) :
    (normalize (schemaOf kind) (.object d)).member? "id" = some (.string t.service) := by
  obtain ⟨⟨hservice, hne⟩, -⟩ := target_eq_ok_iff.1 ht
  have hset : value? d "service_id" = some (.string t.service) := hservice
  rw [member?_normalize_id hd, hset]
  simp [Option.filter, Json.isUnset, hne]

theorem exists_ordered_normalize (kind : ServiceKind) (hd : Dict.Ordered d) :
    ∃ d', normalize (schemaOf kind) (.object d) = .object d' ∧ Dict.Ordered d' := by
  have hsettled := Block.ordered_settled (schemaOf kind).block hd
  unfold normalize Schema.normalize
  rw [Block.normalize_object]
  simp only [withId]
  split
  · exact ⟨_, rfl, ordered_put hsettled _ _⟩
  · exact ⟨_, rfl, hsettled⟩

theorem exists_object_of_normalize (h : normalize (schemaOf kind) state = .object d) :
    ∃ d₀, state = .object d₀ := by
  unfold normalize Schema.normalize at h
  obtain ⟨d₁, hd₁⟩ : ∃ d₁, (schemaOf kind).block.normalize state = .object d₁ := by
    cases hb : (schemaOf kind).block.normalize state with
    | object d₁ => exact ⟨d₁, rfl⟩
    | _ =>
      rw [hb] at h
      cases h
  exact Block.exists_object_of_normalize hd₁

/-! ## Configurations

A configuration is planned in normal form, and the plan is normalized once more when it is carried
out. -/

section Configuration

variable {c : Json}

/-- **The records that a configuration asks for**: its records in normal form. -/
def desired (kind : ServiceKind) (c : Json) : List Json :=
  (records c blockName).map (block kind).normalize

theorem exists_ordered (hc : c.Canonical) (ht : target c = .ok t) :
    ∃ d, c = .object d ∧ Dict.Ordered d := by
  obtain ⟨d, rfl⟩ := exists_object_of_target ht
  exact ⟨d, rfl, hc.1⟩

/-- The records of a canonical configuration are canonical. -/
theorem canonical_of_mem_records (hc : c.Canonical) {r : Json} (hr : r ∈ records c blockName) :
    r.Canonical := by
  unfold records at hr
  cases hv : c.member? blockName with
  | none => simp [hv] at hr
  | some v =>
    rw [hv, Option.bind_some] at hr
    cases v with
    | array items =>
      cases c with
      | object d => exact (hc.2.canonical (mem_of_value? hv)).canonical hr
      | _ => cases hv
    | _ => cases hr

/-- What is planned is the normal form, also of null. -/
theorem planned_eq : planned (schemaOf kind) c = normalize (schemaOf kind) c := by
  cases c <;> rfl

/-- The records that are planned. What is no object has none and is planned as it is. -/
theorem records_normalize_of_ordered (hc : ∀ d, c = .object d → Dict.Ordered d) :
    records (normalize (schemaOf kind) c) blockName = desired kind c := by
  cases c with
  | object d => exact records_normalize (hc d rfl)
  | _ => rfl

theorem records_planned (hc : c.Canonical) :
    records (normalize (schemaOf kind) c) blockName = desired kind c := by
  refine records_normalize_of_ordered fun d hd => ?_
  subst hd
  exact hc.1

/-- The members of a planned record are in name order. -/
theorem ordered_of_mem_planned (hc : c.Canonical) {d : Dict Json}
    (hd : .object d ∈ records (normalize (schemaOf kind) c) blockName) : Dict.Ordered d := by
  rw [records_planned hc] at hd
  obtain ⟨r, hr, hrd⟩ := List.mem_map.1 hd
  obtain ⟨d₀, rfl⟩ := Block.exists_object_of_normalize hrd
  rw [Block.normalize_object] at hrd
  rw [← Json.object.inj hrd]
  exact Block.ordered_settled _ (canonical_of_mem_records hc hr).1

theorem target_planned (hc : c.Canonical) (ht : target c = .ok t) :
    target (normalize (schemaOf kind) c) = .ok t := by
  obtain ⟨d, rfl, hd⟩ := exists_ordered hc ht
  exact (target_normalize hd).2 ht

theorem member?_planned_id (hc : c.Canonical) (ht : target c = .ok t) :
    (normalize (schemaOf kind) c).member? "id" = some (.string t.service) := by
  obtain ⟨⟨hservice, hne⟩, -⟩ := target_eq_ok_iff.1 ht
  obtain ⟨d, rfl, hd⟩ := exists_ordered hc ht
  have hset : value? d "service_id" = some (.string t.service) := hservice
  rw [member?_normalize_id hd, hset]
  simp [Option.filter, Json.isUnset, hne]

/-- What is no object is its own normal form. -/
theorem normalize_of_ne_object (h : ∀ d, c ≠ .object d) : normalize (schemaOf kind) c = c := by
  unfold normalize Schema.normalize
  rw [Block.normalize_of_ne_object _ h]
  cases c with
  | object d => exact absurd rfl (h d)
  | _ => rfl

/-- **A plan is in normal form**, so carrying it out changes nothing in it. -/
theorem normalize_planned (hc : c.Canonical) :
    normalize (schemaOf kind) (normalize (schemaOf kind) c) = normalize (schemaOf kind) c := by
  by_cases hobject : ∃ d, c = .object d
  · obtain ⟨d, rfl⟩ := hobject
    obtain ⟨d', hd', hordered⟩ := exists_ordered_normalize kind hc.1
    obtain ⟨d'', hd'', hordered'⟩ := exists_ordered_normalize kind hordered
    have honce : ∀ n ≠ "id", value? d' n = (schemaOf kind).block.settle n (value? d n) := by
      intro n hn
      rw [← member?_normalize hc.1 hn, hd']
      rfl
    have hid : value? d' "id" = ((value? d "service_id").filter (!·.isUnset)).or
        ((value? d "id").filter (!·.isUnset)) :=
      calc value? d' "id" = (normalize (schemaOf kind) (.object d)).member? "id" := by rw [hd']; rfl
        _ = _ := member?_normalize_id hc.1
    rw [hd', hd'']
    refine congrArg Json.object (hordered'.ext hordered fun n => ?_)
    change (Json.object d'').member? n = _
    rw [← hd'']
    by_cases hn : n = "id"
    · rw [hn, member?_normalize_id hordered, honce "service_id" (by decide),
        settle_attribute (by decide), Option.filter_filter, hid]
      simp only [Bool.and_self]
      cases (value? d "service_id").filter (!·.isUnset) with
      | none => simp [Option.filter_filter]
      | some v => rfl
    · rw [member?_normalize hordered hn, honce n hn]
      exact (canonical_schemaOf kind).settle_settle (separate_schemaOf kind)
        (fun w hw => hc.2.canonical (mem_of_value? hw)) n
  · have hkeep : normalize (schemaOf kind) c = c :=
      normalize_of_ne_object fun d hd => hobject ⟨d, hd⟩
    rw [hkeep, hkeep]

/-- A plan that is carried out has the records that the configuration asks for. -/
theorem records_carriedOut (hc : c.Canonical) :
    records (normalize (schemaOf kind) (normalize (schemaOf kind) c)) blockName =
      desired kind c := by
  rw [normalize_planned hc, records_planned hc]

theorem target_carriedOut (kind : ServiceKind) (hc : c.Canonical) (ht : target c = .ok t) :
    target (normalize (schemaOf kind) (normalize (schemaOf kind) c)) = .ok t := by
  rw [normalize_planned hc, target_planned hc ht]

/-- What a plan that is carried out addresses, the configuration addresses. -/
theorem target_of_target_carriedOut (hc : c.Canonical)
    (h : target (normalize (schemaOf kind) (normalize (schemaOf kind) c)) = .ok t) :
    target c = .ok t := by
  rw [normalize_planned hc] at h
  obtain ⟨d', hd'⟩ := exists_object_of_target h
  obtain ⟨d, rfl⟩ := exists_object_of_normalize hd'
  exact (target_normalize hc.1).1 h

end Configuration

/-- Two states that address one service version under one identity have the same attributes. -/
theorem member?_eq_of_target {a b : Json} (ha : target a = .ok t) (hb : target b = .ok t)
    (hid : a.member? "id" = b.member? "id") :
    ∀ n ∈ ["id", "service_id", "version"], a.member? n = b.member? n := by
  obtain ⟨⟨haservice, -⟩, haversion, -⟩ := target_eq_ok_iff.1 ha
  obtain ⟨⟨hbservice, -⟩, hbversion, -⟩ := target_eq_ok_iff.1 hb
  intro n hn
  simp only [List.mem_cons, List.not_mem_nil, or_false] at hn
  rcases hn with rfl | rfl | rfl
  · exact hid
  · rw [haservice, hbservice]
  · rw [haversion, hbversion]

end State

end LoggingProvider
