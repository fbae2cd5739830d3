import LoggingProvider.Proofs.Endpoint.Conforming
import LoggingProvider.Proofs.Provider.State
import LoggingProvider.Proofs.Schema.Verdicts

/-!
# The empty text in states

In a state without findings the identity of the service or a required member of a record may still
be the empty text, which the normal form lacks, so the normal form has findings. Conversely a flag,
a count or a text of a fixed choice may be empty: this is found in the state, but not in its normal
form. Apart from these the state and its normal form are accepted alike.

## Main results

* `Endpoint.fit_block`, `State.fit_schemaOf`: the defaults of a state conform
* `State.emptyRequired_schemaOf_iff`, `State.emptyRestricted_schemaOf_iff`: where an empty text
  counts in a state
* `State.accepted_normalize_iff`: when a state and its normal form are accepted alike
-/

namespace LoggingProvider

open Dict

variable {kind : ServiceKind} {p : Attribute → Prop} {q : Nested Block → Prop} {v : Json}

namespace Endpoint

/-! ## The block of an endpoint -/

theorem fit_nameAttr : nameAttr.Fit where
  default := nofun
  normalizer h := absurd rfl h
  allowed := nofun

namespace Field

/-- No field that has a default is required, and its default conforms. -/
theorem fit_attr (f : Field) : f.attr.Fit := by
  constructor
  · intro v hv
    cases f with
    | useTls | parseLogKeyvals =>
      obtain rfl := Option.some.inj hv
      exact ⟨rfl, .value (.bool false) fun hne => absurd rfl hne⟩
    | formatVersion =>
      obtain rfl := Option.some.inj hv
      exact ⟨rfl, .value (.int64 (Number.isInt64_iff.1 rfl)) fun _ =>
        ⟨.ofNat 2, .tail _ (.head _), by decide +kernel⟩⟩
    | requestMaxBytes =>
      obtain rfl := Option.some.inj hv
      exact ⟨rfl, .value (.int64 (Number.isInt64_iff.1 rfl)) fun hne => absurd rfl hne⟩
    | _ => cases hv
  · intro h
    cases f with
    | tlsCaCert | tlsClientCert | tlsClientKey => exact ⟨rfl, rfl, rfl⟩
    | _ => exact absurd rfl h
  · cases f <;> decide

/-- The required fields are the topic and the brokers. -/
theorem required_attr_iff {f : Field} : f.attr.flags.required ↔ f = .topic ∨ f = .brokers := by
  cases f <;> decide

/-- The restricted fields are those that are no free texts. -/
theorem restricted_attr_iff (f : Field) :
    f.attr.Restricted ↔ f.kind ≠ .text ∨ f.attr.allowed ≠ [] := by
  unfold Attribute.Restricted
  rw [f.type_attr, and_iff_right f.not_computedOnly_attr]
  cases f.kind <;> simp [Kind.type]

end Field

theorem fit_block (kind : ServiceKind) : (block kind).Fit := by
  refine .intro ⟨ordered_block kind, fun e _ => ?_, fun e he => ?_⟩ (by simp [blocks_block])
  · rw [blocks_block]
    rfl
  · rcases eq_attr_of_mem he with h | ⟨f, h⟩
    · exact h ▸ fit_nameAttr
    · exact h ▸ f.fit_attr

/-- **Where a record holds the empty text**: in place of its name or of a field. -/
theorem holdsEmpty_block_iff : (block kind).HoldsEmpty p q v ↔
    (p nameAttr ∧ v.member? "name" = some (.string "")) ∨
      ∃ f : Field, f.registered kind ∧ p f.attr ∧ v.member? f.name = some (.string "") := by
  rw [Block.holdsEmpty_iff, blocks_block]
  constructor
  · rintro (⟨e, he, hp, hv⟩ | ⟨e, he, -⟩)
    · rcases mem_attributes_block_iff.1 he with rfl | ⟨f, hf, rfl⟩
      · exact .inl ⟨hp, hv⟩
      · exact .inr ⟨f, hf, hp, hv⟩
    · cases he
  · rintro (⟨hp, hv⟩ | ⟨f, hf, hp, hv⟩)
    · exact .inl ⟨_, mem_attributes_block_iff.2 (.inl rfl), hp, hv⟩
    · exact .inl ⟨_, mem_attributes_block_iff.2 (.inr ⟨f, hf, rfl⟩), hp, hv⟩

/-- **A required member of a record** is its name, its topic or its brokers. -/
theorem emptyRequired_block_iff : (block kind).EmptyRequired v ↔
    ∃ n ∈ ["name", "topic", "brokers"], v.member? n = some (.string "") := by
  unfold Block.EmptyRequired
  rw [holdsEmpty_block_iff]
  constructor
  · rintro (⟨-, hv⟩ | ⟨f, -, hrequired, hv⟩)
    · exact ⟨"name", by decide, hv⟩
    · rcases Field.required_attr_iff.1 hrequired with rfl | rfl
      · exact ⟨"topic", by decide, hv⟩
      · exact ⟨"brokers", by decide, hv⟩
  · rintro ⟨n, hn, hv⟩
    simp only [List.mem_cons, List.not_mem_nil, or_false] at hn
    rcases hn with rfl | rfl | rfl
    · exact .inl ⟨rfl, hv⟩
    · exact .inr ⟨.topic, by cases kind <;> decide, rfl, hv⟩
    · exact .inr ⟨.brokers, by cases kind <;> decide, rfl, hv⟩

/-- **A member that admits no empty text** is a flag, a count or a text of a fixed choice. -/
theorem emptyRestricted_block_iff : (block kind).EmptyRestricted v ↔
    ∃ f : Field, f.registered kind ∧ (f.kind ≠ .text ∨ f.attr.allowed ≠ []) ∧
      v.member? f.name = some (.string "") := by
  unfold Block.EmptyRestricted
  rw [holdsEmpty_block_iff]
  constructor
  · rintro (⟨⟨-, hname⟩, -⟩ | ⟨f, hf, hrestricted, hv⟩)
    · rcases hname with htype | hallowed
      · exact absurd rfl htype
      · exact absurd rfl hallowed
    · exact ⟨f, hf, f.restricted_attr_iff.1 hrestricted, hv⟩
  · rintro ⟨f, hf, hrestricted, hv⟩
    exact .inr ⟨f, hf, f.restricted_attr_iff.2 hrestricted, hv⟩

end Endpoint

namespace State

open Endpoint

/-! ## The schema of a resource -/

/-- The identity is computed, the service is a free text, and the version an integer. -/
theorem attributes_schemaOf_flags (kind : ServiceKind) : ∃ id service version : Attribute,
    (id.computedOnly ∧ id.flags.required = false ∧ id.allowed = []) ∧
      (service.flags.required ∧ service.type = .string ∧ service.allowed = []) ∧
        (version.flags.required ∧ version.computedOnly = false ∧ version.type = .int64 ∧
          version.allowed = []) ∧
          (schemaOf kind).block.attributes =
            [("id", id), ("service_id", service), ("version", version)] :=
  ⟨_, _, _, ⟨rfl, rfl, rfl⟩, ⟨rfl, rfl, rfl⟩, ⟨rfl, rfl, rfl, rfl⟩, rfl⟩

/-- The attributes of a state admit all values of their types. -/
theorem allowed_of_mem {e : String × Attribute} (he : e ∈ (schemaOf kind).block.attributes) :
    e.2.allowed = [] := by
  obtain ⟨id, service, version, hid, hservice, hversion, h⟩ := attributes_schemaOf_flags kind
  rw [h] at he
  simp only [List.mem_cons, List.not_mem_nil, or_false] at he
  rcases he with rfl | rfl | rfl
  · exact hid.2.2
  · exact hservice.2.2
  · exact hversion.2.2.2

theorem fit_schemaOf (kind : ServiceKind) : (schemaOf kind).block.Fit := by
  refine .intro ⟨ordered_schemaOf kind, fun e he => ?_, fun e he => ?_⟩ fun e he => ?_
  · have hname : e.1 ∈ names (schemaOf kind).block.attributes := List.mem_map_of_mem he
    have hne : blockName ≠ e.1 := by
      intro h
      rw [names_attributes_schemaOf, ← h] at hname
      exact absurd hname (by decide)
    rw [blocks_schemaOf, value?_cons, if_neg hne, value?_nil]
  · obtain ⟨hnormalizer, hdefault⟩ := plain_of_mem he
    refine ⟨fun v hv => ?_, fun h => absurd hnormalizer h, fun u hu => ?_⟩
    · rw [hdefault] at hv
      cases hv
    · rw [allowed_of_mem he] at hu
      cases hu
  · rw [blocks_schemaOf] at he
    obtain rfl := List.mem_singleton.1 he
    exact fit_block kind

/-! ## Empty texts in states -/

/-- **Where a state holds the empty text**: in place of an attribute, of the records, or in one of
the records. -/
theorem holdsEmpty_schemaOf_iff : (schemaOf kind).block.HoldsEmpty p q v ↔
    (∃ e ∈ (schemaOf kind).block.attributes, p e.2 ∧ v.member? e.1 = some (.string "")) ∨
      (q (Nested.set (block kind)) ∧ v.member? blockName = some (.string "")) ∨
        ∃ r ∈ records v blockName, (block kind).HoldsEmpty p q r := by
  have hmode : (Nested.set (block kind)).mode ≠ .single := nofun
  rw [Block.holdsEmpty_iff, blocks_schemaOf]
  simp only [List.mem_singleton, exists_eq_left]
  rw [Nested.holdsEmpty_items_iff hmode]
  rfl

/-- **The required members of a state** are the service and the version, and those of its
records. -/
theorem emptyRequired_schemaOf_iff : (schemaOf kind).block.EmptyRequired v ↔
    (v.member? "service_id" = some (.string "") ∨ v.member? "version" = some (.string "")) ∨
      ∃ r ∈ records v blockName, ∃ n ∈ ["name", "topic", "brokers"],
        r.member? n = some (.string "") := by
  obtain ⟨id, service, version, hid, hservice, hversion, h⟩ := attributes_schemaOf_flags kind
  simp only [← @emptyRequired_block_iff kind]
  unfold Block.EmptyRequired
  rw [holdsEmpty_schemaOf_iff, h]
  simp [hid, hservice, hversion]

/-- **The members of a state that admit no empty text** are the version, the list of the records,
and those of the records. -/
theorem emptyRestricted_schemaOf_iff : (schemaOf kind).block.EmptyRestricted v ↔
    v.member? "version" = some (.string "") ∨ v.member? blockName = some (.string "") ∨
      ∃ r ∈ records v blockName, ∃ f : Field, f.registered kind ∧
        (f.kind ≠ .text ∨ f.attr.allowed ≠ []) ∧ r.member? f.name = some (.string "") := by
  obtain ⟨id, service, version, hid, hservice, hversion, h⟩ := attributes_schemaOf_flags kind
  simp only [← @emptyRestricted_block_iff kind]
  unfold Block.EmptyRestricted
  rw [holdsEmpty_schemaOf_iff, h]
  simp [Attribute.Restricted, hid, hservice, hversion]

/-! ## The two verdicts on a state -/

/-- An accepted state has a number as its version. -/
theorem exists_version_of_validate {d : Dict Json}
    (h : (schemaOf kind).validate (.object d) = []) :
    ∃ n, value? d "version" = some (.number n) := by
  obtain ⟨id, service, version, -, -, hversion, hattributes⟩ := attributes_schemaOf_flags kind
  have hmem : ("version", version) ∈ (schemaOf kind).block.attributes := by simp [hattributes]
  have hconforms : version.Conforms (value? d "version") :=
    (((schemaOf kind).block.diagnose_object_eq_nil_iff d "").1 h).1 _ hmem
  obtain ⟨w, hw, htype⟩ := hconforms.exists_value (by simp [hversion]) hversion.1
  rw [hversion.2.2.1] at htype
  cases htype with
  | @int64 n => exact ⟨n, hw⟩

/-- The version of an accepted state is not the empty text. -/
theorem version_ne_empty (h : (schemaOf kind).validate v = []) :
    v.member? "version" ≠ some (.string "") := by
  intro hempty
  cases v with
  | object d =>
    obtain ⟨n, hn⟩ : ∃ n, value? d "version" = some (.number n) := exists_version_of_validate h
    cases hn.symm.trans hempty
  | _ => cases hempty

/-- The version of a state with an accepted normal form is not the empty text, which the normal form
lacks. -/
theorem version_ne_empty_of_normalize (hv : v.Canonical)
    (h : (schemaOf kind).validate ((schemaOf kind).normalize v) = []) :
    v.member? "version" ≠ some (.string "") := by
  intro hempty
  cases v with
  | object d =>
    change value? d "version" = some (.string "") at hempty
    unfold Schema.normalize at h
    rw [Block.normalize_object] at h
    obtain ⟨n, hn⟩ := exists_version_of_validate h
    rw [Block.value?_settled (ordered_schemaOf kind) hv.1, settle_attribute (by decide),
      hempty] at hn
    cases hn
  | _ => cases hempty

/-- **When a state and its normal form are accepted alike**: in an accepted state the service and
the required members of the records are not the empty text, and in a state with an accepted normal
form the records are not, nor any of their members that is no free text. -/
theorem accepted_normalize_iff (kind : ServiceKind) (hv : v.Canonical) :
    ((schemaOf kind).validate v = [] ↔
        (schemaOf kind).validate ((schemaOf kind).normalize v) = []) ↔
      ((schemaOf kind).validate v = [] →
        v.member? "service_id" ≠ some (.string "") ∧
          ∀ r ∈ records v blockName, ∀ n ∈ ["name", "topic", "brokers"],
            r.member? n ≠ some (.string "")) ∧
      ((schemaOf kind).validate ((schemaOf kind).normalize v) = [] →
        v.member? blockName ≠ some (.string "") ∧
          ∀ r ∈ records v blockName, ∀ f : Field, f.registered kind →
            f.kind ≠ .text ∨ f.attr.allowed ≠ [] → r.member? f.name ≠ some (.string "")) := by
  rw [Schema.validate_iff_validate_normalize _ (fit_schemaOf kind) hv]
  -- The version is never the empty text: neither of the two would be accepted.
  refine and_congr (imp_congr_right fun h => ?_) (imp_congr_right fun h => ?_)
  · rw [emptyRequired_schemaOf_iff]
    simp [version_ne_empty h]
  · rw [emptyRestricted_schemaOf_iff]
    simp [version_ne_empty_of_normalize hv h]

/-- A record that leaves its hostname empty. -/
def withoutHostname : Json := .object
  [("brokers", .string "b"), ("name", .string "k"), ("tls_hostname", .string ""),
    ("topic", .string "t")]

/-- A free text may be empty: a state with such a record and its normal form are both accepted. -/
theorem accepted_normalize_iff_of_hostname :
    let state := Json.object [("logging_kafka", .array [withoutHostname]),
      ("service_id", .string "svc"), ("version", .ofNat 1)]
    state.Canonical ∧ (schemaOf .vcl).validate state = [] ∧
      (schemaOf .vcl).validate ((schemaOf .vcl).normalize state) = [] := by
  intro state
  have hcanonical : state.Canonical := by
    refine ⟨ordered_of_names ["logging_kafka", "service_id", "version"] rfl (by decide),
      ⟨⟨?_, trivial, trivial, trivial, trivial, trivial⟩, trivial⟩, trivial, trivial, trivial⟩
    exact ordered_of_names ["brokers", "name", "tls_hostname", "topic"] rfl (by decide)
  have haccepted : (schemaOf .vcl).validate state = [] := List.isEmpty_iff.1 (by decide +kernel)
  have hempty : ∀ r ∈ records state blockName, ∀ n, r.member? n = some (.string "") →
      n = "tls_hostname" := by
    intro r hr n hn
    obtain rfl := List.mem_singleton.1 hr
    simp only [withoutHostname, Json.member?, value?_cons, value?_nil] at hn
    split_ifs at hn with hbrokers hname hhostname htopic
    · simp at hn
    · simp at hn
    · exact hhostname.symm
    · simp at hn
  refine ⟨hcanonical, haccepted, ((accepted_normalize_iff .vcl hcanonical).2 ⟨fun _ => ?_,
    fun _ => ?_⟩).1 haccepted⟩
  · refine ⟨by simp [state, Json.member?, value?_cons], fun r hr n hn h => ?_⟩
    rw [hempty r hr n h] at hn
    exact absurd hn (by decide)
  · refine ⟨by simp [state, Json.member?, value?_cons, blockName], fun r hr f _ hrestricted h => ?_⟩
    obtain rfl : f = .tlsHostname := Field.name_injective (hempty r hr f.name h)
    rcases hrestricted with hkind | hallowed
    · exact hkind rfl
    · exact hallowed rfl

/-- **Empty texts tell the verdicts apart.** An accepted state whose service is empty has a normal
form that is refused, and a refused state whose codec is empty has one that is accepted. -/
theorem empty_text_judged_apart :
    let unnamed : Json := .object [("service_id", .string ""), ("version", .ofNat 1)]
    let uncompressed : Json := .object
      [("logging_kafka", .array [.object [("brokers", .string "b"),
        ("compression_codec", .string ""), ("name", .string "k"), ("topic", .string "t")]]),
        ("service_id", .string "svc"), ("version", .ofNat 1)]
    ((schemaOf .vcl).validate unnamed = [] ∧
        (schemaOf .vcl).validate ((schemaOf .vcl).normalize unnamed) ≠ []) ∧
      (schemaOf .vcl).validate uncompressed ≠ [] ∧
        (schemaOf .vcl).validate ((schemaOf .vcl).normalize uncompressed) = [] := by
  refine ⟨⟨List.isEmpty_iff.1 ?_, List.isEmpty_eq_false_iff.1 ?_⟩,
    List.isEmpty_eq_false_iff.1 ?_, List.isEmpty_iff.1 ?_⟩
  all_goals decide +kernel

end State

end LoggingProvider
