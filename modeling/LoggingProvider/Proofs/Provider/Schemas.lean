import LoggingProvider.Proofs.Provider.State

/-!
# The registered schemas

The provider registers the schema of its configuration and one schema for each resource type. Their
maps are in name order, and none of their attributes has both a normalizer and a default, so what
they normalize is settled once.

## Main definitions

* `ProviderSchema.all`: the schemas that a provider registers

## Main results

* `Schema.normalize_idempotent`: a value is normalized once, and the registered schemas are among
  those of which this is so
-/

namespace LoggingProvider

open Dict

/-- The schemas that a provider registers: of its configuration and of each resource type. -/
def ProviderSchema.all (s : ProviderSchema) : List Schema :=
  s.provider :: s.resources.map Prod.snd

namespace Schema

theorem mem_all_providerSchema {s : Schema} (hs : s ∈ State.providerSchema.all) :
    s = Config.schema ∨ ∃ kind, s = State.schemaOf kind := by
  have hall : State.providerSchema.all =
      [Config.schema, State.schemaOf .compute, State.schemaOf .vcl] := rfl
  rw [hall] at hs
  simp only [List.mem_cons, List.not_mem_nil, or_false] at hs
  rcases hs with rfl | rfl | rfl
  · exact .inl rfl
  · exact .inr ⟨.compute, rfl⟩
  · exact .inr ⟨.vcl, rfl⟩

/-- The settings of the provider have no normalizers, and their defaults are no objects. -/
theorem attribute_config {e : String × Attribute} (he : e ∈ Config.schema.block.attributes) :
    e.2.normalizer = none ∧ ∀ v, e.2.default = some v → v.Canonical := by
  have hattributes : ∃ key baseUrl timeout : Attribute,
      (key.normalizer = none ∧ key.default = none) ∧
        (baseUrl.normalizer = none ∧ baseUrl.default = none) ∧
          (timeout.normalizer = none ∧ timeout.default = some (.ofUInt64 Config.defaultTimeout)) ∧
            Config.schema.block.attributes =
              [("api_key", key), ("base_url", baseUrl), ("timeout_seconds", timeout)] :=
    ⟨_, _, _, ⟨rfl, rfl⟩, ⟨rfl, rfl⟩, ⟨rfl, rfl⟩, rfl⟩
  obtain ⟨key, baseUrl, timeout, hkey, hurl, htimeout, h⟩ := hattributes
  rw [h] at he
  simp only [List.mem_cons, List.not_mem_nil, or_false] at he
  rcases he with rfl | rfl | rfl
  · exact ⟨hkey.1, fun v hv => by simp [hkey.2] at hv⟩
  · exact ⟨hurl.1, fun v hv => by simp [hurl.2] at hv⟩
  · refine ⟨htimeout.1, fun v hv => ?_⟩
    obtain rfl := Option.some.inj (htimeout.2.symm.trans hv)
    trivial

theorem canonical_config : Config.schema.block.Canonical := by
  refine .intro ⟨⟨?_, ordered_nil⟩, fun e he => (attribute_config he).2⟩ nofun
  exact ordered_of_names ["api_key", "base_url", "timeout_seconds"] rfl (by decide)

theorem separate_config : Config.schema.block.Separate :=
  .intro (fun _ he => .inl (attribute_config he).1) nofun

/-- **Normalization is idempotent.** A value is normalized once against every schema, nested to any
depth, in which no attribute has both a normalizer and a default; so it is in every schema that the
provider registers. -/
theorem normalize_idempotent :
    (∀ s ∈ State.providerSchema.all, s.block.Canonical ∧ s.block.Separate) ∧
      ∀ s : Schema, s.block.Canonical → s.block.Separate → ∀ v : Json, v.Canonical →
        s.normalize (s.normalize v) = s.normalize v := by
  constructor
  · intro s hs
    rcases mem_all_providerSchema hs with rfl | ⟨kind, rfl⟩
    · exact ⟨canonical_config, separate_config⟩
    · exact ⟨State.canonical_schemaOf kind, State.separate_schemaOf kind⟩
  · intro s hs hseparate v hv
    exact s.block.normalize_normalize hs hseparate hv

/-- A schema with an attribute and a list of blocks that share a name. Its defaults are a list of
blocks and the empty text, and inside a block null. -/
def sharing : Schema :=
  let row := (Block.empty.withAttribute "note" (Attribute.optionalString.withDefault .null)
    ).withAttribute "text" (Attribute.optionalString.withNormalizer .trimSpace)
  let rows := Attribute.optionalString.withDefault (.array [.object [("text", .string " ")]])
  let title := Attribute.optionalString.withDefault (.string "")
  (((Schema.empty 0).withAttribute "rows" rows).withAttribute "title" title).withBlock "rows"
    (Nested.list row)

theorem canonical_sharing : sharing.block.Canonical := by
  refine .intro ⟨⟨ordered_of_names ["rows", "title"] rfl (by decide),
    List.pairwise_singleton _ _⟩, fun e he v hv => ?_⟩ fun e he => ?_
  · rcases List.mem_pair.1 he with rfl | rfl <;> obtain rfl := Option.some.inj hv
    · exact ⟨⟨List.pairwise_singleton _ _, trivial, trivial⟩, trivial⟩
    · trivial
  · obtain rfl := List.mem_singleton.1 he
    refine .intro ⟨⟨ordered_of_names ["note", "text"] rfl (by decide), ordered_nil⟩,
      fun e he v hv => ?_⟩ nofun
    rcases List.mem_pair.1 he with rfl | rfl
    · obtain rfl := Option.some.inj hv
      trivial
    · cases hv

theorem separate_sharing : sharing.block.Separate := by
  refine .intro (fun e he => ?_) fun e he => ?_
  · rcases List.mem_pair.1 he with rfl | rfl <;> exact .inl rfl
  · obtain rfl := List.mem_singleton.1 he
    refine .intro (fun e he => ?_) nofun
    rcases List.mem_pair.1 he with rfl | rfl
    · exact .inl rfl
    · exact .inr rfl

/-- The default of the shared name is normalized like a list of blocks that is given, and stays as
it then is. -/
theorem normalize_idempotent_sharing :
    let v := Json.object [("title", .null)]
    let w := Json.object [("rows", .array [.object [("note", .null)]]), ("title", .string "")]
    sharing.normalize v = w ∧ sharing.normalize w = w := by
  have honce := normalize_idempotent.2 sharing canonical_sharing separate_sharing
    (.object [("title", .null)]) ⟨List.pairwise_singleton _ _, trivial, trivial⟩
  exact ⟨rfl, honce⟩

end Schema

end LoggingProvider
