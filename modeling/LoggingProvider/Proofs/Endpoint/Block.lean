import LoggingProvider.Endpoint.Block
import LoggingProvider.Proofs.Schema.Idempotence

/-!
# The members of an endpoint's block

The block of an endpoint has the name and the registered fields as attributes, and no nested
blocks. Under each of these names it settles a value as the attribute does; under any other name it
keeps a value that is set.

## Main definitions

* `Endpoint.Field.named?`: the registered field with a name
* `Endpoint.Field.shown`: the value of a field in a normal form

## Main results

* `Endpoint.value?_attributes_block`, `Endpoint.mem_attributes_block_iff`: the attributes of the
  block
* `Endpoint.settle_block_name`, `Endpoint.settle_block_field`,
  `Endpoint.settle_block_of_not_hasField`: the values in its normal forms
* `Endpoint.settle_block_settle`: the block settles once
-/

namespace LoggingProvider

open Dict

namespace Endpoint

namespace Field

theorem nodup_map_name : (all.map name).Nodup := by decide

theorem name_injective : Function.Injective name := fun f g h =>
  List.inj_on_of_nodup_map nodup_map_name (mem_all f) (mem_all g) h

theorem name_ne_name (f : Field) : f.name ≠ "name" := by
  cases f <;> decide

theorem mem_registeredIn {kind : ServiceKind} {f : Field} :
    f ∈ registeredIn kind ↔ f.registered kind := by
  simp [registeredIn, mem_all]

theorem nodup_map_name_registeredIn (kind : ServiceKind) :
    ((registeredIn kind).map name).Nodup :=
  List.Nodup.sublist (List.Sublist.map name List.filter_sublist) nodup_map_name

/-- The registered field with a name. -/
def named? (kind : ServiceKind) (n : String) : Option Field :=
  (registeredIn kind).find? fun f => f.name = n

theorem named?_eq_some_iff {kind : ServiceKind} {n : String} {f : Field} :
    named? kind n = some f ↔ f.registered kind ∧ f.name = n := by
  constructor
  · intro h
    have hname := List.find?_some h
    exact ⟨mem_registeredIn.1 (List.mem_of_find?_eq_some h), by simpa using hname⟩
  · rintro ⟨hf, rfl⟩
    cases h : named? kind f.name with
    | none =>
      have hnone := List.find?_eq_none.1 h f (mem_registeredIn.2 hf)
      simp at hnone
    | some g =>
      have hname := List.find?_some h
      rw [name_injective (by simpa using hname : g.name = f.name)]

theorem named?_name {kind : ServiceKind} {f : Field} (hf : f.registered kind) :
    named? kind f.name = some f :=
  named?_eq_some_iff.2 ⟨hf, rfl⟩

theorem named?_eq_none_iff {kind : ServiceKind} {n : String} :
    named? kind n = none ↔ ∀ f : Field, f.registered kind → f.name ≠ n := by
  rw [Option.eq_none_iff_forall_ne_some]
  refine forall_congr' fun f => ?_
  rw [Ne, named?_eq_some_iff, not_and]

theorem named?_nameAttr (kind : ServiceKind) : named? kind "name" = none :=
  named?_eq_none_iff.2 fun f _ => f.name_ne_name

/-- A field has no normalizer or no default. -/
theorem normalizer_or_default (f : Field) : f.attr.normalizer = none ∨ f.attr.default = none := by
  cases f <;> simp [attr, pem, Attribute.withDescription, Attribute.withNormalizer,
    Attribute.withDefault, Attribute.withAllowed, Attribute.hidden, Attribute.requiredString,
    Attribute.optionalString, Attribute.optionalBool, Attribute.optionalInt64, Attribute.plain]

/-- A default is a set value of the field's kind. -/
theorem default_typed {f : Field} {v : Json} (h : f.attr.default = some v) :
    v.isUnset = false ∧ ∃ c, v = f.kind.toJson c := by
  cases f <;> simp only [attr, pem, Attribute.withDescription, Attribute.withNormalizer,
    Attribute.withDefault, Attribute.withAllowed, Attribute.hidden, Attribute.requiredString,
    Attribute.optionalString, Attribute.optionalBool, Attribute.optionalInt64, Attribute.plain,
    Option.some.injEq, reduceCtorEq] at h <;> subst h
  · exact ⟨rfl, false, rfl⟩
  · exact ⟨rfl, 2, rfl⟩
  · exact ⟨rfl, false, rfl⟩
  · exact ⟨rfl, 0, rfl⟩

/-- The fields without a default are the texts. -/
theorem default_eq_none_iff {f : Field} : f.attr.default = none ↔ f.kind = .text := by
  cases f <;> simp [attr, pem, kind, Attribute.withDescription, Attribute.withNormalizer,
    Attribute.withDefault, Attribute.withAllowed, Attribute.hidden, Attribute.requiredString,
    Attribute.optionalString, Attribute.optionalBool, Attribute.optionalInt64, Attribute.plain]

/-- **The value of a field in a normal form.** -/
def shown (f : Field) (v : Option f.kind.Carrier) : Option Json :=
  f.attr.settle (v.map f.kind.toJson)

end Field

/-! ## The attributes of the block -/

section Fold

theorem attributes_foldl_withAttribute (l : List Field) (b : Block) :
    (l.foldl (fun b f => b.withAttribute f.name f.attr) b).attributes =
      l.foldl (fun d f => put f.name f.attr d) b.attributes := by
  induction l generalizing b with
  | nil => rfl
  | cons f rest ih => exact ih _

theorem blocks_foldl_withAttribute (l : List Field) (b : Block) :
    (l.foldl (fun b f => b.withAttribute f.name f.attr) b).blocks = b.blocks := by
  induction l generalizing b with
  | nil => rfl
  | cons f rest ih => exact ih _

end Fold

variable (kind : ServiceKind)

theorem attributes_block : (block kind).attributes =
    (Field.registeredIn kind).foldl (fun d f => put f.name f.attr d) [("name", nameAttr)] :=
  attributes_foldl_withAttribute _ _

theorem blocks_block : (block kind).blocks = [] :=
  blocks_foldl_withAttribute _ _

theorem ordered_block : (block kind).Ordered where
  attributes := by
    rw [attributes_block]
    exact ordered_foldl_put _ _ _ (List.pairwise_singleton _ _)
  blocks := by
    rw [blocks_block]
    exact ordered_nil

/-- **The attributes of the block**: the name and the registered fields. -/
theorem value?_attributes_block (n : String) : value? (block kind).attributes n =
    ((Field.named? kind n).map Field.attr).or (if "name" = n then some nameAttr else none) := by
  rw [attributes_block,
    value?_foldl_put Field.name Field.attr _ _ (Field.nodup_map_name_registeredIn kind)]
  rfl

/-- An entry of the block's attributes is that of the name or of a registered field. -/
theorem mem_attributes_block_iff {kind : ServiceKind} {e : String × Attribute} :
    e ∈ (block kind).attributes ↔
      e = ("name", nameAttr) ∨ ∃ f : Field, f.registered kind ∧ e = (f.name, f.attr) := by
  obtain ⟨n, a⟩ := e
  rw [(ordered_block kind).attributes.mem_iff, value?_attributes_block, Option.or_eq_some_iff,
    Option.map_eq_some_iff]
  constructor
  · rintro (⟨f, hf, rfl⟩ | ⟨-, h⟩)
    · obtain ⟨hregistered, rfl⟩ := Field.named?_eq_some_iff.1 hf
      exact .inr ⟨f, hregistered, rfl⟩
    · obtain ⟨rfl, rfl⟩ : "name" = n ∧ nameAttr = a := by simpa using h
      exact .inl rfl
  · rintro (⟨rfl, rfl⟩ | ⟨f, hf, ⟨rfl, rfl⟩⟩)
    · exact .inr ⟨by rw [Field.named?_nameAttr]; rfl, rfl⟩
    · exact .inl ⟨f, Field.named?_name hf, rfl⟩

theorem hasField_block {n : String} : (block kind).hasField n ↔
    n = "name" ∨ ∃ f : Field, f.registered kind ∧ f.name = n := by
  unfold Block.hasField
  rw [blocks_block, Bool.or_eq_true, hasName_iff, value?_attributes_block]
  cases h : Field.named? kind n with
  | some f =>
    have hf := Field.named?_eq_some_iff.1 h
    simpa using .inr ⟨f, hf⟩
  | none =>
    have hnone := Field.named?_eq_none_iff.1 h
    by_cases hn : n = "name"
    · simp [hn]
    · simpa [hasName, hn, Ne.symm hn] using hnone

/-! ## The values in its normal forms -/

variable {kind}

theorem settle_block (n : String) (v : Option Json) :
    (block kind).settle n v = (block kind).settleAttribute n (v.filter (!·.isUnset)) := by
  unfold Block.settle Block.settleNested
  rw [blocks_block]
  rfl

theorem settle_block_field {f : Field} (hf : f.registered kind) (v : Option Json) :
    (block kind).settle f.name v = f.attr.settle v := by
  rw [settle_block, Block.settleAttribute, value?_attributes_block, Field.named?_name hf]
  exact f.attr.settle_filter v

/-- The name settles as it is. -/
theorem settle_block_name (v : Option Json) :
    (block kind).settle "name" v = v.filter (!·.isUnset) := by
  have hname : value? (block kind).attributes "name" = some nameAttr := by
    rw [value?_attributes_block, Field.named?_nameAttr]
    rfl
  rw [settle_block, Block.settleAttribute, hname]
  simp only
  rw [Attribute.settle_filter]
  cases v with
  | none => rfl
  | some w => exact Option.or_none

/-- A member without a meaning is kept if it is set. -/
theorem settle_block_of_not_hasField {n : String} (hn : ¬(block kind).hasField n)
    (v : Option Json) : (block kind).settle n v = v.filter (!·.isUnset) := by
  have hnone : value? (block kind).attributes n = none := by
    rw [hasField_block, not_or] at hn
    rw [value?_attributes_block, if_neg (Ne.symm hn.1), Option.or_none, Option.map_eq_none_iff,
      Field.named?_eq_none_iff]
    exact fun f hf hfn => hn.2 ⟨f, hf, hfn⟩
  rw [settle_block, Block.settleAttribute, hnone]

/-! ## Normalizing twice -/

/-- An attribute of the block is that of the name or of a registered field. -/
theorem eq_attr_of_mem {e : String × Attribute} (he : e ∈ (block kind).attributes) :
    e.2 = nameAttr ∨ ∃ f : Field, e.2 = f.attr := by
  rcases mem_attributes_block_iff.1 he with rfl | ⟨f, -, rfl⟩
  · exact .inl rfl
  · exact .inr ⟨f, rfl⟩

theorem separate_attributes_block {e : String × Attribute} (he : e ∈ (block kind).attributes) :
    e.2.normalizer = none ∨ e.2.default = none := by
  rcases eq_attr_of_mem he with h | ⟨f, h⟩
  · exact .inl (h ▸ rfl)
  · exact h ▸ f.normalizer_or_default

theorem separate_block (kind : ServiceKind) : (block kind).Separate :=
  .intro (fun _ => separate_attributes_block) (by simp [blocks_block])

theorem canonical_block (kind : ServiceKind) : (block kind).Canonical := by
  refine .intro ⟨ordered_block kind, fun e he v hv => ?_⟩ (by simp [blocks_block])
  rcases eq_attr_of_mem he with h | ⟨f, h⟩
  · rw [h] at hv
    cases hv
  · rw [h] at hv
    obtain ⟨-, c, rfl⟩ := Field.default_typed hv
    cases f <;> trivial

/-- **The block settles once.** -/
theorem settle_block_settle (n : String) (v : Option Json) :
    (block kind).settle n ((block kind).settle n v) = (block kind).settle n v :=
  Block.settle_settle (fun _ ha => separate_attributes_block (mem_of_value? ha))
    (by simp [blocks_block])

end Endpoint

end LoggingProvider
