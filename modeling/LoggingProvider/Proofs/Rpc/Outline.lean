import LoggingProvider.Proofs.Rpc.Payload
import LoggingProvider.Proofs.Schema.Codec

/-!
# What the message of a schema tells

The message of a schema has room for everything in the schema but the normalizers of its attributes,
and it does not tell a description that is absent from an empty one. Integers wrap around, which
loses nothing, and types, defaults and allowed values are told by the bytes of their documents: what
is absent has no bytes, and every document has some. So two schemas have the same message exactly
when they agree in all of this, on every depth.

## Main definitions

* `Schema.outline`: a schema with what its message has no room for left out
* `Block.FloatFree`: no floating-point number occurs in a default or among the allowed values

## Main results

* `Rpc.AttributeMessage.ofAttribute_eq_iff`: when two attributes have the same message
* `Rpc.BlockMessage.ofBlock_eq_iff`: when two blocks have the same message
* `Rpc.SchemaMessage.ofSchema_eq_iff`: when two schemas have the same message
-/

namespace LoggingProvider

/-! ## Outlines -/

/-- **The attribute with what a message has no room for left out**: it has no normalizer, and the
empty text for an absent description. -/
def Attribute.outline (a : Attribute) : Attribute :=
  { a with description := some (a.description.getD ""), normalizer := none }

mutual

/-- **The block with what a message has no room for left out**, on every depth. -/
def Block.outline : Block → Block
  | ⟨attributes, blocks, description⟩ =>
    ⟨Dict.mapValues Attribute.outline attributes, Block.outlineBlocks blocks,
      some (description.getD "")⟩

/-- Nested blocks with what a message has no room for left out. -/
def Block.outlineBlocks : List (String × Nested Block) → List (String × Nested Block)
  | [] => []
  | (name, ⟨block, mode, minItems, maxItems⟩) :: rest =>
    (name, ⟨block.outline, mode, minItems, maxItems⟩) :: Block.outlineBlocks rest

end

/-- **The schema with what a message has no room for left out.** -/
def Schema.outline (s : Schema) : Schema := { s with block := s.block.outline }

/-- No floating-point number occurs in the default or among the allowed values. -/
structure Attribute.FloatFree (a : Attribute) : Prop where
  default : ∀ v, a.default = some v → v.FloatFree
  allowed : ∀ v ∈ a.allowed, v.FloatFree

/-- **No floating-point number occurs in a default or among the allowed values**, on any depth. -/
def Block.FloatFree : Block → Prop :=
  Throughout fun b => ∀ e ∈ b.attributes, e.2.FloatFree

theorem Block.outlineBlocks_eq (blocks : List (String × Nested Block)) : outlineBlocks blocks =
    blocks.map fun e =>
      (e.1, ⟨e.2.block.outline, e.2.mode, e.2.minItems, e.2.maxItems⟩) := by
  induction blocks with
  | nil => rfl
  | cons e rest ih =>
    obtain ⟨name, block, mode, least, most⟩ := e
    rw [outlineBlocks, ih, List.map_cons]

theorem Block.outline_eq (b : Block) : b.outline =
    ⟨b.attributes.map fun e => (e.1, e.2.outline),
      b.blocks.map fun e => (e.1, ⟨e.2.block.outline, e.2.mode, e.2.minItems, e.2.maxItems⟩),
      some (b.description.getD "")⟩ := by
  obtain ⟨attributes, blocks, description⟩ := b
  rw [outline, outlineBlocks_eq]
  rfl

/-- Lists that are told apart alike by two functions. -/
theorem map_eq_map_iff_of_forall {α β γ : Type} {f : α → β} {g : α → γ} {l k : List α}
    (h : ∀ a ∈ l, ∀ b ∈ k, f a = f b ↔ g a = g b) : l.map f = k.map f ↔ l.map g = k.map g := by
  induction l generalizing k with
  | nil => simp
  | cons a l ih =>
    cases k with
    | nil => simp
    | cons b k =>
      have hhead : f a = f b ↔ g a = g b := h a List.mem_cons_self b List.mem_cons_self
      have htail : l.map f = k.map f ↔ l.map g = k.map g := ih fun c hc d hd =>
        h c (List.mem_cons_of_mem a hc) d (List.mem_cons_of_mem b hd)
      simp only [List.map_cons, List.cons.injEq, hhead, htail]

/-! ## Types -/

theorem AttributeType.floatFree_toJson (t : AttributeType) : t.toJson.FloatFree := by
  induction t with
  | string | int64 | bool => trivial
  | list element ih => exact ⟨ih, trivial⟩

/-- **Types with the same bytes are equal.** -/
theorem AttributeType.encode_toJson_inj {t u : AttributeType} :
    t.toJson.encode = u.toJson.encode ↔ t = u := by
  constructor
  · intro h
    have hjson : t.toJson = u.toJson := Json.eq_of_encode_eq t.floatFree_toJson u.floatFree_toJson h
    have hread := t.ofJson_toJson false
    rw [hjson, u.ofJson_toJson] at hread
    exact (Except.ok.inj hread).symm
  · rintro rfl
    rfl

namespace Rpc

/-! ## Attributes -/

/-- **Values that may be absent are told by their bytes.** -/
theorem ChangeMessage.bytesOf_inj {v w : Option Json} (hv : ∀ u, v = some u → u.FloatFree)
    (hw : ∀ u, w = some u → u.FloatFree) : bytesOf v = bytesOf w ↔ v = w := by
  constructor
  · intro h
    cases v with
    | none => exact (bytesOf_eq_nil_iff.1 h.symm).symm
    | some v =>
      cases w with
      | none => exact bytesOf_eq_nil_iff.1 h
      | some w => exact congrArg some (Json.eq_of_encode_eq (hv v rfl) (hw w rfl) h)
  · rintro rfl
    rfl

namespace AttributeMessage

/-- **Allowed values are told by their bytes**, and no restriction has none. -/
theorem allowed_inj {vs ws : List Json} (hv : ∀ v ∈ vs, v.FloatFree)
    (hw : ∀ w ∈ ws, w.FloatFree) :
    (if vs.isEmpty then [] else (Json.array vs).encode) =
        (if ws.isEmpty then [] else (Json.array ws).encode) ↔ vs = ws := by
  constructor
  · intro h
    cases vs with
    | nil =>
      cases ws with
      | nil => rfl
      | cons w ws => exact absurd h.symm (Json.encode_ne_nil _)
    | cons v vs =>
      cases ws with
      | nil => exact absurd h (Json.encode_ne_nil _)
      | cons w ws =>
        have harray : Json.array (v :: vs) = .array (w :: ws) :=
          Json.eq_of_encode_eq (Json.floatFreeItems_iff.2 hv) (Json.floatFreeItems_iff.2 hw) h
        exact Json.array.inj harray
  · rintro rfl
    rfl

/-- **When two attributes have the same message**: they have the same name and the same outline. -/
theorem ofAttribute_eq_iff {n m : String} {a b : Attribute} (ha : a.FloatFree)
    (hb : b.FloatFree) : ofAttribute n a = ofAttribute m b ↔ n = m ∧ a.outline = b.outline := by
  have htype := AttributeType.encode_toJson_inj (t := a.type) (u := b.type)
  have hdefault : (a.default.map Json.encode).getD [] = (b.default.map Json.encode).getD [] ↔
      a.default = b.default := ChangeMessage.bytesOf_inj ha.default hb.default
  have hallowed := allowed_inj ha.allowed hb.allowed
  obtain ⟨type, ⟨required, optional, computed, sensitive⟩, description, forceNew, default, allowed,
    normalizer⟩ := a
  obtain ⟨type', ⟨required', optional', computed', sensitive'⟩, description', forceNew', default',
    allowed', normalizer'⟩ := b
  simp only at htype hdefault hallowed
  simp only [ofAttribute, Attribute.outline, AttributeMessage.mk.injEq, Attribute.mk.injEq,
    Flags.mk.injEq, Option.some.injEq, htype, hdefault, hallowed, and_assoc, and_true]

end AttributeMessage

/-! ## Blocks -/

/-- The numbers of nesting modes are distinct. -/
theorem modeCode_inj {m k : NestingMode} : modeCode m = modeCode k ↔ m = k := by
  cases m <;> cases k <;> decide

/-- A limit that wraps around is told by what it becomes. -/
theorem toInt32_inj {m n : UInt32} : m.toInt32 = n.toInt32 ↔ m = n :=
  (Function.LeftInverse.injective UInt32.toUInt32_toInt32).eq_iff

/-- A version that wraps around is told by what it becomes. -/
theorem toInt64_inj {m n : UInt64} : m.toInt64 = n.toInt64 ↔ m = n :=
  (Function.LeftInverse.injective UInt64.toUInt64_toInt64).eq_iff

namespace BlockMessage

theorem ofNested_eq (blocks : List (String × Nested Block)) : ofNested blocks =
    blocks.map fun e => (e.1, ofBlock e.2.block, modeCode e.2.mode, e.2.minItems.toInt32,
      e.2.maxItems.toInt32) := by
  induction blocks with
  | nil => rfl
  | cons e rest ih =>
    obtain ⟨name, block, mode, least, most⟩ := e
    rw [ofNested, ih, List.map_cons]

theorem ofBlock_eq (b : Block) : ofBlock b =
    .mk (b.attributes.map fun e => .ofAttribute e.1 e.2)
      (b.blocks.map fun e => (e.1, ofBlock e.2.block, modeCode e.2.mode, e.2.minItems.toInt32,
        e.2.maxItems.toInt32)) (b.description.getD "") := by
  obtain ⟨attributes, blocks, description⟩ := b
  rw [ofBlock, ofNested_eq]

/-- **When two blocks have the same message**: they have the same outline. -/
theorem ofBlock_eq_iff {b c : Block} (hb : b.FloatFree) (hc : c.FloatFree) :
    ofBlock b = ofBlock c ↔ b.outline = c.outline := by
  induction b using Block.induction generalizing c with
  | step b ih =>
    obtain ⟨hattributes, hblocks⟩ := hb
    obtain ⟨hattributes', hblocks'⟩ := hc
    have hattribute : ∀ e ∈ b.attributes, ∀ f ∈ c.attributes,
        AttributeMessage.ofAttribute e.1 e.2 = .ofAttribute f.1 f.2 ↔
          (e.1, e.2.outline) = (f.1, f.2.outline) := by
      intro e he f hf
      rw [AttributeMessage.ofAttribute_eq_iff (hattributes e he) (hattributes' f hf),
        Prod.mk.injEq]
    have hnested : ∀ e ∈ b.blocks, ∀ f ∈ c.blocks,
        (e.1, ofBlock e.2.block, modeCode e.2.mode, e.2.minItems.toInt32, e.2.maxItems.toInt32) =
            (f.1, ofBlock f.2.block, modeCode f.2.mode, f.2.minItems.toInt32,
              f.2.maxItems.toInt32) ↔
          (e.1, (⟨e.2.block.outline, e.2.mode, e.2.minItems, e.2.maxItems⟩ : Nested Block)) =
            (f.1, ⟨f.2.block.outline, f.2.mode, f.2.minItems, f.2.maxItems⟩) := by
      intro e he f hf
      simp only [Prod.mk.injEq, Nested.mk.injEq, ih e he (hblocks e he) (hblocks' f hf),
        modeCode_inj, toInt32_inj]
    rw [ofBlock_eq, ofBlock_eq, b.outline_eq, c.outline_eq, BlockMessage.mk.injEq, Block.mk.injEq,
      Option.some.injEq, map_eq_map_iff_of_forall hattribute,
      map_eq_map_iff_of_forall hnested]

end BlockMessage

/-! ## Schemas -/

/-- **The message of a schema loses nothing that it has room for.** Two schemas without
floating-point numbers in defaults and allowed values have the same message exactly when they are
equal but for normalizers and for descriptions that are absent in one and empty in the other. -/
theorem SchemaMessage.ofSchema_eq_iff {s t : Schema} (hs : s.block.FloatFree)
    (ht : t.block.FloatFree) : ofSchema s = ofSchema t ↔ s.outline = t.outline := by
  obtain ⟨version, block⟩ := s
  obtain ⟨version', block'⟩ := t
  simp only [ofSchema, Schema.outline, SchemaMessage.mk.injEq, Schema.mk.injEq,
    toInt64_inj, BlockMessage.ofBlock_eq_iff hs ht]

/-- A schema of groups of rules, where each rule has a tag. -/
def tagged (tag : Attribute) : Schema :=
  let rule := Block.empty.withAttribute "tag" tag
  let group := Block.empty.withBlock "rule" ((Nested.set rule).withMinItems 4294967295)
  (Schema.empty 18446744073709551615).withBlock "group" (Nested.list group)

theorem floatFree_tagged {tag : Attribute} (h : tag.FloatFree) : (tagged tag).block.FloatFree := by
  refine ⟨nofun, fun e he => ?_⟩
  obtain rfl := List.mem_singleton.1 he
  refine ⟨nofun, fun e he => ?_⟩
  obtain rfl := List.mem_singleton.1 he
  refine ⟨fun e he => ?_, nofun⟩
  obtain rfl := List.mem_singleton.1 he
  exact h

/-- In the tag of a rule, two levels down, the message does not tell a normalizer nor an empty
description, but it tells a default that is null from none. -/
theorem SchemaMessage.ofSchema_eq_iff_of_tagged :
    let tag := Attribute.plain (.list .string) .optionalOnly
    ofSchema (tagged (tag.withNormalizer .trimSpace)) = ofSchema (tagged (tag.withDescription "")) ∧
      ofSchema (tagged (tag.withDefault .null)) ≠ ofSchema (tagged tag) := by
  intro tag
  have hplain : tag.FloatFree := by
    constructor <;> simp [tag, Attribute.plain]
  have hnull : (tag.withDefault .null).FloatFree := by
    refine ⟨?_, hplain.allowed⟩
    rintro v ⟨⟩
    trivial
  constructor
  · have htrimmed : (tag.withNormalizer .trimSpace).FloatFree := ⟨hplain.default, hplain.allowed⟩
    have hdescribed : (tag.withDescription "").FloatFree := ⟨hplain.default, hplain.allowed⟩
    exact (ofSchema_eq_iff (floatFree_tagged htrimmed) (floatFree_tagged hdescribed)).2 rfl
  · rw [Ne, ofSchema_eq_iff (floatFree_tagged hnull) (floatFree_tagged hplain)]
    intro h
    simp [tagged, tag, Schema.outline, Schema.withBlock, Schema.empty, Block.withBlock,
      Block.withAttribute, Block.empty, Block.outline, Block.outlineBlocks, Dict.put, Dict.mapValues,
      Nested.list, Nested.set, Nested.withMinItems, Attribute.outline, Attribute.withDefault,
      Attribute.plain] at h

end Rpc

end LoggingProvider
