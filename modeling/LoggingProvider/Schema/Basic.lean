import LoggingProvider.Json.Basic
import LoggingProvider.Text.Blank

/-!
# Schemas

A schema says which attributes and nested blocks the configuration of a resource has. An attribute
has a type, flags, and optionally a default, a list of allowed values and a normalizer. A nested
block occurs once, as a list or as a set, and may be nested to any depth.

## Main definitions

* `AttributeType`, `Attribute`: the attributes of a block
* `Block`, `Nested`, `NestingMode`: blocks, and how they are nested
* `Schema`, `ProviderSchema`: the schema of one resource, and of a whole provider
* `Block.hasField`: whether a name is an attribute or a nested block

## Main results

* `Block.induction`: induction on the nesting of blocks
-/

namespace LoggingProvider

/-- **The type of an attribute.** -/
inductive AttributeType where
  | string
  | int64
  | bool
  | list (element : AttributeType)
deriving DecidableEq, Inhabited

/-- How an attribute can be used. -/
structure Flags where
  /-- The configuration must give it. -/
  required : Bool
  /-- The configuration may give it. -/
  optional : Bool
  /-- The provider computes it. -/
  computed : Bool
  /-- Its value is hidden from users. -/
  sensitive : Bool
deriving DecidableEq

namespace Flags

/-- An attribute that the configuration must give. -/
def requiredOnly : Flags := ⟨true, false, false, false⟩

/-- An attribute that the configuration may give. -/
def optionalOnly : Flags := ⟨false, true, false, false⟩

/-- An attribute that the provider computes. -/
def computedOnly : Flags := ⟨false, false, true, false⟩

end Flags

/-- A change made to a configured value before it is stored. -/
inductive Normalizer where
  /-- The blanks around a text are dropped. -/
  | trimSpace
deriving DecidableEq

/-- The changed value; a value of another kind stays as it is. -/
def Normalizer.apply : Normalizer → Json → Json
  | .trimSpace, .string s => .string (Text.trim s)
  | .trimSpace, v => v

/-- **An attribute of a block.** -/
structure Attribute where
  /-- The type of its values. -/
  type : AttributeType
  /-- How it can be used. -/
  flags : Flags
  /-- What it means. -/
  description : Option String
  /-- Whether a change of it replaces the resource. -/
  forceNew : Bool
  /-- The value it has when none is configured. -/
  default : Option Json
  /-- The only values it may have; no restriction when empty. -/
  allowed : List Json
  /-- The change made to its configured values. -/
  normalizer : Option Normalizer

namespace Attribute

/-- An attribute with a type and flags alone. -/
def plain (type : AttributeType) (flags : Flags) : Attribute :=
  ⟨type, flags, none, false, none, [], none⟩

/-- A required text. -/
def requiredString : Attribute := plain .string .requiredOnly

/-- An optional text. -/
def optionalString : Attribute := plain .string .optionalOnly

/-- A computed text. -/
def computedString : Attribute := plain .string .computedOnly

/-- A required integer. -/
def requiredInt64 : Attribute := plain .int64 .requiredOnly

/-- An optional integer. -/
def optionalInt64 : Attribute := plain .int64 .optionalOnly

/-- An optional truth value. -/
def optionalBool : Attribute := plain .bool .optionalOnly

/-- The attribute with a description. -/
def withDescription (a : Attribute) (text : String) : Attribute :=
  { a with description := some text }

/-- The attribute, its changes replacing the resource. -/
def withForceNew (a : Attribute) : Attribute := { a with forceNew := true }

/-- The attribute with a default. -/
def withDefault (a : Attribute) (v : Json) : Attribute := { a with default := some v }

/-- The attribute restricted to some values. -/
def withAllowed (a : Attribute) (vs : List Json) : Attribute := { a with allowed := vs }

/-- The attribute with a normalizer. -/
def withNormalizer (a : Attribute) (n : Normalizer) : Attribute := { a with normalizer := some n }

/-- The attribute, its values hidden. -/
def hidden (a : Attribute) : Attribute := { a with flags := { a.flags with sensitive := true } }

/-- Whether the provider alone sets the attribute. -/
def computedOnly (a : Attribute) : Bool :=
  a.flags.computed && !a.flags.optional && !a.flags.required

end Attribute

/-- **How a block is nested.** -/
inductive NestingMode where
  /-- At most once. -/
  | single
  /-- As an ordered list. -/
  | list
  /-- As a set, which is written as a list. -/
  | set
deriving DecidableEq, Inhabited

/-- A nested block: the block, its mode and the limits on its number. -/
structure Nested (β : Type) where
  /-- The block. -/
  block : β
  /-- How it is nested. -/
  mode : NestingMode
  /-- The least number of blocks. -/
  minItems : UInt32
  /-- The largest number of blocks; no limit when zero. -/
  maxItems : UInt32

/-- **A block**: attributes and nested blocks by name. -/
structure Block where
  /-- The attributes. -/
  attributes : List (String × Attribute)
  /-- The nested blocks. -/
  blocks : List (String × Nested Block)
  /-- What the block means. -/
  description : Option String

mutual

/-- **Induction on the nesting of blocks**: what holds of a block if it holds of every nested block
holds of every block. -/
@[elab_as_elim]
theorem Block.induction {motive : Block → Prop}
    (step : ∀ b, (∀ e ∈ b.blocks, motive e.2.block) → motive b) : (b : Block) → motive b
  | ⟨_, blocks, _⟩ => step _ (Block.induction_blocks step blocks)

theorem Block.induction_blocks {motive : Block → Prop}
    (step : ∀ b, (∀ e ∈ b.blocks, motive e.2.block) → motive b) :
    (blocks : List (String × Nested Block)) → ∀ e ∈ blocks, motive e.2.block
  | [] => by simp
  | (_, ⟨block, _, _, _⟩) :: rest => List.forall_mem_cons.2
    ⟨Block.induction step block, Block.induction_blocks step rest⟩

end

namespace Nested

/-- A block that occurs at most once. -/
def single (block : Block) : Nested Block := ⟨block, .single, 0, 1⟩

/-- A block that occurs as a list. -/
def list (block : Block) : Nested Block := ⟨block, .list, 0, 0⟩

/-- A block that occurs as a set. -/
def set (block : Block) : Nested Block := ⟨block, .set, 0, 0⟩

/-- The nested block with a least number. -/
def withMinItems (n : Nested Block) (least : UInt32) : Nested Block := { n with minItems := least }

end Nested

namespace Block

/-- The block without attributes and nested blocks. -/
def empty : Block := ⟨[], [], none⟩

/-- The block with an attribute. -/
def withAttribute (b : Block) (name : String) (a : Attribute) : Block :=
  { b with attributes := Dict.put name a b.attributes }

/-- The block with a nested block. -/
def withBlock (b : Block) (name : String) (n : Nested Block) : Block :=
  { b with blocks := Dict.put name n b.blocks }

/-- The block with a description. -/
def withDescription (b : Block) (text : String) : Block := { b with description := some text }

/-- Whether a name is an attribute or a nested block. -/
def hasField (b : Block) (name : String) : Bool :=
  Dict.hasName b.attributes name || Dict.hasName b.blocks name

end Block

/-- **The schema of a resource.** -/
structure Schema where
  /-- The version of the schema. -/
  version : UInt64
  /-- The attributes and nested blocks. -/
  block : Block

namespace Schema

/-- The empty schema of a version. -/
def empty (version : UInt64) : Schema := ⟨version, .empty⟩

/-- The schema with an attribute. -/
def withAttribute (s : Schema) (name : String) (a : Attribute) : Schema :=
  { s with block := s.block.withAttribute name a }

/-- The schema with a nested block. -/
def withBlock (s : Schema) (name : String) (n : Nested Block) : Schema :=
  { s with block := s.block.withBlock name n }

end Schema

/-- **The schemas of a provider**: of its configuration and of each resource type. -/
structure ProviderSchema where
  /-- The schema of the provider's configuration. -/
  provider : Schema
  /-- The schemas of the resource types. -/
  resources : Dict Schema

namespace ProviderSchema

/-- No resource types and an empty configuration. -/
def empty : ProviderSchema := ⟨.empty 0, []⟩

/-- The schemas with one more resource type. -/
def withResource (s : ProviderSchema) (name : String) (resource : Schema) : ProviderSchema :=
  { s with resources := Dict.put name resource s.resources }

end ProviderSchema

end LoggingProvider
