import LoggingProvider.Json.Decode
import LoggingProvider.Schema.Basic

/-!
# Documents of schemas

A schema is written as a document with its members in name order, members at their defaults left
out where the form says so, and read back from one. A block's members stand beside those of the
schema or nested block that holds it; members without a meaning are passed over. Inside a block an
empty object counts as nothing where a name out of a choice carries nothing; that is the lenient
reading.

## Main definitions

* `AttributeType.toJson`, `Attribute.toJson`, `Block.members`, `Schema.toJson`,
  `ProviderSchema.toJson`: writing
* `AttributeType.ofJson`, `Attribute.ofJson`, `Nested.ofJson`, `Schema.ofJson`: reading
-/

namespace LoggingProvider

/-! ## Writing -/

/-- The document of a type. -/
def AttributeType.toJson : AttributeType → Json
  | .string => .string "string"
  | .int64 => .string "int64"
  | .bool => .string "bool"
  | .list element => .object [("list", element.toJson)]

/-- The name of a nesting mode. -/
def NestingMode.name : NestingMode → String
  | .single => "single"
  | .list => "list"
  | .set => "set"

/-- The name of a normalizer. -/
def Normalizer.name : Normalizer → String
  | .trimSpace => "trim_space"

namespace Schema

/-- A member that is written only when it is there. -/
def optionalMember (name : String) : Option Json → List (String × Json)
  | none => []
  | some v => [(name, v)]

/-- A list that is written only when it is not empty. -/
def listMember (name : String) : List Json → List (String × Json)
  | [] => []
  | vs => [(name, .array vs)]

/-- A map that is written only when it is not empty. -/
def dictMember (name : String) : Dict Json → List (String × Json)
  | [] => []
  | d => [(name, .object d)]

end Schema

/-- The document of an attribute. -/
def Attribute.toJson (a : Attribute) : Json :=
  .object
    (Schema.listMember "allowed_values" a.allowed
      ++ [("computed", .bool a.flags.computed)]
      ++ Schema.optionalMember "default" a.default
      ++ Schema.optionalMember "description" (a.description.map .string)
      ++ [("force_new", .bool a.forceNew)]
      ++ Schema.optionalMember "normalizer" (a.normalizer.map fun n => .string n.name)
      ++ [("optional", .bool a.flags.optional), ("required", .bool a.flags.required),
        ("sensitive", .bool a.flags.sensitive), ("type", a.type.toJson)])

/-- The members for the limits and the mode of a nested block. -/
def Nested.limits (mode : NestingMode) (minItems maxItems : UInt32) : List (String × Json) :=
  [("max_items", .ofNat maxItems.toNat), ("min_items", .ofNat minItems.toNat),
    ("nesting_mode", .string mode.name)]

mutual

/-- The members of a block's document. -/
def Block.members : Block → List (String × Json)
  | ⟨attributes, blocks, description⟩ =>
    Schema.dictMember "attributes" (Dict.mapValues Attribute.toJson attributes)
      ++ Schema.dictMember "blocks" (Block.nestedMembers blocks)
      ++ Schema.optionalMember "description" (description.map .string)

/-- The documents of nested blocks. -/
def Block.nestedMembers : List (String × Nested Block) → List (String × Json)
  | [] => []
  | (name, ⟨block, mode, minItems, maxItems⟩) :: rest =>
    (name, .object (block.members ++ Nested.limits mode minItems maxItems))
      :: Block.nestedMembers rest

end

/-- The document of a block. -/
def Block.toJson (b : Block) : Json := .object b.members

/-- **The document of a schema.** -/
def Schema.toJson (s : Schema) : Json :=
  .object (s.block.members ++ [("version", .ofUInt64 s.version)])

/-- The document of the schemas of a provider. -/
def ProviderSchema.toJson (s : ProviderSchema) : Json :=
  .object [("provider", s.provider.toJson),
    ("resources", .object (Dict.mapValues Schema.toJson s.resources))]

/-! ## Reading -/

namespace AttributeType

/-- The names of the types. -/
def variants : List String := ["string", "int64", "bool", "list"]

/-- A type without a parameter, by its name. -/
def plain? (name : String) : Option AttributeType :=
  if name = "string" then some .string
  else if name = "int64" then some .int64
  else if name = "bool" then some .bool
  else none

/-- **A type from its document**: a name, or an object whose only member names the type. The first
argument says whether an empty object counts as no parameter. -/
def ofJson (lenient : Bool) : Json → Except Json.DecodeFault AttributeType
  | .string s =>
    match plain? s with
    | some t => .ok t
    | none => if s = "list" then .error .bareVariant else .error (.unknownVariant s variants)
  | .object [(s, v)] =>
    if s = "list" then (ofJson lenient v).map .list
    else
      match plain? s with
      | some t => (Json.asUnit lenient v).map fun _ => t
      | none => .error (.unknownVariant s variants)
  | .object members => .error (.wrongValue (.object members) "map with a single key")
  | v => .error (.wrongKind v "string or map")

end AttributeType

/-- A normalizer from its document. -/
def Normalizer.ofJson (lenient : Bool) (v : Json) : Except Json.DecodeFault Normalizer :=
  (Json.asVariant lenient ["trim_space"] v).map fun _ => .trimSpace

/-- A nesting mode from its document. -/
def NestingMode.ofJson (lenient : Bool) (v : Json) : Except Json.DecodeFault NestingMode :=
  (Json.asVariant lenient ["single", "list", "set"] v).map fun s =>
    if s = "single" then .single else if s = "list" then .list else .set

namespace Flags

/-- One of the flags in an attribute's document. -/
def checkMember (name : String) (v : Json) : Except Json.DecodeFault Unit :=
  if name ∈ ["required", "optional", "computed", "sensitive"] then v.asBool.map fun _ => ()
  else .ok ()

/-- The flags in an attribute's document. -/
def ofMembers (members : Dict Json) : Except Json.DecodeFault Flags := do
  Json.checkMembers members checkMember
  let required ← Json.required members "required" Json.asBool
  let optional ← Json.required members "optional" Json.asBool
  let computed ← Json.required members "computed" Json.asBool
  let sensitive ← Json.required members "sensitive" Json.asBool
  return ⟨required, optional, computed, sensitive⟩

end Flags

namespace Attribute

/-- One member of an attribute's document, flags apart. -/
def checkMember (lenient : Bool) (name : String) (v : Json) : Except Json.DecodeFault Unit :=
  if name = "type" then (AttributeType.ofJson lenient v).map fun _ => ()
  else if name = "description" then (Json.asOptional Json.asText v).map fun _ => ()
  else if name = "force_new" then v.asBool.map fun _ => ()
  else if name = "allowed_values" then v.asItems.map fun _ => ()
  else if name = "normalizer" then (Json.asOptional (Normalizer.ofJson lenient) v).map fun _ => ()
  else .ok ()

/-- **An attribute from its document.** -/
def ofJson (lenient : Bool) : Json → Except Json.DecodeFault Attribute
  | .object members => do
    Json.checkMembers members (checkMember lenient)
    let type ← Json.required members "type" (AttributeType.ofJson lenient)
    let description ← Json.optional members "description" none (Json.asOptional Json.asText)
    let forceNew ← Json.optional members "force_new" false Json.asBool
    let default := (Dict.value? members "default").bind Json.asOptionalValue
    let allowed ← Json.optional members "allowed_values" [] Json.asItems
    let normalizer ←
      Json.optional members "normalizer" none (Json.asOptional (Normalizer.ofJson lenient))
    let flags ← Flags.ofMembers members
    return ⟨type, flags, description, forceNew, default, allowed, normalizer⟩
  | v => .error (.wrongKind v "struct Attribute")

/-- The attributes in a block's document. -/
def ofMembers : List (String × Json) → Except Json.DecodeFault (List (String × Attribute))
  | [] => .ok []
  | (name, v) :: rest => do
    let a ← ofJson true v
    let more ← ofMembers rest
    return (name, a) :: more

end Attribute

/-- One of the limits in a nested block's document. -/
def Nested.checkMember (lenient : Bool) (name : String) (v : Json) :
    Except Json.DecodeFault Unit :=
  if name = "nesting_mode" then (NestingMode.ofJson lenient v).map fun _ => ()
  else if name = "min_items" then v.asUInt32.map fun _ => ()
  else if name = "max_items" then v.asUInt32.map fun _ => ()
  else .ok ()

mutual

/-- **A nested block from its document.** What the block holds is read leniently in any case. -/
def Nested.ofJson (lenient : Bool) : Json → Except Json.DecodeFault (Nested Block)
  | .object members => do
    Json.checkMembers members (Nested.checkMember lenient)
    let mode ← Json.optional members "nesting_mode" .single (NestingMode.ofJson lenient)
    let minItems ← Json.optional members "min_items" 0 Json.asUInt32
    let maxItems ← Json.optional members "max_items" 0 Json.asUInt32
    let block ← Block.ofMembers members .empty
    return ⟨block, mode, minItems, maxItems⟩
  | v => .error (.wrongKind v "struct NestedBlock")

/-- The block whose members stand in a document, added to a block read before. -/
def Block.ofMembers : List (String × Json) → Block → Except Json.DecodeFault Block
  | [], b => .ok b
  | (name, v) :: rest, b =>
    if name = "attributes" then
      match v with
      | .object members => do
        let attributes ← Attribute.ofMembers members
        Block.ofMembers rest { b with attributes := attributes }
      | v => .error (.wrongKind v "a map")
    else if name = "blocks" then
      match v with
      | .object members => do
        let blocks ← Block.nestedOfMembers members
        Block.ofMembers rest { b with blocks := blocks }
      | v => .error (.wrongKind v "a map")
    else if name = "description" then do
      let description ← Json.asOptional Json.asText v
      Block.ofMembers rest { b with description := description }
    else Block.ofMembers rest b

/-- The nested blocks in a block's document. -/
def Block.nestedOfMembers : List (String × Json) →
    Except Json.DecodeFault (List (String × Nested Block))
  | [] => .ok []
  | (name, v) :: rest => do
    let n ← Nested.ofJson true v
    let more ← Block.nestedOfMembers rest
    return (name, n) :: more

end

/-- **A schema from its document.** -/
def Schema.ofJson : Json → Except Json.DecodeFault Schema
  | .object members => do
    let version ← Json.optional members "version" 0 Json.asUInt64
    let block ← Block.ofMembers members .empty
    return ⟨version, block⟩
  | v => .error (.wrongKind v "struct Schema")

end LoggingProvider
