import LoggingProvider.Schema.Basic

/-!
# Normal forms of values

A value is normalized against a block: members that are null or the empty text are dropped, each
attribute's normalizer is applied, an attribute that is then unset gets its default, nested blocks
are normalized in turn, and a list or set block that is absent becomes the empty list. A value that
is no object stays as it is.

## Main definitions

* `Json.isUnset`: null and the empty text
* `Attribute.normalizeMember`: the members of an object with one attribute normalized
* `Block.normalize`: the normal form of a value
-/

namespace LoggingProvider

/-- Whether a value counts as not configured. -/
def Json.isUnset : Json → Bool
  | .null => true
  | .string s => s.isEmpty
  | _ => false

/-- The configured value of an attribute after its normalizer. -/
def Attribute.normalized (a : Attribute) (v : Json) : Json :=
  match a.normalizer with
  | some n => n.apply v
  | none => v

/-- The members of an object with one attribute normalized: its value is normalized, and replaced
by the default if it is unset. -/
def Attribute.normalizeMember (name : String) (a : Attribute) (d : Dict Json) : Dict Json :=
  match ((Dict.value? d name).map a.normalized).filter (!·.isUnset) with
  | some v => Dict.put name v d
  | none =>
    match a.default with
    | some v => Dict.put name v d
    | none => Dict.remove name d

/-- The members of an object that are configured. -/
def Json.setMembers (d : Dict Json) : Dict Json :=
  d.filter fun e => !e.2.isUnset

mutual

/-- **The normal form of a value** against a block. -/
def Block.normalize : Block → Json → Json
  | ⟨attributes, blocks, _⟩, .object members =>
    .object (normalizeBlocks blocks
      (attributes.foldl (fun d e => e.2.normalizeMember e.1 d) (Json.setMembers members)))
  | _, v => v

/-- The members of an object with nested blocks normalized. -/
def Block.normalizeBlocks : List (String × Nested Block) → Dict Json → Dict Json
  | [], d => d
  | (name, ⟨block, mode, _, _⟩) :: rest, d =>
    Block.normalizeBlocks rest <|
      match mode, Dict.value? d name with
      | .single, some v => Dict.put name (block.normalize v) d
      | .single, none => d
      | _, some (.array items) => Dict.put name (.array (items.map block.normalize)) d
      | _, some _ => d
      | _, none => Dict.put name (.array []) d

end

/-- The normal form of a value against a schema. -/
def Schema.normalize (s : Schema) (v : Json) : Json :=
  s.block.normalize v

end LoggingProvider
