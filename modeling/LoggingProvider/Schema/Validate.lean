import LoggingProvider.Diagnostic
import LoggingProvider.Schema.Basic

/-!
# Validation

A value is checked against a schema, and each fault is reported as a diagnostic with the path where
it was found. Required attributes must be present, values must have the type of their attribute and
be among its allowed values, nested blocks are checked in turn, and a list or set block must have
enough items. Attributes that the provider computes, and members without a name in the schema, are
not looked at.

## Main definitions

* `Number.isInt64`: whether a number counts as an integer of 64 bits
* `Json.sameValue`: equality of values across the kinds of numbers
* `AttributeType.diagnose`, `Attribute.diagnose`, `Block.diagnose`: the faults of a value
* `Schema.validate`: the faults of a value against a schema
* `Schema.accept`, `Schema.isValid`: whether there are none
-/

namespace LoggingProvider

/-- The largest absolute value of a number that counts as an integer of 64 bits. -/
def Number.int64Bound : Nat := 9223372036854775808

/-- Whether a number counts as an integer of 64 bits: it is one, or the floating-point number
nearest to it is an integer within the bounds. -/
def Number.isInt64 (n : Number) : Bool :=
  n.int64?.isSome ||
    (n.rounded.isIntegral && n.rounded.magnitude ≤ Number.int64Bound * Binary64.unit)

/-- Equality of values, where numbers are compared as floating-point numbers. -/
def Json.sameValue : Json → Json → Bool
  | .number a, .number b => a.rounded.same b.rounded
  | v, w => v == w

namespace Schema

/-- The path of a part. -/
def joinPath (base name : String) : String :=
  if base.isEmpty then name else base ++ "." ++ name

/-- The path of an item. -/
def itemPath (base : String) (i : Nat) : String :=
  base ++ "." ++ toString i

end Schema

/-- The fault of a value of the wrong type. -/
def AttributeType.fault (expected path : String) (v : Json) : Diagnostic :=
  ((Diagnostic.error ("Invalid type for attribute '" ++ path ++ "'")).withDetail
    ("Expected " ++ expected ++ ", got " ++ v.kindName)).withPath path

/-- The faults of a value against a type. -/
def AttributeType.diagnose : AttributeType → Json → String → List Diagnostic
  | .string, .string _, _ => []
  | .string, v, path => [fault "string" path v]
  | .int64, .number n, path => if n.isInt64 then [] else [fault "int64" path (.number n)]
  | .int64, v, path => [fault "int64" path v]
  | .bool, .bool _, _ => []
  | .bool, v, path => [fault "bool" path v]
  | .list element, .array items, path =>
    items.zipIdx.flatMap fun e => element.diagnose e.1 (Schema.itemPath path e.2)
  | .list _, v, path => [fault "list" path v]

namespace Attribute

/-- The wording of an allowed value: a text as it is, any other value as its compact text. -/
def allowedText : Json → String
  | .string s => s
  | v => v.compact

/-- The fault of a value that is not among the allowed ones. -/
def diagnoseAllowed (a : Attribute) (v : Json) (path : String) : List Diagnostic :=
  if a.allowed.isEmpty || a.allowed.any (·.sameValue v) then []
  else
    [((Diagnostic.error ("Invalid value for attribute '" ++ path ++ "'")).withDetail
      ("Expected one of: " ++ ", ".intercalate (a.allowed.map allowedText)
        ++ "; got " ++ v.compact)).withPath path]

/-- The faults of a value of an attribute that is present. -/
def diagnoseValue (a : Attribute) (v : Json) (path : String) : List Diagnostic :=
  match a.type.diagnose v path with
  | [] => a.diagnoseAllowed v path
  | faults => faults

/-- The fault of a required attribute without a value. -/
def missing (path : String) : Diagnostic :=
  ((Diagnostic.error ("Missing required attribute '" ++ path ++ "'")).withDetail
    "This attribute is required and must be provided").withPath path

/-- **The faults of an attribute**: of its value, or of its absence. -/
def diagnose (a : Attribute) (v : Option Json) (path : String) : List Diagnostic :=
  if a.computedOnly then []
  else
    match v with
    | none | some .null => if a.flags.required then [missing path] else []
    | some v => a.diagnoseValue v path

end Attribute

namespace Nested

/-- The fault of a required block that is absent. -/
def missing (path : String) : Diagnostic :=
  ((Diagnostic.error ("Missing required block '" ++ path ++ "'")).withDetail
    "At least one block is required").withPath path

/-- The fault of a block that is no list. -/
def notList (path : String) (v : Json) : Diagnostic :=
  ((Diagnostic.error ("Expected list for block '" ++ path ++ "'")).withDetail
    ("Got " ++ v.kindName)).withPath path

/-- The fault of a list of blocks that is too short. -/
def diagnoseCount (minItems : UInt32) (items : List Json) (path : String) : List Diagnostic :=
  let count := UInt32.ofNat items.length
  if count < minItems then
    [(Diagnostic.error ("Block '" ++ path ++ "' requires at least " ++ toString minItems.toNat
      ++ " item(s), got " ++ toString count.toNat)).withPath path]
  else []

end Nested

/-- The fault of a value that is no object. -/
def Block.notObject (v : Json) (path : String) : Diagnostic :=
  let d := (Diagnostic.error "Expected object").withDetail ("Got " ++ v.kindName)
  if path.isEmpty then d else d.withPath path

mutual

/-- **The faults of a value** against a block. -/
def Block.diagnose : Block → Json → String → List Diagnostic
  | _, .null, _ => []
  | ⟨attributes, blocks, _⟩, .object members, path =>
    attributes.flatMap (fun e =>
      e.2.diagnose (Dict.value? members e.1) (Schema.joinPath path e.1))
      ++ Block.diagnoseBlocks blocks members path
  | _, v, path => [Block.notObject v path]

/-- The faults of the nested blocks of an object. -/
def Block.diagnoseBlocks : List (String × Nested Block) → Dict Json → String → List Diagnostic
  | [], _, _ => []
  | (name, ⟨block, mode, minItems, _⟩) :: rest, members, path =>
    (match mode, Dict.value? members name with
      | .single, none | .single, some .null =>
        if 0 < minItems then [Nested.missing (Schema.joinPath path name)] else []
      | .single, some v => block.diagnose v (Schema.joinPath path name)
      | _, none | _, some .null => Nested.diagnoseCount minItems [] (Schema.joinPath path name)
      | _, some (.array items) =>
        Nested.diagnoseCount minItems items (Schema.joinPath path name)
          ++ items.zipIdx.flatMap fun e =>
            block.diagnose e.1 (Schema.itemPath (Schema.joinPath path name) e.2)
      | _, some v => [Nested.notList (Schema.joinPath path name) v])
      ++ Block.diagnoseBlocks rest members path

end

namespace Schema

/-- **The faults of a value** against a schema, attributes before nested blocks. -/
def validate (s : Schema) (v : Json) : List Diagnostic :=
  s.block.diagnose v ""

/-- A value without faults is accepted; any other is refused with all of them. -/
def accept (s : Schema) (v : Json) : Except (List Diagnostic) Unit :=
  match s.validate v with
  | [] => .ok ()
  | faults => .error faults

/-- Whether a value has no faults. -/
def isValid (s : Schema) (v : Json) : Bool :=
  (s.validate v).isEmpty

end Schema

end LoggingProvider
