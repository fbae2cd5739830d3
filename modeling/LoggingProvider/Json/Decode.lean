import LoggingProvider.Json.Reader
import LoggingProvider.Text.Quoted

/-!
# Typed readings of documents

A typed value is read from a document by its shape: a text, a truth value, an integer of a range, a
list, a name out of a fixed choice, or a record. A record comes as an object, or as the array of its
fields in their order. Members are read in name order and the first fault is reported; fields that
are missing are reported after that, in their own order.

## Main definitions

* `Json.DecodeFault`: why a document is not of the wanted shape, and its wording
* `Json.asText`, `Json.asBool`, `Json.asUInt64`, `Json.asUInt32`, `Json.asItems`, `Json.asMembers`:
  the plain shapes
* `Json.asOptional`: a shape, or null
* `Json.asUnit`, `Json.asVariant`: nothing, and a name out of a fixed choice
* `Json.required`, `Json.optional`, `Json.fieldAt`: the fields of a record
-/

namespace LoggingProvider

namespace Json

/-- **Why a document is not of the wanted shape.** -/
inductive DecodeFault where
  /-- A document of another kind. -/
  | wrongKind (got : Json) (expected : String)
  /-- A document of the right kind outside the wanted range. -/
  | wrongValue (got : Json) (expected : String)
  /-- A bare name where the choice carries a value. -/
  | bareVariant
  | missingField (name : String)
  | duplicateField (name : String)
  | unknownField (name : String) (known : List String)
  | unknownVariant (name : String) (known : List String)
  | wrongLength (length : Nat) (expected : String)

/-- The description of a document inside a fault. -/
def describe : Json → String
  | .null => "null"
  | .bool true => "boolean `true`"
  | .bool false => "boolean `false`"
  | .number (.real x) => "floating point `" ++ x.text ++ "`"
  | .number n => "integer `" ++ n.text ++ "`"
  | .string s => "string " ++ Text.quoted s
  | .array _ => "sequence"
  | .object _ => "map"

/-- A name between backticks. -/
def ticked (name : String) : String :=
  "`" ++ name ++ "`"

/-- The wording of a choice of names. -/
def oneOf : List String → String
  | [] => "there are no variants"
  | [a] => "expected " ++ ticked a
  | [a, b] => "expected " ++ ticked a ++ " or " ++ ticked b
  | names => "expected one of " ++ ", ".intercalate (names.map ticked)

/-- The wording of a fault. -/
def DecodeFault.message : DecodeFault → String
  | .wrongKind got expected => "invalid type: " ++ got.describe ++ ", expected " ++ expected
  | .wrongValue got expected => "invalid value: " ++ got.describe ++ ", expected " ++ expected
  | .bareVariant => "invalid type: unit variant, expected newtype variant"
  | .missingField name => "missing field " ++ ticked name
  | .duplicateField name => "duplicate field " ++ ticked name
  | .unknownField name known => "unknown field " ++ ticked name ++ ", " ++ oneOf known
  | .unknownVariant name known => "unknown variant " ++ ticked name ++ ", " ++ oneOf known
  | .wrongLength length expected =>
    "invalid length " ++ toString length ++ ", expected " ++ expected

/-! ## Plain shapes -/

/-- A text. -/
def asText : Json → Except DecodeFault String
  | .string s => .ok s
  | v => .error (.wrongKind v "a string")

/-- A truth value. -/
def asBool : Json → Except DecodeFault Bool
  | .bool b => .ok b
  | v => .error (.wrongKind v "a boolean")

/-- An unsigned integer of 64 bits. -/
def asUInt64 : Json → Except DecodeFault UInt64
  | .number (.natural n) => .ok n
  | .number (.negSucc k) => .error (.wrongValue (.number (.negSucc k)) "u64")
  | v => .error (.wrongKind v "u64")

/-- An unsigned integer of 32 bits. -/
def asUInt32 : Json → Except DecodeFault UInt32
  | .number (.natural n) =>
    if n.toNat < 4294967296 then .ok (UInt32.ofNat n.toNat)
    else .error (.wrongValue (.number (.natural n)) "u32")
  | .number (.negSucc k) => .error (.wrongValue (.number (.negSucc k)) "u32")
  | v => .error (.wrongKind v "u32")

/-- A list. -/
def asItems : Json → Except DecodeFault (List Json)
  | .array items => .ok items
  | v => .error (.wrongKind v "a sequence")

/-- A map. -/
def asMembers : Json → Except DecodeFault (Dict Json)
  | .object members => .ok members
  | v => .error (.wrongKind v "a map")

/-- A shape, or null for its absence. -/
def asOptional {α : Type} (read : Json → Except DecodeFault α) :
    Json → Except DecodeFault (Option α)
  | .null => .ok none
  | v => (read v).map some

/-- A document as it is, or null for its absence. -/
def asOptionalValue : Json → Option Json
  | .null => none
  | v => some v

/-! ## Choices -/

/-- Nothing: null, and an empty object where the first argument says so. -/
def asUnit (lenient : Bool) : Json → Except DecodeFault Unit
  | .null => .ok ()
  | .object [] => if lenient then .ok () else .error (.wrongKind (.object []) "unit")
  | v => .error (.wrongKind v "unit")

/-- A name out of a fixed choice of plain names: a text, or an object whose only member carries
nothing. The first argument says whether an empty object counts as nothing. -/
def asVariant (lenient : Bool) (known : List String) : Json → Except DecodeFault String
  | .string s => if s ∈ known then .ok s else .error (.unknownVariant s known)
  | .object [(s, v)] =>
    if s ∈ known then (asUnit lenient v).map fun _ => s
    else .error (.unknownVariant s known)
  | .object members => .error (.wrongValue (.object members) "map with a single key")
  | v => .error (.wrongKind v "string or map")

/-! ## Records -/

/-- A field that must be present. -/
def required {α : Type} (members : Dict Json) (name : String)
    (read : Json → Except DecodeFault α) : Except DecodeFault α :=
  match Dict.value? members name with
  | some v => read v
  | none => .error (.missingField name)

/-- A field that may be absent, with the value it then has. -/
def optional {α : Type} (members : Dict Json) (name : String) (default : α)
    (read : Json → Except DecodeFault α) : Except DecodeFault α :=
  match Dict.value? members name with
  | some v => read v
  | none => .ok default

/-- The members are checked in name order; the first fault is reported. -/
def checkMembers (members : Dict Json) (check : String → Json → Except DecodeFault Unit) :
    Except DecodeFault Unit :=
  members.forM fun e => check e.1 e.2

/-- The field of a record at a place of the array of its fields. -/
def fieldAt {α : Type} (record : String) (count : Nat) (items : List Json) (place : Nat)
    (read : Json → Except DecodeFault α) : Except DecodeFault α :=
  match items[place]? with
  | some v => read v
  | none =>
    .error (.wrongLength place ("struct " ++ record ++ " with " ++ toString count ++ " elements"))

/-- The array of a record's fields has no further item. -/
def noneAfter (count : Nat) (items : List Json) : Except DecodeFault Unit :=
  if count < items.length then .error (.wrongLength items.length "fewer elements in array")
  else .ok ()

end Json

end LoggingProvider
