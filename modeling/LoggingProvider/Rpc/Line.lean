import LoggingProvider.Rpc.Service
import LoggingProvider.Url.Percent

/-!
# Requests and answers as lines

A request or an answer is written on one line, as a document whose members are the fields of the
message. Bytes are written as a text when they are one, and else in hexadecimal.

## Main definitions

* `Rpc.bytesToJson`, `Rpc.bytesOfJson`: bytes as a document
* `Rpc.Request.ofJson`: the request on a line
* `Rpc.Response.members`: the fields of an answer
-/

namespace LoggingProvider

namespace Rpc

/-! ## Bytes -/

/-- Bytes in hexadecimal, lower case. -/
def hexText (bytes : Bytes) : String :=
  String.ofList
    (bytes.flatMap fun b => [Json.hexDigit (b.toNat / 16), Json.hexDigit (b.toNat % 16)])

/-- The bytes that hexadecimal digits spell. -/
def hexBytes : List Char → Bytes
  | a :: b :: rest => (Percent.byte? a b).toList ++ hexBytes rest
  | _ => []

/-- **Bytes as a document**: a text, or their hexadecimal form. -/
def bytesToJson (bytes : Bytes) : Json :=
  match Utf8.decode? bytes with
  | some s => .string s
  | none => .object [("hex", .string (hexText bytes))]

/-- **The bytes that a document denotes**; anything but a text or a hexadecimal form denotes
none. -/
def bytesOfJson : Json → Bytes
  | .string s => Utf8.encode s
  | v => ((v.memberD "hex").text?.map fun s => hexBytes s.toList).getD []

/-! ## Requests -/

/-- **The request on a line**: the name of the operation, and its fields. -/
def Request.ofJson (v : Json) : Option Request :=
  let text (name : String) := (v.memberD name).text?.getD ""
  let bytes (name : String) := bytesOfJson (v.memberD name)
  let type := text "resource_type"
  match text "rpc" with
  | "GetMetadata" => some .getMetadata
  | "GetSchema" => some .getSchema
  | "ValidateProviderConfig" => some (.validateProviderConfig (bytes "config"))
  | "Configure" => some (.configure (bytes "config"))
  | "Stop" => some .stop
  | "ValidateResourceConfig" => some (.validateResourceConfig type (bytes "config"))
  | "Plan" => some (.plan type (bytes "prior_state") (bytes "proposed_state") (bytes "config"))
  | "Create" => some (.create type (bytes "planned_state"))
  | "Read" => some (.read type (bytes "current_state"))
  | "Update" => some (.update type (bytes "prior_state") (bytes "planned_state"))
  | "Delete" => some (.delete type (bytes "current_state"))
  | "ImportResourceState" => some (.importState type (text "id"))
  | _ => none

/-! ## Answers -/

/-- A signed integer of 64 bits as a document. -/
def intToJson (n : Int) : Json :=
  ((Number.ofInt? (n < 0) n.natAbs).map Json.number).getD .null

/-- A finding as a document. -/
def Finding.toJson (f : Finding) : Json :=
  .object [("attribute", .string f.path), ("detail", .string f.detail),
    ("severity", .ofNat f.severity), ("summary", .string f.summary)]

/-- Findings as a document. -/
def findingsToJson (fs : List Finding) : Json := .array (fs.map Finding.toJson)

/-- An attribute as a document. -/
def AttributeMessage.toJson (a : AttributeMessage) : Json :=
  .object [("allowed_values", bytesToJson a.allowed), ("computed", .bool a.computed),
    ("default_value", bytesToJson a.default), ("description", .string a.description),
    ("force_new", .bool a.forceNew), ("name", .string a.name), ("optional", .bool a.optional),
    ("required", .bool a.required), ("sensitive", .bool a.sensitive),
    ("type", bytesToJson a.type)]

mutual

/-- A block as a document. -/
def BlockMessage.toJson : BlockMessage → Json
  | .mk attributes blocks description =>
    .object [("attributes", .array (attributes.map AttributeMessage.toJson)),
      ("block_types", .array (BlockMessage.nestedToJson blocks)),
      ("description", .string description)]

/-- Nested blocks as documents. -/
def BlockMessage.nestedToJson :
    List (String × BlockMessage × Nat × Int32 × Int32) → List Json
  | [] => []
  | (name, block, mode, minItems, maxItems) :: rest =>
    .object [("block", block.toJson), ("max_items", intToJson maxItems.toInt),
      ("min_items", intToJson minItems.toInt), ("nesting_mode", .ofNat mode),
      ("type_name", .string name)] :: BlockMessage.nestedToJson rest

end

/-- A schema as a document. -/
def SchemaMessage.toJson (s : SchemaMessage) : Json :=
  .object [("block", s.block.toJson), ("version", intToJson s.version.toInt)]

/-- A change as a document. -/
def ChangeMessage.toJson (m : ChangeMessage) : Json :=
  .object [("after", bytesToJson m.after), ("before", bytesToJson m.before),
    ("path", .string m.path)]

/-- An imported resource as a document. -/
def ImportedMessage.toJson (m : ImportedMessage) : Json :=
  .object [("resource_type", .string m.type), ("state", bytesToJson m.state)]

/-- **The fields of an answer**, in name order. -/
def Response.members : Response → Dict Json
  | .metadata planDestroy resources found =>
    [("diagnostics", findingsToJson found), ("plan_destroy", .bool planDestroy),
      ("resources", .array (resources.map .string))]
  | .schema provider resources found =>
    [("diagnostics", findingsToJson found), ("provider", provider.toJson),
      ("resources", .object (Dict.mapValues SchemaMessage.toJson resources))]
  | .findings found => [("diagnostics", findingsToJson found)]
  | .stopped fault => [("stop_error", .string fault)]
  | .planned bytes changes replaces found =>
    [("changes", .array (changes.map ChangeMessage.toJson)), ("diagnostics", findingsToJson found),
      ("planned_state", bytesToJson bytes), ("requires_replace", .bool replaces)]
  | .state bytes found => [("diagnostics", findingsToJson found), ("state", bytesToJson bytes)]
  | .imported resources found =>
    [("diagnostics", findingsToJson found),
      ("imported", .array (resources.map ImportedMessage.toJson))]

end Rpc

end LoggingProvider
