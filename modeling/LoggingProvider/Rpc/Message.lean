import LoggingProvider.Diagnostic
import LoggingProvider.Json.Printer
import LoggingProvider.Json.Reader
import LoggingProvider.Provider.Change
import LoggingProvider.Schema.Codec

/-!
# Messages of the plugin protocol

The messages that a host and a plugin exchange. States and configurations travel as the bytes of
their documents, and what is absent travels as empty bytes or an empty text. Integers are signed:
those of a schema that are too large wrap around.

## Main definitions

* `Rpc.Finding`, `Rpc.SchemaMessage`, `Rpc.BlockMessage`, `Rpc.ChangeMessage`,
  `Rpc.ImportedMessage`: the parts of messages
* `Rpc.Finding.ofDiagnostic`, `Rpc.SchemaMessage.ofSchema`, `Rpc.ChangeMessage.ofChange`: parts as
  messages
* `Rpc.ChangeMessage.toChange`: a change from its message
-/

namespace LoggingProvider

namespace Rpc

/-- A finding. -/
structure Finding where
  /-- One for an error, two for a warning. -/
  severity : Nat
  summary : String
  detail : String
  path : String
deriving DecidableEq

/-- The number of a severity. -/
def severityCode : Severity → Nat
  | .error => 1
  | .warning => 2

/-- A diagnostic as a message. -/
def Finding.ofDiagnostic (d : Diagnostic) : Finding :=
  ⟨severityCode d.severity, d.summary, d.detail.getD "", d.path.getD ""⟩

/-- An attribute. -/
structure AttributeMessage where
  name : String
  /-- The document of the type. -/
  type : Bytes
  required : Bool
  optional : Bool
  computed : Bool
  sensitive : Bool
  description : String
  forceNew : Bool
  /-- The document of the default, empty when there is none. -/
  default : Bytes
  /-- The document of the allowed values, empty when there is no restriction. -/
  allowed : Bytes
deriving DecidableEq

/-- **A block**, with its nested blocks: the name, the block, the mode and the limits of each. -/
inductive BlockMessage where
  | mk (attributes : List AttributeMessage)
    (blocks : List (String × BlockMessage × Nat × Int32 × Int32)) (description : String)

/-- **A schema.** -/
structure SchemaMessage where
  version : Int64
  block : BlockMessage

/-- The number of a nesting mode. -/
def modeCode : NestingMode → Nat
  | .single => 1
  | .list => 2
  | .set => 3

/-- An attribute as a message. -/
def AttributeMessage.ofAttribute (name : String) (a : Attribute) : AttributeMessage :=
  { name
    type := a.type.toJson.encode
    required := a.flags.required
    optional := a.flags.optional
    computed := a.flags.computed
    sensitive := a.flags.sensitive
    description := a.description.getD ""
    forceNew := a.forceNew
    default := (a.default.map Json.encode).getD []
    allowed := if a.allowed.isEmpty then [] else (Json.array a.allowed).encode }

mutual

/-- A block as a message. -/
def BlockMessage.ofBlock : Block → BlockMessage
  | ⟨attributes, blocks, description⟩ =>
    .mk (attributes.map fun e => .ofAttribute e.1 e.2) (BlockMessage.ofNested blocks)
      (description.getD "")

/-- Nested blocks as messages. -/
def BlockMessage.ofNested :
    List (String × Nested Block) → List (String × BlockMessage × Nat × Int32 × Int32)
  | [] => []
  | (name, ⟨block, mode, minItems, maxItems⟩) :: rest =>
    (name, .ofBlock block, modeCode mode, minItems.toInt32, maxItems.toInt32)
      :: BlockMessage.ofNested rest

end

/-- **A schema as a message.** -/
def SchemaMessage.ofSchema (s : Schema) : SchemaMessage :=
  ⟨s.version.toInt64, .ofBlock s.block⟩

/-- A change. -/
structure ChangeMessage where
  path : String
  /-- The document before the change, empty when there is none. -/
  before : Bytes
  /-- The document after the change, empty when there is none. -/
  after : Bytes
deriving DecidableEq

namespace ChangeMessage

/-- The bytes of a value that may be absent. -/
def bytesOf (v : Option Json) : Bytes :=
  (v.map Json.encode).getD []

/-- The value that bytes denote, absent when they are empty or no document. -/
def valueOf (bytes : Bytes) : Option Json :=
  if bytes.isEmpty then none else (Json.parseBytes bytes).toOption

/-- **A change as a message.** -/
def ofChange (c : Change) : ChangeMessage :=
  ⟨c.path, bytesOf c.before, bytesOf c.after⟩

/-- **A change from its message.** -/
def toChange (m : ChangeMessage) : Change :=
  ⟨m.path, valueOf m.before, valueOf m.after⟩

end ChangeMessage

/-- An imported resource. -/
structure ImportedMessage where
  type : String
  /-- The document of the state. -/
  state : Bytes
deriving DecidableEq

/-- An imported resource as a message. -/
def ImportedMessage.ofImported (i : Imported) : ImportedMessage :=
  ⟨i.type, i.state.encode⟩

end Rpc

end LoggingProvider
