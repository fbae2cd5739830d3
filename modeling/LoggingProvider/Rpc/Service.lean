import LoggingProvider.Provider.Plugin
import LoggingProvider.Rpc.Message

/-!
# The service of a plugin

A plugin is served by answering requests. The documents in a request are read before anything is
done; a document that cannot be read, like any fault of the plugin, is answered with one finding.

## Main definitions

* `Rpc.Request`, `Rpc.Response`: the requests and their answers
* `Rpc.decode`: the document in a request
* `Rpc.serve`: the answer of a plugin to a request
* `Rpc.handshake`: the line that announces a served plugin
-/

namespace LoggingProvider

namespace Rpc

/-- **A request of a host.** -/
inductive Request where
  | getMetadata
  | getSchema
  | validateProviderConfig (config : Bytes)
  | configure (config : Bytes)
  | stop
  | validateResourceConfig (type : String) (config : Bytes)
  | plan (type : String) (prior proposed config : Bytes)
  | create (type : String) (planned : Bytes)
  | read (type : String) (current : Bytes)
  | update (type : String) (prior planned : Bytes)
  | delete (type : String) (current : Bytes)
  | importState (type : String) (id : String)

/-- **The answer to a request.** -/
inductive Response where
  | metadata (planDestroy : Bool) (resources : List String) (findings : List Finding)
  | schema (provider : SchemaMessage) (resources : Dict SchemaMessage) (findings : List Finding)
  | findings (findings : List Finding)
  | stopped (fault : String)
  | planned (state : Bytes) (changes : List ChangeMessage) (replaces : Bool)
    (findings : List Finding)
  | state (state : Bytes) (findings : List Finding)
  | imported (resources : List ImportedMessage) (findings : List Finding)

/-- **The document in a request**; no bytes are null. -/
def decode (bytes : Bytes) : Except Fault Json :=
  if bytes.isEmpty then .ok .null else (Json.parseBytes bytes).mapError .serialization

/-- The finding that reports a fault. -/
def report (fault : Fault) : List Finding :=
  [.ofDiagnostic (.error fault.text)]

/-- The answer that consists of findings. -/
def findingsOf : Except Fault (List Diagnostic) → Response
  | .ok diagnostics => .findings (diagnostics.map .ofDiagnostic)
  | .error fault => .findings (report fault)

/-- The answer that consists of a state. -/
def stateOf : Except Fault Json → Response
  | .ok state => .state state.encode []
  | .error fault => .state [] (report fault)

/-- The answer that consists of a plan. -/
def planOf : Except Fault Plan → Response
  | .ok plan => .planned plan.state.encode (plan.changes.map .ofChange) plan.replaces []
  | .error fault => .planned [] [] false (report fault)

/-- The answer to the end of a resource. -/
def endOf : Except Fault Unit → Response
  | .ok _ => .findings []
  | .error fault => .findings (report fault)

/-- The answer to the end of the service. -/
def stopOf : Except Fault Unit → Response
  | .ok _ => .stopped ""
  | .error fault => .stopped fault.text

/-- The answer that consists of imported resources. -/
def importedOf : Except Fault (List Imported) → Response
  | .ok resources => .imported (resources.map .ofImported) []
  | .error fault => .imported [] (report fault)

/-- The prior state in a request to plan, none when it is null. -/
def priorOf : Json → Option Json
  | .null => none
  | v => some v

variable {σ α : Type}

/-- An action and the answer to its outcome. -/
def answer (respond : Except Fault α → Response) (act : Action σ α) : StateM σ Response := fun s =>
  let (r, s) := act s
  (respond r, s)

/-- **The answer of a plugin to a request.** -/
def serve (p : Plugin σ) : Request → StateM σ Response
  | .getMetadata => pure (.metadata p.metadata.planDestroy p.metadata.resources [])
  | .getSchema =>
    pure (.schema (.ofSchema p.schema.provider) (Dict.mapValues .ofSchema p.schema.resources) [])
  | .validateProviderConfig config => answer findingsOf do
    let config ← Action.ofExcept (decode config)
    p.validateProviderConfig config
  | .configure config => answer findingsOf do
    let config ← Action.ofExcept (decode config)
    p.configure config
  | .stop => answer stopOf p.stop
  | .validateResourceConfig type config => answer findingsOf do
    let config ← Action.ofExcept (decode config)
    p.validateResourceConfig type config
  | .plan type prior proposed config => answer planOf do
    let prior ← Action.ofExcept (decode prior)
    let proposed ← Action.ofExcept (decode proposed)
    let config ← Action.ofExcept (decode config)
    p.plan type (priorOf prior) proposed config
  | .create type planned => answer stateOf do
    let planned ← Action.ofExcept (decode planned)
    p.create type planned
  | .read type current => answer stateOf do
    let current ← Action.ofExcept (decode current)
    p.read type current
  | .update type prior planned => answer stateOf do
    let prior ← Action.ofExcept (decode prior)
    let planned ← Action.ofExcept (decode planned)
    p.update type prior planned
  | .delete type current => answer endOf do
    let current ← Action.ofExcept (decode current)
    p.delete type current
  | .importState type id => answer importedOf (p.importResource type id)

/-- The version of the protocol. -/
def protocolVersion : Nat := 1

/-- **The line that announces a served plugin**, with the address where it is served. -/
def handshake (address : String) : String :=
  "HEMMER_PROVIDER|" ++ toString protocolVersion ++ "|" ++ address

end Rpc

end LoggingProvider
