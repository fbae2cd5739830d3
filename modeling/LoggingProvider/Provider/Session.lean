import LoggingProvider.Http.Client
import LoggingProvider.Provider.Changes
import LoggingProvider.Provider.Plugin
import LoggingProvider.Reconcile.Endpoints
import LoggingProvider.Schema.Validate

/-!
# The provider

The provider manages the logging endpoints of service versions. It holds a connection to the remote
interface, which configuring it makes and stopping it gives up; operations on resources need one.
Planning and validating need none.

## Main definitions

* `Surroundings`: the environment and the transport of a provider
* `Session`: a connection, and the states of what is behind it
* `Provider.connected`: what an operation does over the connection
* `Provider.parseImportId`: the service version that an identity names
* `Provider.plugin`: the operations of the provider
-/

namespace LoggingProvider

/-- The environment and the transport of a provider. -/
structure Surroundings (σ : Type) where
  /-- The variables of the environment. -/
  environment : String → Option String
  /-- The transport of the client. -/
  transport : Http.Transport σ

/-- **A connection, if there is one**, and the state of what is behind it. -/
structure Session (σ : Type) where
  /-- The interface that operations use. -/
  link : Option (Remote σ)
  /-- The state outside the provider. -/
  outside : σ

namespace Provider

variable {σ α : Type}

/-- **What an operation does over the connection.** -/
def connected (use : Remote σ → Action σ α) : Action (Session σ) α := fun s =>
  match s.link with
  | none => (.error .notConfigured, s)
  | some remote =>
    let (r, outside) := use remote s.outside
    (r, { s with outside := outside })

/-- The findings about a configuration of the provider: those of its schema, or else those of its
resolution. -/
def configFindings (around : Surroundings σ) (v : Json) : List Diagnostic :=
  match Config.schema.validate v with
  | [] => Config.diagnostics (Config.resolve v around.environment)
  | findings => findings

/-- The provider is configured with a client, unless there are findings. -/
def configure (around : Surroundings σ) (v : Json) : Action (Session σ) (List Diagnostic) :=
  match Config.resolve v around.environment with
  | .error fault => pure (Config.diagnostics (.error fault))
  | .ok config => do
    let client ← Action.ofExcept (Http.Client.ofConfig config)
    modify fun s => { s with link := some (client.remote around.transport) }
    return []

/-- The finding that two endpoints have one name. -/
def duplicateFinding (fault : Reconcile.DiffFault) : Diagnostic :=
  ((Diagnostic.error ("Invalid " ++ Endpoint.blockName ++ " block")).withDetail
    fault.message).withPath Endpoint.blockName

/-- The findings about names that occur twice. -/
def duplicateFindings (config : Json) : List Diagnostic :=
  match Reconcile.byName.diff [] (State.records config Endpoint.blockName) with
  | .error (.duplicateKey key side) => [duplicateFinding (.duplicateKey key side)]
  | _ => []

/-- **The findings about a configuration of a resource.** -/
def resourceFindings (kind : ServiceKind) (config : Json) : List Diagnostic :=
  (State.schemaOf kind).validate config ++ duplicateFindings config

/-- **The state of a resource that is created.** -/
def create (remote : Remote σ) (kind : ServiceKind) (planned : Json) : Action σ Json := do
  let state := State.normalize (State.schemaOf kind) planned
  let target ← Action.ofExcept (State.target state)
  Reconcile.endpoints remote kind target [] (State.records state Endpoint.blockName)
  return state

/-- **The state of a resource as it is found**: the current state with the records replaced. -/
def read (remote : Remote σ) (kind : ServiceKind) (current : Json) : Action σ Json := do
  let target ← Action.ofExcept (State.target current)
  let records ← Reconcile.currentRecords remote kind target
  return State.withId
    (.object (Dict.put Endpoint.blockName (.array records) (State.members current)))

/-- **The state of a resource that is changed.** -/
def update (remote : Remote σ) (kind : ServiceKind) (prior planned : Json) : Action σ Json := do
  let state := State.normalize (State.schemaOf kind) planned
  let target ← Action.ofExcept (State.target state)
  Reconcile.endpoints remote kind target (State.records prior Endpoint.blockName)
    (State.records state Endpoint.blockName)
  return state

/-- **The resource of a state is given up.** -/
def delete (remote : Remote σ) (kind : ServiceKind) (current : Json) : Action σ Unit := do
  let target ← Action.ofExcept (State.target current)
  Reconcile.endpoints remote kind target (State.records current Endpoint.blockName) []

/-- The service version that an identity names: the service and the version, with a slash between
them. -/
def importTarget? (id : String) : Option Target :=
  let service := id.toList.takeWhile (· ≠ '/')
  match id.toList.dropWhile (· ≠ '/') with
  | _ :: version =>
    match Endpoint.Kind.spelledBelow? 4294967296 (String.ofList version) with
    | some n =>
      if service ≠ [] ∧ 0 < n then some ⟨String.ofList service, UInt32.ofNat n⟩ else none
    | none => none
  | [] => none

/-- **The service version that an identity names**, or why it names none. -/
def parseImportId (id : String) : Except Fault Target :=
  match importTarget? id with
  | some target => .ok target
  | none =>
    .error (.validation
      ("import id must look like <service_id>/<version>, got " ++ Text.quoted id))

/-- The state from which an import starts. -/
def importState (target : Target) : Json :=
  .object [("service_id", .string target.service), ("version", .ofNat target.version.toNat)]

/-- **The operations of the provider.** -/
def plugin (around : Surroundings σ) : Plugin (Session σ) where
  schema := State.providerSchema
  validateProviderConfig v := pure (configFindings around v)
  configure := configure around
  stop := modify fun s => { s with link := none }
  validateResourceConfig type config := do
    let kind ← Action.ofExcept (State.kindOf type)
    return resourceFindings kind config
  plan type prior proposed _ := do
    let kind ← Action.ofExcept (State.kindOf type)
    Action.ofExcept (State.plan (State.schemaOf kind) (prior.getD .null) proposed)
  create type planned := do
    let kind ← Action.ofExcept (State.kindOf type)
    connected fun remote => create remote kind planned
  read type current := do
    let kind ← Action.ofExcept (State.kindOf type)
    connected fun remote => read remote kind current
  update type prior planned := do
    let kind ← Action.ofExcept (State.kindOf type)
    connected fun remote => update remote kind prior planned
  delete type current := do
    let kind ← Action.ofExcept (State.kindOf type)
    connected fun remote => delete remote kind current
  importResource type id := do
    let kind ← Action.ofExcept (State.kindOf type)
    let target ← Action.ofExcept (parseImportId id)
    let state ← connected fun remote => read remote kind (importState target)
    return [⟨type, state⟩]

end Provider

end LoggingProvider
