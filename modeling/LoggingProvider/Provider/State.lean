import LoggingProvider.Config
import LoggingProvider.Endpoint.Block
import LoggingProvider.Fault

/-!
# States of resources

The state of a resource is a document: an object with the identity of a service, the number of one
of its versions and the records of its endpoints.

## Main definitions

* `State.schemaOf`: the schema of a resource
* `State.providerSchema`: the schemas of the provider
* `State.kindOf`: the service kind of a resource type
* `State.records`: the records in a state
* `State.target`: the service version that a state addresses
* `State.withId`: a state with its identity set
-/

namespace LoggingProvider

namespace State

/-- **The schema of a resource** of a service kind. -/
def schemaOf (kind : ServiceKind) : Schema :=
  let id := Attribute.computedString.withDescription "Same as service_id"
  let service := Attribute.requiredString.withForceNew.withDescription "ID of the Fastly service"
  let version := Attribute.requiredInt64.withDescription
    "Editable service version the endpoints are written to"
  Endpoint.register kind
    ((((Schema.empty 0).withAttribute "id" id).withAttribute "service_id" service).withAttribute
      "version" version)

/-- The schemas of the provider. -/
def providerSchema : ProviderSchema :=
  ServiceKind.all.foldl (fun s kind => s.withResource kind.resourceType (schemaOf kind))
    ⟨Config.schema, []⟩

/-- The service kind of a resource type. -/
def kindOf (type : String) : Except Fault ServiceKind :=
  match ServiceKind.ofResourceType? type with
  | some kind => .ok kind
  | none => .error (.unknownResource type)

/-- **The records in a state**, none when there is no list of them. -/
def records (state : Json) (block : String) : List Json :=
  ((state.member? block).bind Json.items?).getD []

/-- The identity of the service in a state. -/
def serviceId? (state : Json) : Option String :=
  ((state.member? "service_id").bind Json.text?).filter fun s => s ≠ ""

/-- The number of the version in a state. -/
def version? (state : Json) : Option UInt32 :=
  match state.member? "version" with
  | some (.number (.natural n)) =>
    if 0 < n.toNat ∧ n.toNat < 4294967296 then some (UInt32.ofNat n.toNat) else none
  | _ => none

/-- **The service version that a state addresses.** -/
def target (state : Json) : Except Fault Target :=
  match serviceId? state with
  | none => .error (.validation "service_id is required")
  | some service =>
    match version? state with
    | none =>
      .error (.validation
        ("version must be a positive integer, got " ++ (state.memberD "version").compact))
    | some version => .ok ⟨service, version⟩

/-- The state with the identity of its service as its own. -/
def withId : Json → Json
  | .object members =>
    match Dict.value? members "service_id" with
    | some id => .object (Dict.put "id" id members)
    | none => .object members
  | v => v

/-- The members of a state. -/
def members (state : Json) : Dict Json :=
  state.members?.getD []

end State

end LoggingProvider
