import LoggingProvider.Json.Decode

/-!
# Services

A service is of one of two kinds, and each kind is a resource type of its own. A resource addresses
one version of one service.

## Main definitions

* `ServiceKind`: the kinds of service
* `ServiceKind.resourceType`: the resource type of a kind
* `Target`: a version of a service
-/

namespace LoggingProvider

/-- **The kind of a service.** -/
inductive ServiceKind where
  /-- A service written in the configuration language, whose log lines have a format and a place. -/
  | vcl
  /-- A service that runs compiled programs, which write their own log lines. -/
  | compute
deriving DecidableEq

namespace ServiceKind

/-- Both kinds, in the order of their resource types. -/
def all : List ServiceKind := [.compute, .vcl]

/-- The name of a kind. -/
def name : ServiceKind → String
  | .vcl => "vcl"
  | .compute => "compute"

/-- The resource type of a kind. -/
def resourceType : ServiceKind → String
  | .vcl => "fastly_service_vcl"
  | .compute => "fastly_service_compute"

/-- The kind with a resource type. -/
def ofResourceType? (type : String) : Option ServiceKind :=
  all.find? fun kind => kind.resourceType = type

/-- A kind from its document. -/
def ofJson (v : Json) : Except Json.DecodeFault ServiceKind :=
  (Json.asVariant false ["vcl", "compute"] v).map fun s => if s = "vcl" then .vcl else .compute

theorem ofResourceType?_resourceType (kind : ServiceKind) :
    ofResourceType? kind.resourceType = some kind := by
  cases kind <;> decide

end ServiceKind

/-- **A version of a service.** -/
structure Target where
  /-- The identity of the service. -/
  service : String
  /-- The number of the version. -/
  version : UInt32
deriving DecidableEq

/-- The text of a target. -/
def Target.text (t : Target) : String :=
  t.service ++ "@" ++ toString t.version.toNat

end LoggingProvider
