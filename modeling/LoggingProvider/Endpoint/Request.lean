import LoggingProvider.Endpoint.Block
import LoggingProvider.Fault
import LoggingProvider.Reconcile.Named

/-!
# Requests for endpoints

A request to create, update or delete an endpoint is built from its record. A creation sends every
field that the record sets. An update sends the changed fields alone, where null clears a field:
a text becomes empty, a truth value false and a count zero, but a cleared format version is left
out and falls back to what the interface takes by default.

## Main definitions

* `Purpose`: creation or update
* `Kind.read`: the value to send for a member of a record
* `settingsFor`: the fields to send for a record
* `createCall`, `updateCall`, `deleteCall`: the requests for a record
-/

namespace LoggingProvider

/-- **A request to the remote interface**, addressed to a version of a service. -/
inductive Call where
  /-- The endpoints of a version. -/
  | list (target : Target)
  /-- A new endpoint. -/
  | create (target : Target) (name : String) (settings : Endpoint.Settings)
  /-- New values for some fields of an endpoint. -/
  | update (target : Target) (name : String) (settings : Endpoint.Settings)
  /-- An endpoint less. -/
  | delete (target : Target) (name : String)

namespace Endpoint

/-- What the fields of a request are for. -/
inductive Purpose where
  /-- Fields that are null or the empty text are left out. -/
  | create
  /-- Null clears a field. -/
  | update
deriving DecidableEq

/-- The value that a cleared field gets. -/
def Kind.cleared : (k : Kind) → k.Carrier
  | .text => ""
  | .flag => false
  | .count => 0

/-- The unsigned integer that a number denotes; a floating-point number beyond the largest one
counts as the largest one. -/
def countOf (n : Number) : Option UInt64 :=
  match n with
  | .natural n => some n
  | n =>
    let x := n.rounded
    if x.isIntegral && (!x.negative || x.isZero) then
      some (UInt64.ofNat (min x.truncated 18446744073709551615))
    else none

/-- The fault of a member with the wrong kind of value. -/
def wrongMember (name expected : String) (v : Json) : Fault :=
  .validation (name ++ ": expected " ++ expected ++ ", got " ++ v.compact)

/-- **The value to send for a member of a record**, none when it is not sent. -/
def Kind.read :
    (k : Kind) → (name : String) → Purpose → Option Json → Except Fault (Option k.Carrier)
  | _, _, _, none => .ok none
  | k, _, .update, some .null => .ok (some k.cleared)
  | _, _, .create, some .null => .ok none
  | .text, _, purpose, some (.string s) =>
    if purpose = .create ∧ s = "" then .ok none else .ok (some s)
  | .text, name, _, some v => .error (wrongMember name "string" v)
  | .flag, _, _, some (.bool b) => .ok (some b)
  | .flag, name, _, some v => .error (wrongMember name "bool" v)
  | .count, name, _, some (.number n) =>
    match countOf n with
    | some c => .ok (some c)
    | none => .error (wrongMember name "non-negative integer" (.number n))
  | .count, name, _, some v => .error (wrongMember name "integer" v)

/-- The purpose for which a field is read: a cleared format version is never sent. -/
def Field.purpose (f : Field) (purpose : Purpose) : Purpose :=
  if f = .formatVersion then .create else purpose

/-- The value to send for a field of a record. -/
def Field.read (f : Field) (purpose : Purpose) (members : Dict Json) :
    Except Fault (Option f.kind.Carrier) :=
  f.kind.read f.name (f.purpose purpose) (Dict.value? members f.name)

/-- The fields of a record in the order in which they are looked at: those of every service kind
before those of one. -/
def Field.readOrder (kind : ServiceKind) : List Field :=
  (Field.all.filter fun f => !f.vclOnly) ++
    if kind = .vcl then Field.all.filter Field.vclOnly else []

/-- The values that can be read, for the registered fields. -/
def readable (kind : ServiceKind) (purpose : Purpose) (members : Dict Json) : Settings := fun f =>
  if f.registered kind then
    match f.read purpose members with
    | .ok v => v
    | .error _ => none
  else none

/-- **The fields to send for a record**; the first member with the wrong kind of value is a
fault. -/
def settingsFor (kind : ServiceKind) (purpose : Purpose) (members : Dict Json) :
    Except Fault Settings := do
  (Field.readOrder kind).forM fun f => (f.read purpose members).map fun _ => ()
  return readable kind purpose members

/-- The name of a record, as part of a request. -/
def recordName (record : Json) : Except Fault String :=
  (Reconcile.nameOf record).mapError .diff

/-- The members of a record that is an object. -/
def recordObject (record : Json) : Except Fault (Dict Json) :=
  match record.members? with
  | some members => .ok members
  | none => .error (.validation ("expected object record, got " ++ record.compact))

/-- **The request that creates a record's endpoint.** -/
def createCall (kind : ServiceKind) (target : Target) (record : Json) : Except Fault Call := do
  let members ← recordObject record
  let name ← recordName record
  let settings ← settingsFor kind .create members
  return .create target name settings

/-- **The request that updates a record's endpoint** from what changed in the record. -/
def updateCall (kind : ServiceKind) (target : Target) (record : Json) (changed : Dict Json) :
    Except Fault Call := do
  let name ← recordName record
  let settings ← settingsFor kind .update changed
  return .update target name settings

/-- **The request that deletes a record's endpoint.** -/
def deleteCall (target : Target) (record : Json) : Except Fault Call := do
  let name ← recordName record
  return .delete target name

end Endpoint

end LoggingProvider
