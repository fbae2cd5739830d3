import LoggingProvider.Remote.Basic

/-!
# Reconciliation of endpoints

The endpoints of a service version are brought from an old set of records to a new one: endpoints
that disappeared are deleted, new ones created, and changed ones updated with what changed. An
endpoint that is already gone need not be deleted. Read back, the endpoints are records in name
order.

## Main definitions

* `performAll`: one request after the other, each built when its turn comes
* `endpoints`: the reconciliation of a service version
* `currentRecords`: the records of a service version
-/

namespace LoggingProvider

namespace Reconcile

variable {σ : Type}

/-- **One request after the other**, each built from a record when its turn comes, up to the first
fault that is not tolerated. -/
def performAll (remote : Remote σ) (tolerated : Fault → Bool) (build : Json → Except Fault Call) :
    List Json → Action σ Unit
  | [] => pure ()
  | r :: rest => do
    let c ← Action.ofExcept (build r)
    remote.attempt tolerated c
    performAll remote tolerated build rest

/-- The request for a modified record: what changed against the old set is sent. -/
def updateFor (kind : ServiceKind) (target : Target) (old : List Json) (r : Json) :
    Except Fault Call := do
  let changed ← (patch r old).mapError .diff
  Endpoint.updateCall kind target r changed

/-- **The reconciliation of a service version** from an old set of records to a new one. -/
def endpoints (remote : Remote σ) (kind : ServiceKind) (target : Target) (old new : List Json) :
    Action σ Unit := do
  let parts ← Action.ofExcept ((byName.diff old new).mapError .diff)
  performAll remote Fault.isNotFound (Endpoint.deleteCall target) parts.deleted
  performAll remote (fun _ => false) (Endpoint.createCall kind target) parts.added
  performAll remote (fun _ => false) (updateFor kind target old) parts.modified

/-- Whether a record stands before another: by name, a record without a name first. -/
def namedBefore (a b : Json) : Bool :=
  match (a.memberD "name").text?, (b.memberD "name").text? with
  | none, _ => true
  | some _, none => false
  | some m, some n => !(n < m)

/-- **The records of a service version**, in name order. -/
def currentRecords (remote : Remote σ) (kind : ServiceKind) (target : Target) :
    Action σ (List Json) := do
  let found ← remote.call (.list target)
  return (found.map (Endpoint.record kind)).mergeSort namedBefore

end Reconcile

end LoggingProvider
