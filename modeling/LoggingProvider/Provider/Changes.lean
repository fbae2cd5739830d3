import LoggingProvider.Provider.Change
import LoggingProvider.Provider.State
import LoggingProvider.Reconcile.Named
import LoggingProvider.Schema.Normalize

/-!
# Changes between states

The changes between two states of a resource: the attributes that differ, where null counts as
absent, and the records of nested blocks that are deleted, added or modified, by name. A plan is the
proposed state in normal form with the changes from the prior state to it.

## Main definitions

* `State.attributeChange?`: the change of one attribute
* `State.blockChanges`: the changes of the records of a nested block
* `State.changes`: the changes between two states
* `State.plan`: the plan from a prior state to a proposed one
-/

namespace LoggingProvider

namespace State

/-- A value that is there and not null. -/
def present (v : Option Json) : Option Json :=
  v.filter fun v => !v.isNull

/-- The change of one attribute. -/
def attributeChange? (before after : Json) (name : String) : Option Change :=
  match present (before.member? name), present (after.member? name) with
  | none, some a => some (.added name a)
  | some b, none => some (.removed name b)
  | some b, some a => if b == a then none else some ⟨name, some b, some a⟩
  | none, none => none

/-- The path of a record of a nested block. -/
def recordPath (block name : String) : String :=
  block ++ "." ++ name

/-- The name of a record, which is empty when it has none. -/
def nameD (record : Json) : String :=
  match Reconcile.nameOf record with
  | .ok name => name
  | .error _ => ""

/-- The changes of the members of a modified record. -/
def recordChanges (block : String) (old : List Json) (record : Json) :
    Except Fault (List Change) := do
  let name ← (Reconcile.nameOf record).mapError .diff
  let previous ← (Reconcile.findNamed name old).mapError .diff
  let changed ← (Reconcile.patch record old).mapError .diff
  return changed.map fun e =>
    ⟨recordPath block name ++ "." ++ e.1, present (previous.member? e.1), present (some e.2)⟩

/-- **The changes of the records of a nested block**: the deleted ones, the added ones, and the
members of modified ones. -/
def blockChanges (before after : Json) (block : String) : Except Fault (List Change) := do
  let old := records before block
  let parts ← (Reconcile.byName.diff old (records after block)).mapError .diff
  let modified ← parts.modified.mapM (recordChanges block old)
  return parts.deleted.map (fun r => .removed (recordPath block (nameD r)) r)
    ++ parts.added.map (fun r => .added (recordPath block (nameD r)) r)
    ++ modified.flatten

/-- **The changes between two states** under a schema. -/
def changes (schema : Schema) (before after : Json) : Except Fault (List Change) := do
  let blocks ← (Dict.names schema.block.blocks).mapM (blockChanges before after)
  return (Dict.names schema.block.attributes).filterMap (attributeChange? before after)
    ++ blocks.flatten

/-- The normal form of a state, with its identity set. -/
def normalize (schema : Schema) (state : Json) : Json :=
  withId (schema.normalize state)

/-- Whether a change at a path replaces the resource. -/
def forcesNew (schema : Schema) (path : String) : Bool :=
  (Dict.value? schema.block.attributes path).any Attribute.forceNew

/-- The state that is planned for a proposed one; null plans the end of the resource. -/
def planned (schema : Schema) (proposed : Json) : Json :=
  if proposed.isNull then .null else normalize schema proposed

/-- **The plan from a prior state to a proposed one**; a prior state of null says that there is
none. -/
def plan (schema : Schema) (prior proposed : Json) : Except Fault Plan := do
  let state := planned schema proposed
  let found ← changes schema prior state
  if found.isEmpty then return .unchanged state
  return ⟨state, found,
    !prior.isNull && !state.isNull && found.any fun c => forcesNew schema c.path⟩

end State

end LoggingProvider
