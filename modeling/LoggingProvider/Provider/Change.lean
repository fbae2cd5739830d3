import LoggingProvider.Json.Decode
import LoggingProvider.Json.Printer

/-!
# Plans

A plan is the state that an operation will lead to, with the changes on the way there. A change
concerns one path; a side that is absent says that the value did not exist before, or will not
exist after.

## Main definitions

* `Change`: what changes at a path
* `Plan`: a planned state with its changes
* `Imported`: a resource that came under management
* `Metadata`: the resource types of a provider and what it can do
* `Change.ofJson`, `Plan.ofJson`, `Imported.ofJson`: reading their documents
-/

namespace LoggingProvider

/-- **What changes at a path.** -/
structure Change where
  path : String
  /-- The value before the change. -/
  before : Option Json
  /-- The value after the change. -/
  after : Option Json

namespace Change

/-- A value that did not exist before. -/
def added (path : String) (v : Json) : Change := ⟨path, none, some v⟩

/-- A value that will not exist after. -/
def removed (path : String) (v : Json) : Change := ⟨path, some v, none⟩

/-- The document of a change, where an absent side is null. -/
def toJson (c : Change) : Json :=
  .object [("after", c.after.getD .null), ("before", c.before.getD .null), ("path", .string c.path)]

/-- One member of a change's document. -/
def checkMember (name : String) (v : Json) : Except Json.DecodeFault Unit :=
  if name = "path" then v.asText.map fun _ => () else .ok ()

/-- A side of a change, where null is absent. -/
def side (v : Json) : Except Json.DecodeFault (Option Json) :=
  .ok v.asOptionalValue

/-- **A change from its document.** -/
def ofJson : Json → Except Json.DecodeFault Change
  | .object members => do
    Json.checkMembers members checkMember
    let path ← Json.required members "path" Json.asText
    let before ← Json.optional members "before" none side
    let after ← Json.optional members "after" none side
    return ⟨path, before, after⟩
  | .array items => do
    let path ← Json.fieldAt "AttributeChange" 3 items 0 Json.asText
    let before ← Json.fieldAt "AttributeChange" 3 items 1 side
    let after ← Json.fieldAt "AttributeChange" 3 items 2 side
    Json.noneAfter 3 items
    return ⟨path, before, after⟩
  | v => .error (.wrongKind v "struct AttributeChange")

end Change

/-- **A planned state with its changes.** -/
structure Plan where
  /-- The state after the operation. -/
  state : Json
  /-- The changes on the way there. -/
  changes : List Change
  /-- Whether the resource has to be replaced. -/
  replaces : Bool

namespace Plan

/-- The plan that changes nothing. -/
def unchanged (state : Json) : Plan := ⟨state, [], false⟩

/-- The document of a plan. -/
def toJson (p : Plan) : Json :=
  .object [("changes", .array (p.changes.map Change.toJson)), ("planned_state", p.state),
    ("requires_replace", .bool p.replaces)]

/-- A list of changes. -/
def readChanges (v : Json) : Except Json.DecodeFault (List Change) := do
  (← v.asItems).mapM Change.ofJson

/-- One member of a plan's document. -/
def checkMember (name : String) (v : Json) : Except Json.DecodeFault Unit :=
  if name = "changes" then (readChanges v).map fun _ => ()
  else if name = "requires_replace" then v.asBool.map fun _ => ()
  else .ok ()

/-- **A plan from its document.** -/
def ofJson : Json → Except Json.DecodeFault Plan
  | .object members => do
    Json.checkMembers members checkMember
    let state ← Json.required members "planned_state" .ok
    let changes ← Json.required members "changes" readChanges
    let replaces ← Json.required members "requires_replace" Json.asBool
    return ⟨state, changes, replaces⟩
  | .array items => do
    let state ← Json.fieldAt "PlanResult" 3 items 0 .ok
    let changes ← Json.fieldAt "PlanResult" 3 items 1 readChanges
    let replaces ← Json.fieldAt "PlanResult" 3 items 2 Json.asBool
    Json.noneAfter 3 items
    return ⟨state, changes, replaces⟩
  | v => .error (.wrongKind v "struct PlanResult")

end Plan

/-- **A resource that came under management.** -/
structure Imported where
  /-- The resource type. -/
  type : String
  /-- The state that was found. -/
  state : Json

namespace Imported

/-- The document of an imported resource. -/
def toJson (i : Imported) : Json :=
  .object [("resource_type", .string i.type), ("state", i.state)]

/-- One member of an imported resource's document. -/
def checkMember (name : String) (v : Json) : Except Json.DecodeFault Unit :=
  if name = "resource_type" then v.asText.map fun _ => () else .ok ()

/-- **An imported resource from its document.** -/
def ofJson : Json → Except Json.DecodeFault Imported
  | .object members => do
    Json.checkMembers members checkMember
    let type ← Json.required members "resource_type" Json.asText
    let state ← Json.required members "state" .ok
    return ⟨type, state⟩
  | .array items => do
    let type ← Json.fieldAt "ImportedResource" 2 items 0 Json.asText
    let state ← Json.fieldAt "ImportedResource" 2 items 1 .ok
    Json.noneAfter 2 items
    return ⟨type, state⟩
  | v => .error (.wrongKind v "struct ImportedResource")

end Imported

/-- The resource types of a provider and what it can do. -/
structure Metadata where
  /-- The resource types. -/
  resources : List String
  /-- Whether it plans the end of resources. -/
  planDestroy : Bool

/-- The document of the metadata. -/
def Metadata.toJson (m : Metadata) : Json :=
  .object [("capabilities", .object [("plan_destroy", .bool m.planDestroy)]),
    ("resources", .array (m.resources.map .string))]

end LoggingProvider
