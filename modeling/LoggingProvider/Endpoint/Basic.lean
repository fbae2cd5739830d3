import LoggingProvider.Endpoint.Field

/-!
# Endpoints

A Kafka logging endpoint sends the log lines of a service version to a topic. It has a name, unique
in the service version, and settings, which give each field a value or none. A partial update is
made of settings too: it replaces the fields it sets and keeps the others.

## Main definitions

* `Settings`: a value or none for each field
* `Settings.overlay`: settings on top of others
* `Settings.setFields`: the fields that have a value
* `Endpoint`: a name and settings
* `Endpoint.ofJson`: an endpoint from a document of the interface
* `Endpoint.toJson`: an endpoint as a document
-/

namespace LoggingProvider

namespace Endpoint

/-- **A value or none for each field.** -/
def Settings : Type := (f : Field) → Option f.kind.Carrier

namespace Settings

/-- No field has a value. -/
def empty : Settings := fun _ => none

instance : Inhabited Settings := ⟨empty⟩

/-- **Settings on top of others**: a field keeps its value where the upper settings have none. -/
def overlay (upper lower : Settings) : Settings := fun f =>
  match upper f with
  | some v => some v
  | none => lower f

/-- The fields that have a value, in the order of a form. -/
def setFields (s : Settings) : List Field :=
  Field.all.filter fun f => (s f).isSome

/-- The names of fields with values, written as documents, in the order of a form. -/
def entries (s : Settings) : List (String × Json) :=
  Field.all.filterMap fun f => (s f).map fun v => (f.name, f.kind.toJson v)

/-- The entries of a form, in order. -/
def formEntries (s : Settings) : List (String × String) :=
  Field.all.filterMap fun f => (s f).map fun v => (f.name, f.kind.formText v)

/-- The members of a form as a document. -/
def formMembers (s : Settings) : List (String × Json) :=
  Field.all.filterMap fun f => (s f).map fun v => (f.name, f.kind.formJson v)

/-- The settings that the members of an object give; members of the wrong shape are passed over. -/
def ofMembers (members : Dict Json) : Settings := fun f =>
  (Dict.value? members f.name).bind f.kind.strict?

theorem overlay_apply (upper lower : Settings) (f : Field) :
    overlay upper lower f = (upper f).or (lower f) := by
  unfold overlay
  cases upper f <;> rfl

theorem overlay_assoc (a b c : Settings) : overlay (overlay a b) c = overlay a (overlay b c) := by
  funext f
  simp [overlay_apply, Option.or_assoc]

@[simp] theorem overlay_self (s : Settings) : overlay s s = s := by
  funext f
  simp [overlay_apply]

theorem mem_setFields {s : Settings} {f : Field} : f ∈ s.setFields ↔ (s f).isSome := by
  simp [setFields, Field.mem_all]

end Settings

end Endpoint

/-- **A Kafka logging endpoint.** -/
structure Endpoint where
  /-- Its name, unique in a service version. -/
  name : String
  /-- Its fields. -/
  settings : Endpoint.Settings
deriving Inhabited

namespace Endpoint

/-- The document of an endpoint, with the fields that have a value. -/
def toJson (e : Endpoint) : Json :=
  .object (Dict.ofEntries (("name", .string e.name) :: e.settings.entries))

/-! ## Reading -/

/-- One member of an endpoint's document. -/
def checkMember (name : String) (v : Json) : Except Json.DecodeFault Unit :=
  if name = "name" then v.asText.map fun _ => ()
  else
    match Field.ofName? name with
    | some f => (f.kind.ofJson v).map fun _ => ()
    | none => .ok ()

/-- The value of a field in an endpoint's document. -/
def fieldOf (v : Option Json) (f : Field) : Option f.kind.Carrier :=
  v.bind fun v =>
    match f.kind.ofJson v with
    | .ok value => value
    | .error _ => none

/-- The fields of an endpoint in the array of all its fields, each with its place. -/
def places : List (Field × Nat) := Field.all.zipIdx 1

/-- The place of a field in the array of all fields; the name stands first. -/
def placeOf (f : Field) : Nat := Field.all.idxOf f + 1

/-- **An endpoint from a document**: an object, or the array of its fields in order, where fields
may be missing at the end. Members without a meaning are passed over. -/
def ofJson : Json → Except Json.DecodeFault Endpoint
  | .object members => do
    Json.checkMembers members checkMember
    let name ← Json.required members "name" Json.asText
    return ⟨name, fun f => fieldOf (Dict.value? members f.name) f⟩
  | .array items => do
    let name ← Json.fieldAt "Kafka" 19 items 0 Json.asText
    places.forM fun p =>
      match items[p.2]? with
      | some v => (p.1.kind.ofJson v).map fun _ => ()
      | none => .ok ()
    Json.noneAfter 19 items
    return ⟨name, fun f => fieldOf items[placeOf f]? f⟩
  | v => .error (.wrongKind v "struct Kafka")

end Endpoint

end LoggingProvider
