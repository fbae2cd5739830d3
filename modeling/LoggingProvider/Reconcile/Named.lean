import LoggingProvider.Json.Printer
import LoggingProvider.Reconcile.Partition
import LoggingProvider.Text.Quoted

/-!
# Named records

The records of a block are objects with a name, and the name identifies a record in its set. What
changed in a record is the map of the members that differ from those of the old record with its
name, where a member that is gone counts as null.

## Main definitions

* `nameOf`: the name of a record
* `byName`: records identified by their names
* `changedMembers`: the members of an object that differ from those of another
* `patch`: what changed in a record, against the old set
-/

namespace LoggingProvider

namespace Reconcile

/-- **The name of a record.** -/
def nameOf (record : Json) : Except DiffFault String :=
  match record.member? "name" with
  | some (.string name) => .ok name
  | some v => .error (.noKey ("expected string name, got " ++ v.compact))
  | none => .error (.noKey ("record has no name: " ++ record.compact))

/-- Records identified by their names. -/
def byName : Keying Json String := ⟨nameOf, Text.quoted⟩

/-- The first record of a set with a name; a record without a name before it is a fault. -/
def findNamed (name : String) : List Json → Except DiffFault Json
  | [] => .error (.notInOld (Text.quoted name))
  | r :: rest =>
    match nameOf r with
    | .error fault => .error fault
    | .ok n => if n = name then .ok r else findNamed name rest

/-- **The members of an object that differ from those of an old one**; a member that is gone is
null. -/
def changedMembers (old new : Dict Json) : Dict Json :=
  (old.filter fun e => !Dict.hasName new e.1).foldl (fun d e => Dict.put e.1 .null d)
    (new.filter fun e => !(Dict.value? old e.1).any (· == e.2))

/-- **What changed in a record**, against the record of the old set with its name. -/
def patch (record : Json) (old : List Json) : Except DiffFault (Dict Json) :=
  match nameOf record with
  | .error fault => .error fault
  | .ok name =>
    match findNamed name old with
    | .error fault => .error fault
    | .ok previous => .ok (changedMembers (previous.members?.getD []) (record.members?.getD []))

end Reconcile

end LoggingProvider
