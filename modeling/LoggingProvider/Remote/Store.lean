import LoggingProvider.Remote.Basic

/-!
# The store

An interface that keeps endpoints in memory. Each service version has its endpoints by name. A
creation under a name that is taken is refused, as is a change of an endpoint that is not there.
Every request is recorded, the refused ones too, and the next request can be made to fail.

## Main definitions

* `Store`: endpoints, recorded requests and a failure to come
* `Store.seed`, `Store.failNext`: an endpoint put there, and a failure to come
* `Store.serve`: the endpoints after a request, and its answer
* `Store.remote`: the store as an interface

## Main results

* `Store.replace_of_ne`: replacing the endpoints of a version leaves the others
* `Store.calls_answer`, `Store.failure_answer`: what a request leaves in the record
-/

namespace LoggingProvider

/-- **Endpoints kept in memory.** -/
structure Store where
  /-- The endpoints of each service version, by name. -/
  endpoints : Target → Dict Endpoint
  /-- The requests so far, the first one first. -/
  calls : List Call
  /-- The failure of the next request. -/
  failure : Option Fault

namespace Store

/-- The store without endpoints. -/
def empty : Store := ⟨fun _ => [], [], none⟩

instance : Inhabited Store := ⟨empty⟩

/-- The endpoints of every version, with those of one version replaced. -/
def replace (all : Target → Dict Endpoint) (target : Target) (endpoints : Dict Endpoint) :
    Target → Dict Endpoint := fun other =>
  if other = target then endpoints else all other

/-- The store with an endpoint put into a version. -/
def seed (s : Store) (target : Target) (e : Endpoint) : Store :=
  { s with endpoints := replace s.endpoints target (Dict.put e.name e (s.endpoints target)) }

/-- The store whose next request fails. -/
def failNext (s : Store) (status : UInt16) (message : String) : Store :=
  { s with failure := some (.remote status message) }

/-- The endpoints of a version, in name order. -/
def listed (s : Store) (target : Target) : List Endpoint :=
  (s.endpoints target).map Prod.snd

/-- One endpoint of a version. -/
def find? (s : Store) (target : Target) (name : String) : Option Endpoint :=
  Dict.value? (s.endpoints target) name

/-- The fault of a name that is taken. -/
def taken (name : String) : Fault := .remote 409 ("Duplicate record: " ++ name)

/-- The fault of a name that is not there. -/
def absent (name : String) : Fault := .remote 404 ("Record not found: " ++ name)

/-- **The answer to a request and the endpoints after it.** -/
def serve (all : Target → Dict Endpoint) :
    (c : Call) → Except Fault c.Reply × (Target → Dict Endpoint)
  | .list target => (.ok ((all target).map Prod.snd), all)
  | .create target name settings =>
    if Dict.hasName (all target) name then (.error (taken name), all)
    else
      (.ok ⟨name, settings⟩, replace all target (Dict.put name ⟨name, settings⟩ (all target)))
  | .update target name settings =>
    match Dict.value? (all target) name with
    | none => (.error (absent name), all)
    | some e =>
      let changed : Endpoint := ⟨e.name, settings.overlay e.settings⟩
      (.ok changed, replace all target (Dict.put name changed (all target)))
  | .delete target name =>
    if Dict.hasName (all target) name then
      (.ok (), replace all target (Dict.remove name (all target)))
    else (.error (absent name), all)

/-- The answer to a request in a state: a failure to come is used up first. -/
def answer (s : Store) (c : Call) : Except Fault c.Reply × Store :=
  match s.failure with
  | some fault => (.error fault, ⟨s.endpoints, s.calls ++ [c], none⟩)
  | none =>
    let (r, endpoints) := serve s.endpoints c
    (r, ⟨endpoints, s.calls ++ [c], none⟩)

/-- **The store as an interface.** -/
def remote : Remote Store := ⟨fun c s => s.answer c⟩

/-! ## Replacement and record -/

@[simp] theorem replace_target (all : Target → Dict Endpoint) (target : Target)
    (endpoints : Dict Endpoint) : replace all target endpoints target = endpoints := by
  simp [replace]

/-- The endpoints of another version stay as they are. -/
theorem replace_of_ne (all : Target → Dict Endpoint) {target other : Target} (h : other ≠ target)
    (endpoints : Dict Endpoint) : replace all target endpoints other = all other := by
  simp [replace, h]

@[simp] theorem replace_self (all : Target → Dict Endpoint) (target : Target) :
    replace all target (all target) = all := by
  funext other
  by_cases h : other = target
  · rw [h, replace_target]
  · rw [replace_of_ne _ h]

@[simp] theorem replace_replace (all : Target → Dict Endpoint) (target : Target)
    (first second : Dict Endpoint) :
    replace (replace all target first) target second = replace all target second := by
  funext other
  by_cases h : other = target
  · rw [h, replace_target, replace_target]
  · rw [replace_of_ne _ h, replace_of_ne _ h, replace_of_ne _ h]

/-- Every request is recorded, the refused ones too. -/
@[simp] theorem calls_answer (c : Call) (s : Store) : (s.answer c).2.calls = s.calls ++ [c] := by
  unfold answer
  split <;> rfl

/-- A failure to come is used up by one request. -/
@[simp] theorem failure_answer (c : Call) (s : Store) : (s.answer c).2.failure = none := by
  unfold answer
  split <;> rfl

end Store

end LoggingProvider
