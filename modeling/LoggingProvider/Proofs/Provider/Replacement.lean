import LoggingProvider.Proofs.Provider.Paths

/-!
# When a resource is replaced

A resource is replaced when it is moved to another service: both the prior and the planned state
exist, and they do not have the same service. The plan finds this out from the paths of its changes.
Only the attribute of the service makes a change replace the resource, and its name is not the path
of a record or of a member of a record, whatever these are called.

## Main results

* `State.replaces_of_plan`: a plan replaces a resource that exists on both sides when one of its
  changes does
* `State.forcesNew_iff`: the path at which a change replaces the resource
* `State.path_mem_iff_of_plain`: when there is a change at the name of an attribute
* `Provider.replaces_iff`: when a plan replaces the resource
-/

namespace LoggingProvider

open Dict Endpoint

namespace State

variable {kind : ServiceKind} {before after prior proposed : Json} {l : List Change} {p : Plan}

/-- **A plan replaces a resource** that exists on both sides when one of its changes does. -/
theorem replaces_of_plan {schema : Schema} (h : plan schema prior proposed = .ok p) :
    p.replaces = true ↔ prior ≠ .null ∧ p.state ≠ .null ∧
      ∃ change ∈ p.changes, forcesNew schema change.path = true := by
  have hnull : ∀ v : Json, (!v.isNull) = true ↔ v ≠ .null := by
    intro v
    cases v <;> simp [Json.isNull]
  unfold plan at h
  simp only [Outcome.bind_eq_ok_iff] at h
  obtain ⟨found, -, h⟩ := h
  split at h
  · obtain rfl := Outcome.pure_eq_ok_iff.1 h
    simp [Plan.unchanged]
  · obtain rfl := Outcome.pure_eq_ok_iff.1 h
    simp only [Bool.and_eq_true, hnull, List.any_eq_true, and_assoc]

/-- **The path at which a change replaces the resource** is that of its service. -/
theorem forcesNew_iff {path : String} :
    forcesNew (schemaOf kind) path = true ↔ path = "service_id" := by
  obtain ⟨id, service, version, hid, hservice, hversion, hattributes⟩ :
      ∃ id service version : Attribute, id.forceNew = false ∧ service.forceNew = true ∧
        version.forceNew = false ∧ (schemaOf kind).block.attributes =
          [("id", id), ("service_id", service), ("version", version)] :=
    ⟨_, _, _, rfl, rfl, rfl, rfl⟩
  unfold forcesNew
  rw [hattributes, value?_cons, value?_cons, value?_cons, value?_nil]
  split
  · next hpath => simp [← hpath, hid]
  · split
    · next hpath => simp [← hpath, hservice]
    · next hservice =>
      split
      · next hpath => simp [← hpath, hversion]
      · simp [Ne.symm hservice]

/-- There is a change at the name of an attribute exactly when the attribute is not the same on both
sides. -/
theorem path_mem_iff_of_plain (h : changes (schemaOf kind) before after = .ok l) {n : String}
    (hn : n ∈ ["id", "service_id", "version"]) : n ∈ l.map Change.path ↔
      (present (before.member? n) == present (after.member? n)) = false := by
  obtain ⟨parts, -, hpaths⟩ := map_path_changes h
  rw [hpaths]
  constructor
  · intro hmem
    obtain ⟨x, hx, hpath⟩ := List.mem_map.1 hmem
    cases x with
    | plain n' =>
      obtain rfl : n' = n := hpath
      have hdiffers : n' ∈ ["id", "service_id", "version"] ∧
          (present (before.member? n') == present (after.member? n')) = false := by
        simpa [places, blockPlaces] using hx
      exact hdiffers.2
    | record m => exact absurd hpath.symm (recordPath_ne m n hn)
    | member m field =>
      exact absurd (hpath.symm.trans (Place.path_member m field)) (recordPath_ne _ n hn)
  · intro hne
    refine List.mem_map.2 ⟨.plain n, List.mem_append_left _ (List.mem_map_of_mem ?_), rfl⟩
    exact List.mem_filter.2 ⟨hn, by rw [hne]; rfl⟩

end State

namespace Provider

open State

variable {σ : Type} {around : Surroundings σ} {y z : Session σ} {kind : ServiceKind}
  {prior : Option Json} {proposed config : Json} {p : Plan}

/-- **When a plan replaces the resource**: there is a prior and a planned state, and the two do not
have the same service, where null counts as absent. No change of a record or of its members replaces
it, whatever their names are. -/
theorem replaces_iff
    (hplan : (plugin around).plan kind.resourceType prior proposed config y = (.ok p, z)) :
    (p.replaces = true ↔ prior.getD .null ≠ .null ∧ p.state ≠ .null ∧
      (present ((prior.getD .null).member? "service_id") ==
        present (p.state.member? "service_id")) = false) ∧
    ∀ n m, forcesNew (schemaOf kind) (Place.record n).path = false ∧
      forcesNew (schemaOf kind) (Place.member n m).path = false := by
  obtain ⟨hplanned, -⟩ := plugin_plan_eq_ok_iff.1 hplan
  obtain ⟨hstate, hchanges⟩ := plan_spec hplanned
  rw [← hstate] at hchanges
  have hrecord : ∀ rest, forcesNew (schemaOf kind) (recordPath blockName rest) = false := by
    intro rest
    rw [Bool.eq_false_iff, Ne, forcesNew_iff]
    exact (recordPath_ne rest "service_id" (by decide)).symm
  constructor
  · rw [replaces_of_plan hplanned, ← path_mem_iff_of_plain hchanges (by decide), List.mem_map]
    simp only [forcesNew_iff]
  · intro n m
    rw [Place.path_member]
    exact ⟨hrecord n, hrecord _⟩

/-- A state of a service with some records. -/
def holding (service : String) (items : List Json) : Json :=
  .object [("logging_kafka", .array items), ("service_id", .string service), ("version", .ofNat 1)]

/-- The records of a single endpoint. -/
def lone : List Json := [.object [("name", .string "k")]]

/-- The record with a member called like the attribute of the service, and a record of that name. -/
def serviceLike : List Json :=
  [.object [("name", .string "k"), ("service_id", .string "b")],
    .object [("name", .string "service_id")]]

/-- Names that are called like the attribute of the service replace nothing; another service
replaces the resource. -/
theorem replaces_iff_of_services :
    (∃ p, (plugin (.silent Unit)).plan ServiceKind.vcl.resourceType (some (holding "a" lone))
        (holding "a" serviceLike) .null ⟨none, ()⟩ = (.ok p, ⟨none, ()⟩) ∧ p.replaces = false) ∧
    ∃ p, (plugin (.silent Unit)).plan ServiceKind.vcl.resourceType (some (holding "a" lone))
        (holding "b" lone) .null ⟨none, ()⟩ = (.ok p, ⟨none, ()⟩) ∧ p.replaces = true := by
  constructor
  · obtain ⟨p, hp, hservice⟩ : ∃ p,
        State.plan (schemaOf .vcl) (holding "a" lone) (holding "a" serviceLike) = .ok p ∧
          p.state.member? "service_id" = some (.string "a") := ⟨_, by rfl, by rfl⟩
    have hplan : (plugin (.silent Unit)).plan ServiceKind.vcl.resourceType
        (some (holding "a" lone)) (holding "a" serviceLike) .null ⟨none, ()⟩ =
          (.ok p, ⟨none, ()⟩) := plugin_plan_eq_ok_iff.2 ⟨hp, rfl⟩
    refine ⟨p, hplan, Bool.eq_false_iff.2 fun hreplaces => ?_⟩
    obtain ⟨-, -, hne⟩ := (replaces_iff hplan).1.1 hreplaces
    rw [hservice] at hne
    cases hne
  · obtain ⟨p, hp, hnull, hservice⟩ : ∃ p,
        State.plan (schemaOf .vcl) (holding "a" lone) (holding "b" lone) = .ok p ∧
          p.state.isNull = false ∧ p.state.member? "service_id" = some (.string "b") :=
      ⟨_, by rfl, by rfl, by rfl⟩
    have hplan : (plugin (.silent Unit)).plan ServiceKind.vcl.resourceType
        (some (holding "a" lone)) (holding "b" lone) .null ⟨none, ()⟩ = (.ok p, ⟨none, ()⟩) :=
      plugin_plan_eq_ok_iff.2 ⟨hp, rfl⟩
    refine ⟨p, hplan, (replaces_iff hplan).1.2 ⟨nofun, fun hstate => ?_, ?_⟩⟩
    · rw [hstate] at hnull
      cases hnull
    · rw [hservice]
      decide +kernel

end Provider

end LoggingProvider
