import LoggingProvider.Proofs.Provider.Plan
import LoggingProvider.Proofs.Remote.Script
import LoggingProvider.Provider.Session

/-!
# The operations of the provider

What the operations on a resource do when they succeed. A creation, an update and a deletion are
reconciliations of the service version that a state addresses; reading replaces the records of a
state by those of the service version.

## Main definitions

* `State.withRecords`: a state with its records replaced

## Main results

* `Provider.create_eq_ok_iff`, `Provider.read_eq_ok_iff`, `Provider.update_eq_ok_iff`,
  `Provider.delete_eq_ok_iff`: when the operations succeed, and with which states
* `Provider.create_eq_error_iff`: why a creation fails
* `Provider.plugin_plan_eq_ok_iff`, `Provider.connected_eq_iff`: planning needs no connection,
  and an operation over a connection changes what is behind it
-/

namespace LoggingProvider

open Dict Endpoint

/-! ## States with their records replaced -/

namespace State

variable {state : Json} {rs : List Json} {t : Target} {n : String}

/-- **The state with its records replaced**, and its identity set. -/
def withRecords (state : Json) (rs : List Json) : Json :=
  withId (.object (Dict.put blockName (.array rs) (members state)))

theorem member?_eq (state : Json) (n : String) : state.member? n = value? (members state) n := by
  cases state <;> rfl

theorem member?_withRecords (hn : n ≠ "id") : (withRecords state rs).member? n =
    if blockName = n then some (.array rs) else state.member? n := by
  rw [withRecords, member?_withId, if_neg hn, value?_put, member?_eq]

/-- The identity of a state whose records are replaced is that of its service. -/
theorem member?_withRecords_id : (withRecords state rs).member? "id" =
    (state.member? "service_id").or (state.member? "id") := by
  rw [withRecords, member?_withId, if_pos rfl, value?_put, value?_put, if_neg (by decide),
    if_neg (by decide), member?_eq, member?_eq]

theorem member?_withRecords_blockName :
    (withRecords state rs).member? blockName = some (.array rs) := by
  rw [member?_withRecords (by decide), if_pos rfl]

theorem records_withRecords : records (withRecords state rs) blockName = rs := by
  rw [records, member?_withRecords_blockName]
  rfl

theorem target_withRecords : target (withRecords state rs) = .ok t ↔ target state = .ok t := by
  have hservice : (withRecords state rs).member? "service_id" = state.member? "service_id" := by
    rw [member?_withRecords (by decide), if_neg (by decide)]
  have hversion : (withRecords state rs).member? "version" = state.member? "version" := by
    rw [member?_withRecords (by decide), if_neg (by decide)]
  rw [target_eq_ok_iff, target_eq_ok_iff, hservice, hversion]

end State

/-- Surroundings without an environment, in which nothing responds. -/
def Surroundings.silent (σ : Type) : Surroundings σ :=
  ⟨fun _ => none, .silent σ⟩

namespace Provider

variable {σ : Type} {remote : Remote σ} {kind : ServiceKind} {s s' : σ}
  {prior planned current state : Json}

/-! ## Resources -/

/-- **A creation** reconciles a service version from no records. -/
theorem create_eq_ok_iff : create remote kind planned s = (.ok state, s') ↔
    state = State.normalize (State.schemaOf kind) planned ∧ ∃ t, State.target state = .ok t ∧
      Reconcile.endpoints remote kind t [] (State.records state blockName) s = (.ok (), s') := by
  unfold create
  rw [Action.ofExcept_bind_eq_ok_iff]
  simp only [Action.bind_eq_ok_iff, Action.pure_eq_ok_iff]
  constructor
  · rintro ⟨t, ht, _, s', hrun, rfl, rfl⟩
    exact ⟨rfl, t, ht, hrun⟩
  · rintro ⟨rfl, t, ht, hrun⟩
    exact ⟨t, ht, (), s', hrun, rfl, rfl⟩

/-- **Why a creation fails**: the plan addresses no service version, or the reconciliation fails. -/
theorem create_eq_error_iff {fault : Fault} :
    create remote kind planned s = (.error fault, s') ↔
      (State.target (State.normalize (State.schemaOf kind) planned) = .error fault ∧ s = s') ∨
        ∃ t, State.target (State.normalize (State.schemaOf kind) planned) = .ok t ∧
          Reconcile.endpoints remote kind t []
            (State.records (State.normalize (State.schemaOf kind) planned) blockName) s =
              (.error fault, s') := by
  unfold create
  rw [Action.ofExcept_bind_eq_error_iff]
  simp only [Action.bind_eq_error_iff, Action.pure_ne_error, and_false, exists_false, or_false]

/-- **Reading** replaces the records of a state by those of its service version. -/
theorem read_eq_ok_iff : read remote kind current s = (.ok state, s') ↔
    ∃ t rs, State.target current = .ok t ∧
      Reconcile.currentRecords remote kind t s = (.ok rs, s') ∧
      state = State.withRecords current rs := by
  unfold read
  rw [Action.ofExcept_bind_eq_ok_iff]
  simp only [Action.bind_eq_ok_iff, Action.pure_eq_ok_iff]
  constructor
  · rintro ⟨t, ht, rs, s', hrs, rfl, rfl⟩
    exact ⟨t, rs, ht, hrs, rfl⟩
  · rintro ⟨t, rs, ht, hrs, rfl⟩
    exact ⟨t, ht, rs, s', hrs, rfl, rfl⟩

/-- **An update** reconciles the service version of the planned state from the records of the prior
one. -/
theorem update_eq_ok_iff : update remote kind prior planned s = (.ok state, s') ↔
    state = State.normalize (State.schemaOf kind) planned ∧ ∃ t, State.target state = .ok t ∧
      Reconcile.endpoints remote kind t (State.records prior blockName)
        (State.records state blockName) s = (.ok (), s') := by
  unfold update
  rw [Action.ofExcept_bind_eq_ok_iff]
  simp only [Action.bind_eq_ok_iff, Action.pure_eq_ok_iff]
  constructor
  · rintro ⟨t, ht, _, s', hrun, rfl, rfl⟩
    exact ⟨rfl, t, ht, hrun⟩
  · rintro ⟨rfl, t, ht, hrun⟩
    exact ⟨t, ht, (), s', hrun, rfl, rfl⟩

/-- **A deletion** reconciles a service version to no records. -/
theorem delete_eq_ok_iff : delete remote kind current s = (.ok (), s') ↔
    ∃ t, State.target current = .ok t ∧
      Reconcile.endpoints remote kind t (State.records current blockName) [] s = (.ok (), s') := by
  unfold delete
  rw [Action.ofExcept_bind_eq_ok_iff]

/-! ## The provider over a connection -/

variable {α : Type} {around : Surroundings σ} {z z' : Session σ}

/-- An operation over a connection changes what is behind it. -/
theorem connected_eq_iff {use : Remote σ → Action σ α} {r : Except Fault α} :
    connected use ⟨some remote, s⟩ = (r, z) ↔
      ∃ s', use remote s = (r, s') ∧ z = ⟨some remote, s'⟩ := by
  unfold connected
  simp only
  rcases use remote s with ⟨_, s'⟩
  constructor
  · intro h
    obtain ⟨rfl, rfl⟩ := Prod.mk.inj h
    exact ⟨s', rfl, rfl⟩
  · rintro ⟨s', h, rfl⟩
    obtain ⟨rfl, rfl⟩ := Prod.mk.inj h
    rfl

theorem kindOf_resourceType (kind : ServiceKind) :
    State.kindOf kind.resourceType = .ok kind := by
  unfold State.kindOf
  rw [ServiceKind.ofResourceType?_resourceType]

/-- An operation on the resources of a type is that of the service kind of the type. -/
theorem ofKind_bind {τ : Type} (f : ServiceKind → Action τ α) (z : τ) :
    (Action.ofExcept (State.kindOf kind.resourceType) >>= f) z = f kind z :=
  Action.ofExcept_bind_of_ok (kindOf_resourceType kind)

/-- Validating needs no connection and changes nothing. -/
theorem plugin_validate_eq_ok_iff {config : Json} {findings : List Diagnostic} :
    (plugin around).validateResourceConfig kind.resourceType config z = (.ok findings, z') ↔
      findings = resourceFindings kind config ∧ z' = z := by
  change (Action.ofExcept (State.kindOf kind.resourceType) >>= _) z = _ ↔ _
  rw [ofKind_bind, Action.pure_eq_ok_iff,
    eq_comm (a := findings), eq_comm (a := z')]

/-- Planning needs no connection and changes nothing. -/
theorem plugin_plan_eq_ok_iff {prior : Option Json} {proposed config : Json} {p : Plan} :
    (plugin around).plan kind.resourceType prior proposed config z = (.ok p, z') ↔
      State.plan (State.schemaOf kind) (prior.getD .null) proposed = .ok p ∧ z' = z := by
  change (Action.ofExcept (State.kindOf kind.resourceType) >>= _) z = _ ↔ _
  rw [ofKind_bind, Action.ofExcept_apply, Prod.mk.injEq,
    eq_comm (a := z)]

theorem plugin_create_eq_iff {r : Except Fault Json} :
    (plugin around).create kind.resourceType planned ⟨some remote, s⟩ = (r, z) ↔
      ∃ s', create remote kind planned s = (r, s') ∧ z = ⟨some remote, s'⟩ := by
  change (Action.ofExcept (State.kindOf kind.resourceType) >>= _) _ = _ ↔ _
  rw [ofKind_bind, connected_eq_iff]

theorem plugin_read_eq_ok_iff :
    (plugin around).read kind.resourceType current ⟨some remote, s⟩ = (.ok state, z) ↔
      ∃ s', read remote kind current s = (.ok state, s') ∧ z = ⟨some remote, s'⟩ := by
  change (Action.ofExcept (State.kindOf kind.resourceType) >>= _) _ = _ ↔ _
  rw [ofKind_bind, connected_eq_iff]

theorem plugin_update_eq_ok_iff :
    (plugin around).update kind.resourceType prior planned ⟨some remote, s⟩ = (.ok state, z) ↔
      ∃ s', update remote kind prior planned s = (.ok state, s') ∧ z = ⟨some remote, s'⟩ := by
  change (Action.ofExcept (State.kindOf kind.resourceType) >>= _) _ = _ ↔ _
  rw [ofKind_bind, connected_eq_iff]

theorem plugin_delete_eq_ok_iff :
    (plugin around).delete kind.resourceType current ⟨some remote, s⟩ = (.ok (), z) ↔
      ∃ s', delete remote kind current s = (.ok (), s') ∧ z = ⟨some remote, s'⟩ := by
  change (Action.ofExcept (State.kindOf kind.resourceType) >>= _) _ = _ ↔ _
  rw [ofKind_bind, connected_eq_iff]

/-- **An import** is a reading of the service version that the identity names. -/
theorem plugin_importResource_eq_ok_iff {id : String} {found : List Imported} :
    (plugin around).importResource kind.resourceType id ⟨some remote, s⟩ = (.ok found, z) ↔
      ∃ t state s', parseImportId id = .ok t ∧
        read remote kind (importState t) s = (.ok state, s') ∧
          found = [⟨kind.resourceType, state⟩] ∧ z = ⟨some remote, s'⟩ := by
  change (Action.ofExcept (State.kindOf kind.resourceType) >>= _) _ = _ ↔ _
  rw [ofKind_bind, Action.ofExcept_bind_eq_ok_iff]
  simp only [Action.bind_eq_ok_iff, Action.pure_eq_ok_iff, connected_eq_iff]
  constructor
  · rintro ⟨t, ht, state, z', ⟨s', hread, rfl⟩, rfl, rfl⟩
    exact ⟨t, state, s', ht, hread, rfl, rfl⟩
  · rintro ⟨t, state, s', ht, hread, rfl, rfl⟩
    exact ⟨t, ht, state, _, ⟨s', hread, rfl⟩, rfl, rfl⟩

end Provider

end LoggingProvider
