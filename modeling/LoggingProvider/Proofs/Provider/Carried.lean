import LoggingProvider.Proofs.Provider.Operations
import LoggingProvider.Proofs.Reconcile.Stored
import LoggingProvider.Provider.Lifecycle

/-!
# Plans carried out over the store

A configuration of a service version is planned, the plan is carried out, and the resource is read.
Over the store, planning succeeds when names are distinct, carrying a plan out is a reconciliation
to the records that the configuration asks for, and reading finds the records of the store.

## Main results

* `Provider.exists_planned`: the plan for a configuration
* `Provider.plugin_create_planned`, `Provider.plugin_update_planned`: plans that are carried out
* `Provider.plugin_read_eq`: what is read
-/

namespace LoggingProvider

namespace Provider

open Endpoint Reconcile State

variable {kind : ServiceKind} {t : Target} {c state : Json} {s s' : Store}

/-- **Reading a state** finds the records of the service version that it addresses. -/
theorem plugin_read_eq (around : Surroundings Store) (hs : s.failure = none)
    (ht : State.target state = .ok t) :
    (plugin around).read kind.resourceType state ⟨some Store.remote, s⟩ =
      (.ok (withRecords state (s.records kind t)),
        ⟨some Store.remote, (s.answer (.list t)).2⟩) :=
  plugin_read_eq_ok_iff.2 ⟨_, read_eq_ok_iff.2 ⟨t, _, ht, currentRecords_eq hs kind t, rfl⟩, rfl⟩

section Configuration

variable (around : Surroundings Store) (hc : c.Canonical) (ht : State.target c = .ok t)

include hc

/-- **A configuration with distinct names can be planned** against any state with distinct names. -/
theorem exists_planned (hkeyed : byName.Keyed (desired kind c)) (prior : Option Json)
    (hprior : byName.Keyed (records (prior.getD .null) blockName)) (z : Session Store) :
    ∃ p, (plugin around).plan kind.resourceType prior c c z = (.ok p, z) ∧
      p.state = normalize (schemaOf kind) c := by
  have hnew : byName.Keyed (records (planned (schemaOf kind) c) blockName) := by
    rw [planned_eq, records_planned hc]
    exact hkeyed
  obtain ⟨l, hl⟩ : ∃ l, changes (schemaOf kind) _ (planned (schemaOf kind) c) = .ok l :=
    exists_changes hprior hnew
  obtain ⟨p, hp, hstate, -⟩ := exists_plan hl
  exact ⟨p, plugin_plan_eq_ok_iff.2 ⟨hp, rfl⟩, hstate.trans planned_eq⟩

include ht

/-- **A creation that is planned** is a reconciliation from no records. -/
theorem plugin_create_planned
    (hrun : endpoints Store.remote kind t [] (desired kind c) s = (.ok (), s')) :
    (plugin around).create kind.resourceType (normalize (schemaOf kind) c)
      ⟨some Store.remote, s⟩ =
        (.ok (normalize (schemaOf kind) (normalize (schemaOf kind) c)),
          ⟨some Store.remote, s'⟩) := by
  rw [← records_carriedOut hc] at hrun
  have htarget := target_carriedOut kind hc ht
  exact plugin_create_eq_iff.2 ⟨s', create_eq_ok_iff.2 ⟨rfl, t, htarget, hrun⟩, rfl⟩

/-- **An update that is planned** is a reconciliation from the records of the prior state. -/
theorem plugin_update_planned {prior : Json}
    (hrun : endpoints Store.remote kind t (records prior blockName) (desired kind c) s =
      (.ok (), s')) :
    (plugin around).update kind.resourceType prior (normalize (schemaOf kind) c)
      ⟨some Store.remote, s⟩ =
        (.ok (normalize (schemaOf kind) (normalize (schemaOf kind) c)),
          ⟨some Store.remote, s'⟩) := by
  rw [← records_carriedOut hc] at hrun
  have htarget := target_carriedOut kind hc ht
  exact plugin_update_eq_ok_iff.2 ⟨s', update_eq_ok_iff.2 ⟨rfl, t, htarget, hrun⟩, rfl⟩

end Configuration

end Provider

end LoggingProvider
