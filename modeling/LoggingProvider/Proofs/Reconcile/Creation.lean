import LoggingProvider.Proofs.Reconcile.Fate

/-!
# Reconciliations from nothing

On a service version without endpoints, a reconciliation from no records creates an endpoint for
each record. No creation stands in the way of another, since the records have distinct names, so
such a reconciliation fails only for a record that no request can be built for.

## Main results

* `Reconcile.endpoints_nil`: the steps of such a reconciliation
* `Reconcile.created_of_endpoints`: the endpoints after one that succeeds
* `Reconcile.exists_endpoints_of_empty`, `Reconcile.exists_validation_of_empty`: when it succeeds and
  how it fails
-/

namespace LoggingProvider

namespace Reconcile

open Endpoint

variable {kind : ServiceKind} {t : Target} {new : List Json} {cs : List Call} {s s' : Store}

/-- A reconciliation from no records creates the new ones one after the other. -/
theorem endpoints_nil {σ : Type} {remote : Remote σ} (hkeyed : byName.Keyed new) :
    endpoints remote kind t [] new = remote.attemptSteps (new.map (createCall kind t)) := by
  rw [endpoints_of_diff (Keying.diff_nil hkeyed)]
  simp [steps]

/-- The script of a reconciliation from no records. -/
theorem script_nil_eq_ok_iff (hkeyed : byName.Keyed new) :
    script kind t [] new = .ok cs ↔ new.mapM (createCall kind t) = .ok cs := by
  rw [script_eq_ok_iff_steps, Outcome.mapM_eq_ok_iff_map, Keying.diff_nil hkeyed]
  simp [steps]

theorem find?_of_empty (hempty : s.endpoints t = []) (n : String) : s.find? t n = none := by
  rw [Store.find?, hempty]
  rfl

/-- **A version without endpoints** has, after a reconciliation from no records that succeeds, the
endpoints that the requests of the new records create. The records need not have typed members. -/
theorem created_of_endpoints (hs : s.failure = none) (hempty : s.endpoints t = [])
    (h : endpoints Store.remote kind t [] new s = (.ok (), s')) :
    byName.Keyed new ∧
      (∀ r ∈ new, ∃ d n settings, r = .object d ∧ nameOf r = .ok n ∧
        settingsFor kind .create d = .ok settings ∧ s'.find? t n = some ⟨n, settings⟩) ∧
      ∀ n e, s'.find? t n = some e → ∃ r ∈ new, nameOf r = .ok n := by
  obtain ⟨cs, hcs, -⟩ := endpoints_eq_ok_iff.1 h
  obtain ⟨-, rfl⟩ := (endpoints_eq_run hs hcs).1 h
  obtain ⟨p, -, -, -, hp, -⟩ := script_eq_ok_iff.1 hcs
  have hkeyed := (Keying.exists_diff_iff.1 ⟨p, hp⟩).2
  have hcreates := (script_nil_eq_ok_iff hkeyed).1 hcs
  refine ⟨hkeyed, fun r hr => ?_, fun n e he => ?_⟩
  · obtain ⟨c, hc⟩ := Outcome.exists_of_mapM hcreates hr
    have hmem : c ∈ cs := (Outcome.mem_of_mapM hcreates).2 ⟨r, hr, hc⟩
    obtain ⟨d, n, settings, hd, hn, hsettings, rfl⟩ := createCall_eq_ok_iff.1 hc
    have hrun : (s.run cs).find? t n = (Call.create t n settings).effect (s.find? t n) :=
      Store.find?_run_of_mem hs (nodup_names_script hcs) hmem rfl
    rw [find?_of_empty hempty] at hrun
    exact ⟨d, n, settings, hd, hn, hsettings, hrun⟩
  · by_contra hfree
    have hnone : ∀ r ∈ new, nameOf r ≠ .ok n := fun r hr hn => hfree ⟨r, hr, hn⟩
    rw [Store.find?_run_of_forall_ne hs (name?_ne_of_foreign hcs (by simp) hnone),
      find?_of_empty hempty] at he
    cases he

/-- On a version without endpoints a reconciliation from no records succeeds if the requests can be
built. -/
theorem exists_endpoints_of_empty (hs : s.failure = none) (hempty : s.endpoints t = [])
    (hkeyed : byName.Keyed new) (hcall : ∀ r ∈ new, ∃ c, createCall kind t r = .ok c) :
    ∃ s', endpoints Store.remote kind t [] new s = (.ok (), s') := by
  obtain ⟨cs, hcs⟩ := Outcome.exists_mapM hcall
  refine ⟨_, (endpoints_eq_run hs ((script_nil_eq_ok_iff hkeyed).2 hcs)).2 ⟨fun c hc => ?_, rfl⟩⟩
  obtain ⟨r, -, hr⟩ := (Outcome.mem_of_mapM hcs).1 hc
  obtain ⟨d, n, settings, -, -, -, rfl⟩ := createCall_eq_ok_iff.1 hr
  exact find?_of_empty hempty n

/-- Requests that create the endpoints of records are all passed. -/
theorem admits_of_empty (hs : s.failure = none) (hempty : s.endpoints t = [])
    (hkeyed : byName.Keyed new) (hcs : new.map (createCall kind t) = cs.map .ok) :
    Store.remote.Admits s cs := by
  have hcall : ∀ r ∈ new, ∃ c, createCall kind t r = .ok c := fun r hr =>
    Outcome.exists_of_mapM (Outcome.mapM_eq_ok_iff_map.2 hcs) hr
  obtain ⟨s', hrun⟩ := exists_endpoints_of_empty hs hempty hkeyed hcall
  rw [endpoints_nil hkeyed, hcs] at hrun
  obtain ⟨made, hends, -⟩ := Remote.attemptSteps_eq_iff.1 hrun
  exact (hends.eq_ok_iff.1 rfl).2

/-- **On a version without endpoints a reconciliation from no records fails** only for what a record
holds: it ends at the first record that no request can be built for. -/
theorem exists_validation_of_empty (hs : s.failure = none) (hempty : s.endpoints t = [])
    (hkeyed : byName.Keyed new) {r : Json} (hr : r ∈ new)
    (hcall : ∀ c, createCall kind t r ≠ .ok c) :
    ∃ m s', endpoints Store.remote kind t [] new s = (.error (.validation m), s') := by
  rcases hrun : endpoints Store.remote kind t [] new s with ⟨outcome, s'⟩
  rw [endpoints_nil hkeyed] at hrun
  obtain ⟨made, hends, -⟩ := Remote.attemptSteps_eq_iff.1 hrun
  generalize hsteps : new.map (createCall kind t) = steps at hends
  cases hends with
  | finished =>
    obtain ⟨c, hc⟩ := Outcome.exists_of_mapM (Outcome.mapM_eq_ok_iff_map.2 hsteps) hr
    exact absurd hc (hcall c)
  | @refused cs c rest fault _ hrefused =>
    rw [List.append_cons, ← List.map_singleton, ← List.map_append] at hsteps
    obtain ⟨front, back, rfl, hfront, -⟩ := List.map_eq_append_iff.1 hsteps
    have hadmits : Store.remote.Admits s (cs ++ [c]) :=
      admits_of_empty hs hempty (hkeyed.sublist (List.sublist_append_left _ _)) hfront
    exact absurd hadmits hrefused.not_admits
  | @unbuilt cs rest fault =>
    have hmem : .error fault ∈ new.map (createCall kind t) := by
      rw [hsteps]
      exact List.mem_append_right _ List.mem_cons_self
    obtain ⟨q, hq, hfault⟩ := List.mem_map.1 hmem
    obtain ⟨n, hn⟩ := hkeyed.key q hq
    obtain ⟨m, rfl⟩ := exists_validation_of_createCall hn hfault
    exact ⟨m, s', rfl⟩

end Reconcile

end LoggingProvider
