import LoggingProvider.Proofs.Provider.Operations
import LoggingProvider.Proofs.Reconcile.Fate

/-!
# What a deletion removes

A deletion requests, one after the other, the deletion of each endpoint that the state names, and an
endpoint that is not there is passed over. So it succeeds from every store without a failure to
come: the version of the state keeps the endpoints that the state does not name, the other versions
keep all of theirs, and there is nothing left to remove for a second deletion.

## Main results

* `Reconcile.script_nil_right`: the requests of a reconciliation to no records
* `Reconcile.endpoints_nil_right`: the endpoints after a reconciliation to no records
* `Provider.delete_removes`: a deletion and a second one
-/

namespace LoggingProvider

open Endpoint

namespace Reconcile

variable {kind : ServiceKind} {t : Target} {old : List Json} {names : List String} {s : Store}

/-- **The requests of a reconciliation to no records** are the deletions of the old ones. -/
theorem script_nil_right (hnames : old.map nameOf = names.map .ok) (hnodup : names.Nodup) :
    script kind t old [] = .ok (names.map (Call.delete t)) := by
  have hkeyed : byName.Keyed old := Keying.keyed_of_map_key hnames hnodup
  have hdeletes : old.mapM (deleteCall t) = .ok (names.map (Call.delete t)) := by
    rw [Outcome.mapM_eq_ok_iff_map]
    calc old.map (deleteCall t)
        = (old.map nameOf).map fun n => (n.mapError Fault.diff).map (Call.delete t) := by
          rw [List.map_map]
          apply List.map_congr_left
          intro r _
          unfold deleteCall recordName Function.comp
          cases nameOf r <;> rfl
      _ = (names.map (Call.delete t)).map .ok := by
          rw [hnames, List.map_map, List.map_map]
          rfl
  apply script_eq_ok_iff.2
  refine ⟨_, names.map (Call.delete t), [], [], Keying.diff_nil_right hkeyed, hdeletes, rfl, rfl, ?_⟩
  rw [List.append_nil, List.append_nil]

/-- **The endpoints after a reconciliation to no records**: those with other names than the old
records. It never fails. -/
theorem endpoints_nil_right (hnames : old.map nameOf = names.map .ok) (hnodup : names.Nodup)
    (hs : s.failure = none) : ∃ s', endpoints Store.remote kind t old [] s = (.ok (), s') ∧
      s'.failure = none ∧ s'.endpoints =
        Store.replace s.endpoints t ((s.endpoints t).filter fun e => e.1 ∉ names) := by
  have hscript : script kind t old [] = .ok (names.map (Call.delete t)) :=
    script_nil_right hnames hnodup
  have haccepts : ∀ c ∈ names.map (Call.delete t), s.Accepts c := by
    intro c hc
    obtain ⟨n, -, rfl⟩ := List.mem_map.1 hc
    trivial
  exact ⟨_, (endpoints_eq_run hs hscript).2 ⟨haccepts, rfl⟩, Store.failure_run hs _,
    Store.endpoints_run_deletes hs t names⟩

end Reconcile

namespace Provider

open Reconcile State

variable {kind : ServiceKind} {t : Target} {current : Json} {names : List String} {s : Store}

/-- **A deletion removes exactly what the state names.** From every store without a failure to come
it succeeds; the version of the state keeps the endpoints with other names and every other version
keeps all of its endpoints. A second deletion succeeds and removes nothing. -/
theorem delete_removes (around : Surroundings Store) (ht : State.target current = .ok t)
    (hnames : (records current blockName).map nameOf = names.map .ok) (hnodup : names.Nodup)
    (hs : s.failure = none) :
    ∃ s' s'',
      (plugin around).delete kind.resourceType current ⟨some Store.remote, s⟩ =
          (.ok (), ⟨some Store.remote, s'⟩) ∧
        s'.endpoints t = (s.endpoints t).filter (fun e => e.1 ∉ names) ∧
        (∀ u ≠ t, s'.endpoints u = s.endpoints u) ∧
      (plugin around).delete kind.resourceType current ⟨some Store.remote, s'⟩ =
          (.ok (), ⟨some Store.remote, s''⟩) ∧
        s''.endpoints = s'.endpoints := by
  have hdelete : ∀ {s s' : Store}, endpoints Store.remote kind t (records current blockName) [] s =
      (.ok (), s') → (plugin around).delete kind.resourceType current ⟨some Store.remote, s⟩ =
        (.ok (), ⟨some Store.remote, s'⟩) := fun hrun =>
    plugin_delete_eq_ok_iff.2 ⟨_, delete_eq_ok_iff.2 ⟨t, ht, hrun⟩, rfl⟩
  obtain ⟨s', hfirst, hs', hendpoints⟩ := endpoints_nil_right hnames hnodup hs
  obtain ⟨s'', hsecond, -, hendpoints'⟩ := endpoints_nil_right hnames hnodup hs'
  refine ⟨s', s'', hdelete hfirst, ?_, fun u hu => ?_, hdelete hsecond, ?_⟩
  · rw [hendpoints, Store.replace_target]
  · rw [hendpoints, Store.replace_of_ne _ hu]
  · rw [hendpoints', hendpoints, Store.replace_target, List.filter_filter]
    funext u
    by_cases hu : u = t
    · rw [hu, Store.replace_target, Store.replace_target]
      simp only [Bool.and_self]
    · rw [Store.replace_of_ne _ hu]

/-- A version with two endpoints, the first of which the next version has too. -/
def overlapping : Store :=
  ((Store.empty.seed ⟨"svc", 1⟩ ⟨"a", Settings.empty⟩).seed ⟨"svc", 1⟩ ⟨"b", Settings.empty⟩).seed
    ⟨"svc", 2⟩ ⟨"a", Settings.empty⟩

/-- A state with an endpoint of this version and one that is gone. -/
def partlyGone : Json := .object
  [("logging_kafka", .array [.object [("name", .string "a")], .object [("name", .string "c")]]),
    ("service_id", .string "svc"), ("version", .ofNat 1)]

/-- The deletion of a state with an endpoint that is gone. -/
theorem delete_removes_of_gone : ∃ s' s'',
    (plugin (.silent Store)).delete ServiceKind.vcl.resourceType partlyGone
        ⟨some Store.remote, overlapping⟩ = (.ok (), ⟨some Store.remote, s'⟩) ∧
      s'.endpoints ⟨"svc", 1⟩ = [("b", ⟨"b", Settings.empty⟩)] ∧
      (∀ u ≠ ⟨"svc", 1⟩, s'.endpoints u = overlapping.endpoints u) ∧
    (plugin (.silent Store)).delete ServiceKind.vcl.resourceType partlyGone
        ⟨some Store.remote, s'⟩ = (.ok (), ⟨some Store.remote, s''⟩) ∧
      s''.endpoints = s'.endpoints := by
  have ht : State.target partlyGone = .ok ⟨"svc", 1⟩ := rfl
  have hnames : (records partlyGone blockName).map nameOf = ["a", "c"].map .ok := rfl
  have hs : overlapping.failure = none := rfl
  have hendpoints : overlapping.endpoints ⟨"svc", 1⟩ =
      [("a", ⟨"a", Settings.empty⟩), ("b", ⟨"b", Settings.empty⟩)] := by rfl
  obtain ⟨s', s'', hfirst, hleft, hframe, hsecond, hsame⟩ :=
    delete_removes (.silent Store) ht hnames (by decide) hs
  rw [hendpoints] at hleft
  exact ⟨s', s'', hfirst, hleft, hframe, hsecond, hsame⟩

end Provider

end LoggingProvider
