import LoggingProvider.Proofs.Provider.Carried
import LoggingProvider.Proofs.Reconcile.Convergence

/-!
# Updates to another service version

An update is computed from the records of the prior state and carried out on the service version of
the planned one. When both states address one service version, what is read afterwards are the
planned records. When they do not, it depends on what the planned version held before: a record that
did not change is not sent, so it has to be there already.

## Main results

* `Provider.exists_endpoints_of_update`: what an update that succeeds does
* `Provider.update_read_iff`: when an update leaves the planned records
* `Provider.unchanged_record_lost`: an update to a version without endpoints
-/

namespace LoggingProvider

namespace Provider

open Endpoint Reconcile State

variable {kind : ServiceKind} {s : Store} {prior planned seen state : Json} {z : Session Store}
  {t : Target}

/-- What reading a state finds. -/
theorem read_eq_records (hs : s.failure = none) (ht : State.target state = .ok t)
    (around : Surroundings Store) :
    ((plugin around).read kind.resourceType state ⟨some Store.remote, s⟩).1 =
      .ok (withRecords state (s.records kind t)) := by
  rw [plugin_read_eq around hs ht]

/-- Records in normal form are those of the normal form. -/
theorem records_normalize_of_recordSet (hcanonical : planned.Canonical)
    (hplanned : RecordSet kind (records planned blockName)) :
    records (normalize (schemaOf kind) planned) blockName = records planned blockName := by
  rw [records_planned hcanonical, desired]
  exact (List.map_congr_left fun r hr => (hplanned.record r hr).normal).trans (List.map_id _)

/-- An update that succeeds is a reconciliation of the service version of the planned state. -/
theorem exists_endpoints_of_update (ht : State.target planned = .ok t)
    (hcanonical : planned.Canonical) (hplanned : RecordSet kind (records planned blockName))
    {around : Surroundings Store}
    (hupdate : (plugin around).update kind.resourceType prior planned ⟨some Store.remote, s⟩ =
      (.ok state, z)) :
    State.target state = .ok t ∧ records state blockName = records planned blockName ∧
      ∃ s', z = ⟨some Store.remote, s'⟩ ∧
        endpoints Store.remote kind t (records prior blockName) (records planned blockName) s =
          (.ok (), s') := by
  obtain ⟨s', hupdate, hz⟩ := plugin_update_eq_ok_iff.1 hupdate
  obtain ⟨rfl, t', ht', hrun⟩ := update_eq_ok_iff.1 hupdate
  have htarget : State.target (normalize (schemaOf kind) planned) = .ok t :=
    target_planned hcanonical ht
  obtain rfl := Except.ok.inj (ht'.symm.trans htarget)
  have hrecords := records_normalize_of_recordSet hcanonical hplanned
  exact ⟨htarget, hrecords, s', hz, hrecords ▸ hrun⟩

/-- **An update whose records stay** makes no requests, whatever service version it is for. -/
theorem update_of_perm (ht : State.target planned = .ok t) (hcanonical : planned.Canonical)
    (hplanned : RecordSet kind (records planned blockName))
    (hp : (records prior blockName).Perm (records planned blockName))
    (around : Surroundings Store) (s : Store) :
    (plugin around).update kind.resourceType prior planned ⟨some Store.remote, s⟩ =
      (.ok (normalize (schemaOf kind) planned), ⟨some Store.remote, s⟩) := by
  refine plugin_update_eq_ok_iff.2 ⟨s, update_eq_ok_iff.2 ⟨rfl, t, ?_, ?_⟩, rfl⟩
  · exact target_planned hcanonical ht
  · rw [records_normalize_of_recordSet hcanonical hplanned]
    exact endpoints_of_perm (hplanned.keyed.perm hp.symm) hp s

/-- **When an update leaves the planned records.** After an update that succeeds, what is read are
the records of the returned state exactly when the records read of the planned version beforehand
cover the change from the prior to the planned records. They do when both states address one service
version and the prior state is what is read of it. -/
theorem update_read_iff {u : Target} (around : Surroundings Store) (hreach : s.Reachable)
    (hs : s.failure = none) (hu : State.target prior = .ok u) (ht : State.target planned = .ok t)
    (hcanonical : planned.Canonical) (hprior : RecordSet kind (records prior blockName))
    (hplanned : RecordSet kind (records planned blockName))
    (hseen : ((plugin around).read kind.resourceType prior ⟨some Store.remote, s⟩).1 = .ok seen)
    (hsame : (records seen blockName).Perm (records prior blockName))
    (hupdate : (plugin around).update kind.resourceType prior planned ⟨some Store.remote, s⟩ =
      (.ok state, z)) :
    ∃ before found,
      ((plugin around).read kind.resourceType planned ⟨some Store.remote, s⟩).1 = .ok before ∧
      ((plugin around).read kind.resourceType state z).1 = .ok found ∧
      ((records found blockName).Perm (records state blockName) ↔
        Covers (records prior blockName) (records state blockName) (records before blockName)) ∧
      (t = u → (records found blockName).Perm (records state blockName)) := by
  have hcons := hreach.consistent
  obtain ⟨htarget, hrecords, s', rfl, hrun⟩ :=
    exists_endpoints_of_update ht hcanonical hplanned hupdate
  have hiff := records_perm_iff_covers hprior hplanned hs hcons hrun
  refine ⟨_, _, read_eq_records hs ht around,
    read_eq_records (failure_endpoints hs hrun) htarget around, ?_, ?_⟩
  · rw [records_withRecords, records_withRecords, hrecords]
    exact hiff
  · -- At one version the stored records are those of the prior state, which cover any change.
    rintro rfl
    rw [read_eq_records hs hu around] at hseen
    obtain rfl := Except.ok.inj hseen
    rw [records_withRecords] at hsame
    rw [records_withRecords, hrecords]
    exact hiff.2 (.of_perm hsame)

/-! ## One record in two versions -/

/-- A record in normal form. -/
def sampleRecord : Json := .object
  [("brokers", .string "b"), ("format_version", .ofNat 2), ("name", .string "k"),
    ("parse_log_keyvals", .bool false), ("request_max_bytes", .ofNat 0), ("topic", .string "t"),
    ("use_tls", .bool false)]

/-- The endpoint with this record. -/
def sampleEndpoint : Endpoint :=
  ⟨"k", Settings.ofMembers [("brokers", .string "b"), ("topic", .string "t")]⟩

/-- A state with this record, in a version of a service. -/
def sampleState (version : Nat) : Json := .object
  [("logging_kafka", .array [sampleRecord]), ("service_id", .string "svc"),
    ("version", .ofNat version)]

theorem record_sampleEndpoint : Endpoint.record .vcl sampleEndpoint = sampleRecord := rfl

theorem recordSet_sampleRecord : RecordSet .vcl [sampleRecord] where
  record r hr := by
    obtain rfl := List.mem_singleton.1 hr
    exact record_sampleEndpoint ▸ isRecord_record _
  keyed := by
    constructor
    · intro r hr
      obtain rfl := List.mem_singleton.1 hr
      exact ⟨"k", rfl⟩
    · simp

theorem canonical_sampleState (version : Nat) : (sampleState version).Canonical := by
  refine ⟨Dict.ordered_of_names ["logging_kafka", "service_id", "version"] rfl (by decide), ?_⟩
  refine ⟨⟨⟨?_, by simp [Json.CanonicalMembers, Json.Canonical, Json.ofNat]⟩, trivial⟩, trivial,
    trivial, trivial⟩
  exact Dict.ordered_of_names ["brokers", "format_version", "name", "parse_log_keyvals",
    "request_max_bytes", "topic", "use_tls"] rfl (by decide)

/-- The store with the endpoint in the first version of the service. -/
def oneVersion : Store := Store.empty.seed ⟨"svc", 1⟩ sampleEndpoint

/-- The store with the endpoint in two versions of the service. -/
def twoVersions : Store := oneVersion.seed ⟨"svc", 2⟩ sampleEndpoint

/-- A version with the endpoint alone reads as its record. -/
theorem read_sampleState (hs : s.failure = none) {version : Nat}
    (ht : State.target (sampleState version) = .ok t) (hlisted : s.listed t = [sampleEndpoint]) :
    ((plugin (.silent Store)).read ServiceKind.vcl.resourceType (sampleState version)
      ⟨some Store.remote, s⟩).1 = .ok (withRecords (sampleState version) [sampleRecord]) := by
  have hrecords : s.records .vcl t = [sampleRecord] := by
    rw [Store.records, hlisted, List.map_singleton, record_sampleEndpoint,
      List.mergeSort_singleton]
  rw [← hrecords]
  exact read_eq_records hs ht _

theorem target_sampleState_two : State.target (sampleState 2) = .ok ⟨"svc", 2⟩ := rfl

/-- The same record in the next version. -/
theorem update_sampleState (s : Store) :
    (plugin (.silent Store)).update ServiceKind.vcl.resourceType (sampleState 1) (sampleState 2)
      ⟨some Store.remote, s⟩ =
        (.ok (normalize (schemaOf .vcl) (sampleState 2)), ⟨some Store.remote, s⟩) :=
  update_of_perm target_sampleState_two (canonical_sampleState 2) recordSet_sampleRecord
    (.refl _) (.silent Store) s

/-- The records of the state that this update returns. -/
theorem records_normalize_sampleState :
    records (normalize (schemaOf .vcl) (sampleState 2)) blockName = [sampleRecord] :=
  records_normalize_of_recordSet (canonical_sampleState 2)
    recordSet_sampleRecord

/-- An update to a version that holds the record already. -/
theorem update_read_iff_of_two_versions : ∃ state z found,
    (plugin (.silent Store)).update ServiceKind.vcl.resourceType (sampleState 1) (sampleState 2)
      ⟨some Store.remote, twoVersions⟩ = (.ok state, z) ∧
      ((plugin (.silent Store)).read ServiceKind.vcl.resourceType state z).1 = .ok found ∧
      (records found blockName).Perm (records state blockName) := by
  obtain ⟨before, found, hbefore, hfound, hiff, -⟩ := update_read_iff (.silent Store)
    (.seed _ _ (.seed _ _ .empty)) rfl rfl target_sampleState_two (canonical_sampleState 2)
    recordSet_sampleRecord recordSet_sampleRecord (read_sampleState rfl rfl rfl) (.refl _)
    (update_sampleState twoVersions)
  refine ⟨_, _, found, update_sampleState twoVersions, hfound, hiff.2 ?_⟩
  rw [read_sampleState rfl target_sampleState_two rfl] at hbefore
  obtain rfl := Except.ok.inj hbefore
  rw [records_withRecords, records_normalize_sampleState]
  exact .of_perm (.refl _)

/-- **A record that did not change is lost** in an update to a version without endpoints. -/
theorem unchanged_record_lost : ∃ seen state z found,
    oneVersion.Reachable ∧ oneVersion.failure = none ∧
    State.target (sampleState 1) = .ok ⟨"svc", 1⟩ ∧
    State.target (sampleState 2) = .ok ⟨"svc", 2⟩ ∧
    RecordSet .vcl (records (sampleState 1) blockName) ∧
    RecordSet .vcl (records (sampleState 2) blockName) ∧
    ((plugin (.silent Store)).read ServiceKind.vcl.resourceType (sampleState 1)
      ⟨some Store.remote, oneVersion⟩).1 = .ok seen ∧
    (records seen blockName).Perm (records (sampleState 1) blockName) ∧
    (plugin (.silent Store)).update ServiceKind.vcl.resourceType (sampleState 1) (sampleState 2)
      ⟨some Store.remote, oneVersion⟩ = (.ok state, z) ∧
    ((plugin (.silent Store)).read ServiceKind.vcl.resourceType state z).1 = .ok found ∧
    ¬(records found blockName).Perm (records state blockName) := by
  have hnone : oneVersion.records .vcl ⟨"svc", 2⟩ = [] := Store.records_eq_nil_iff.2 rfl
  have htarget : State.target (normalize (schemaOf .vcl) (sampleState 2)) = .ok ⟨"svc", 2⟩ :=
    target_planned (canonical_sampleState 2) target_sampleState_two
  refine ⟨_, _, _, _, .seed _ _ .empty, rfl, rfl, rfl, recordSet_sampleRecord,
    recordSet_sampleRecord, read_sampleState rfl rfl rfl, .refl _, update_sampleState oneVersion,
    read_eq_records rfl htarget _, ?_⟩
  rw [records_withRecords, hnone, records_normalize_sampleState]
  intro h
  exact absurd h.length_eq (by decide)

end Provider

end LoggingProvider
