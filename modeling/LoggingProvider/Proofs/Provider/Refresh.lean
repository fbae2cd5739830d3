import LoggingProvider.Proofs.Endpoint.Storable
import LoggingProvider.Proofs.Provider.Carried
import LoggingProvider.Proofs.Reconcile.Creation

/-!
# Plans after a refresh

A resource is created from a configuration and read back, and the same configuration is planned
again. What is read back of a record is what the remote interface holds: a member that is not
registered is not sent, and a count that is written as a floating-point number comes back as an
integer, which is a different value. The plan has no changes exactly when the configuration sets no
such member.

## Main results

* `Provider.records_perm_of_storable`, `Provider.storable_of_unchanged`: when all records come back
* `Provider.refresh_plan_iff`: when the plan for an unchanged configuration has no changes
-/

namespace LoggingProvider

open Dict Reconcile

namespace Provider

open Endpoint State

variable {kind : ServiceKind} {t : Target} {c state : Json} {s s' : Store}

/-! ## What a creation leaves -/

section Created

variable (hc : c.Canonical) (hs : s.failure = none) (hempty : s.endpoints t = [])
  (h : endpoints Store.remote kind t [] (desired kind c) s = (.ok (), s'))

include hc hs hempty h

/-- What is created for a record of the configuration: the endpoint with the fields that are sent
for its normal form. -/
theorem exists_created {r : Json} (hr : r ∈ records c blockName) :
    ∃ d₀ d n settings, r = .object d₀ ∧ Dict.Ordered d₀ ∧
      (block kind).normalize (.object d₀) = .object d ∧ nameOf (.object d) = .ok n ∧
      settingsFor kind .create d = .ok settings ∧ s'.find? t n = some ⟨n, settings⟩ := by
  obtain ⟨-, hcreated, -⟩ := created_of_endpoints hs hempty h
  obtain ⟨d, n, settings, hd, hn, hsettings, hfind⟩ := hcreated _ (List.mem_map_of_mem hr)
  obtain ⟨d₀, rfl⟩ := Block.exists_object_of_normalize hd
  rw [hd] at hn
  exact ⟨d₀, d, n, settings, rfl, (canonical_of_mem_records hc hr).1, hd, hn, hsettings, hfind⟩

/-- The endpoints that are created have names that are not empty. -/
theorem recordSet_created (hcons : s'.Consistent) : RecordSet kind (s'.records kind t) := by
  refine Store.recordSet_records hcons fun e he => ?_
  obtain ⟨-, -, honly⟩ := created_of_endpoints hs hempty h
  obtain ⟨r, hr, hn⟩ := honly _ _ (hcons.mem_listed_iff.1 he)
  obtain ⟨r, hr', rfl⟩ := List.mem_map.1 hr
  obtain ⟨d₀, -, -, -, rfl, hd₀, -⟩ := exists_created hc hs hempty h hr'
  exact ((nameOf_normalize hd₀).1 hn).2

/-- **The records of the configuration come back** if each of them is storable. -/
theorem records_perm_of_storable (hcons : s'.Consistent)
    (hstorable : ∀ r ∈ records c blockName, Storable kind r) :
    (s'.records kind t).Perm (desired kind c) := by
  obtain ⟨hkeyed, -, honly⟩ := created_of_endpoints hs hempty h
  have hback : ∀ r ∈ desired kind c, IsRecord kind r ∧ ∃ n e, nameOf r = .ok n ∧
      s'.find? t n = some e ∧ Endpoint.record kind e = r := by
    intro q hq
    obtain ⟨r, hr, rfl⟩ := List.mem_map.1 hq
    obtain ⟨d₀, d, n, settings, rfl, hd₀, hd, hn, hsettings, hfind⟩ :=
      exists_created hc hs hempty h hr
    have hnormal : (block kind).normalize (.object d) = .object d := by
      rw [← hd]
      exact normalize_normalize hd₀
    have hset : Storable kind (.object d) := by
      rw [← hd]
      exact (storable_normalize hd₀).2 (hstorable _ hr)
    have hrecord := hset.isRecord (ordered_of_normalize hd₀ hd) hnormal hn hsettings
    rw [hd]
    exact ⟨hrecord, n, _, hn, hfind, hrecord.record_of_settingsFor hn hsettings⟩
  have hset : RecordSet kind (desired kind c) := ⟨fun r hr => (hback r hr).1, hkeyed⟩
  refine (Store.records_perm_iff hcons hset).2 ⟨fun n e he => ?_, fun r hr n hn => ?_⟩
  · obtain ⟨r, hr, hn⟩ := honly n e he
    obtain ⟨-, n', e', hn', he', hrecord⟩ := hback r hr
    obtain rfl := Except.ok.inj (hn.symm.trans hn')
    obtain rfl := Option.some.inj (he.symm.trans he')
    rwa [hrecord]
  · obtain ⟨-, n', e', hn', he', -⟩ := hback r hr
    obtain rfl := Except.ok.inj (hn.symm.trans hn')
    exact ⟨e', he'⟩

/-- **Each record of the configuration is storable** if there are no changes to what came back. -/
theorem storable_of_unchanged {after : Json} (hcons : s'.Consistent)
    (hbefore : records state blockName = s'.records kind t)
    (hafter : records after blockName = desired kind c)
    (hnone : blockChanges state after blockName = .ok []) {r : Json}
    (hr : r ∈ records c blockName) : Storable kind r := by
  obtain ⟨d₀, d, n, settings, rfl, hd₀, hd, hn, -, hfind⟩ := exists_created hc hs hempty h hr
  have hmem : Json.object d ∈ records after blockName := by
    rw [hafter, ← hd]
    exact List.mem_map_of_mem hr
  obtain ⟨-, hne⟩ : nameOf (.object d₀) = .ok n ∧ n ≠ "" := by
    rw [← hd] at hn
    exact (nameOf_normalize hd₀).1 hn
  have hrecord : IsRecord kind (Endpoint.record kind ⟨n, settings⟩) := isRecord_record _
  have hstored : Endpoint.record kind ⟨n, settings⟩ ∈ records state blockName := by
    rw [hbefore]
    exact (Store.mem_records_iff hcons).2 ⟨n, _, hfind, rfl⟩
  have hname : nameOf (Endpoint.record kind ⟨n, settings⟩) = .ok n := nameOf_record hne
  obtain ⟨o, ho⟩ := hrecord.exists_object
  rw [ho] at hrecord hstored hname
  rw [← storable_normalize hd₀, hd]
  intro m v hv _
  have hsame := same_of_blockChanges_eq_nil hnone hstored hmem (hname.trans hn.symm)
    hrecord.floatFree hrecord.typed_members.ordered (ordered_of_normalize hd₀ hd) hv
  obtain ⟨w, hw, hwv⟩ := (Option.any_eq_true _ _).1 hsame
  have hfree : w.FloatFree := Json.floatFreeMembers_iff.1 hrecord.floatFree _ (mem_of_value? hw)
  obtain rfl := (Json.beq_eq_true_iff hfree).1 hwv
  exact ⟨hrecord.typed_members.hasField hw, hfree⟩

end Created

/-! ## Planned again -/

/-- **A plan that is carried out** creates what the configuration asks for. -/
theorem exists_endpoints_of_create (hc : c.Canonical) {p : Plan} {created : Json}
    (hplan : State.plan (schemaOf kind) .null c = .ok p)
    (hcreate : Provider.create Store.remote kind p.state s = (.ok created, s')) :
    ∃ t, State.target c = .ok t ∧ State.target created = .ok t ∧
      endpoints Store.remote kind t [] (desired kind c) s = (.ok (), s') := by
  obtain ⟨rfl, t, htarget, hrun⟩ := create_eq_ok_iff.1 hcreate
  rw [(plan_spec hplan).1, planned_eq] at htarget hrun ⊢
  have ht : State.target c = .ok t := target_of_target_carriedOut hc htarget
  rw [records_carriedOut hc] at hrun
  exact ⟨t, ht, htarget, hrun⟩

/-- What was created can be read, and the same configuration can be planned against it; there are no
changes exactly when each record is storable. -/
theorem exists_plan_of_created {created : Json} (around : Surroundings Store) (hc : c.Canonical)
    (hs : s.failure = none) (hcons : s.Consistent) (hempty : s.endpoints t = [])
    (ht : State.target c = .ok t) (hcreated : State.target created = .ok t)
    (hrun : endpoints Store.remote kind t [] (desired kind c) s = (.ok (), s'))
    (z : Session Store) :
    ∃ q, (plugin around).planUpdate kind.resourceType
        (withRecords created (s'.records kind t)) c z = (.ok q, z) ∧
      (q.changes = [] ↔ ∀ r ∈ records c blockName, Storable kind r) := by
  have hcons := consistent_endpoints hs hcons hrun
  have hbefore : records (withRecords created (s'.records kind t)) blockName =
      s'.records kind t := records_withRecords
  have hafter : records (normalize (schemaOf kind) c) blockName = desired kind c :=
    records_planned hc
  have hold : byName.Keyed (records (withRecords created (s'.records kind t)) blockName) := by
    rw [hbefore]
    exact (recordSet_created hc hs hempty hrun hcons).keyed
  have hnew : byName.Keyed (records (normalize (schemaOf kind) c) blockName) := by
    rw [hafter]
    exact (created_of_endpoints hs hempty hrun).1
  obtain ⟨l, hl⟩ : ∃ l, changes (schemaOf kind) _ (normalize (schemaOf kind) c) = .ok l :=
    exists_changes hold hnew
  rw [← planned_eq] at hl
  obtain ⟨q, hq, -, rfl⟩ := exists_plan hl
  rw [planned_eq] at hl
  -- No changes means none of the records; and the attributes never change.
  refine ⟨q, plugin_plan_eq_ok_iff.2 ⟨hq, rfl⟩, fun hnone r hr => ?_, fun hstorable => ?_⟩
  · obtain ⟨blocks, hblocks, heq⟩ := changes_eq_ok_iff.1 hl
    rw [hnone] at heq
    obtain rfl := (List.append_eq_nil_iff.1 heq.symm).2
    exact storable_of_unchanged hc hs hempty hrun hcons hbefore hafter hblocks hr
  · have hid : (withRecords created (s'.records kind t)).member? "id" =
        (normalize (schemaOf kind) c).member? "id" := by
      rw [member?_planned_id hc ht, member?_withRecords_id, (target_eq_ok_iff.1 hcreated).1.1,
        Option.some_or]
    have hattr := member?_eq_of_target (target_withRecords.2 hcreated) (target_planned hc ht) hid
    have hp : (records (withRecords created (s'.records kind t)) blockName).Perm
        (records (normalize (schemaOf kind) c) blockName) := by
      rw [hbefore, hafter]
      exact records_perm_of_storable hc hs hempty hrun hcons hstorable
    exact Except.ok.inj (hl.symm.trans (changes_eq_nil hattr hold hp))

/-- **When the plan for an unchanged configuration has no changes.** After a plan, a creation and a
reading that succeed on a service version without endpoints, the same configuration can be planned
against what was read, and there are no changes exactly when each of its records is storable. -/
theorem refresh_plan_iff {p : Plan} {created : Json} {z₁ z₂ z₃ : Session Store}
    (around : Surroundings Store) (hc : c.Canonical) (hreach : s.Reachable)
    (hs : s.failure = none) (hempty : ∀ t, State.target c = .ok t → s.endpoints t = [])
    (hplan : (plugin around).planCreate kind.resourceType c ⟨some Store.remote, s⟩ = (.ok p, z₁))
    (hcreate : (plugin around).create kind.resourceType p.state z₁ = (.ok created, z₂))
    (hread : (plugin around).read kind.resourceType created z₂ = (.ok state, z₃)) :
    ∃ q, (plugin around).planUpdate kind.resourceType state c z₃ = (.ok q, z₃) ∧
      (q.changes = [] ↔ ∀ r ∈ records c blockName, Storable kind r) := by
  obtain ⟨hplanned, rfl⟩ := plugin_plan_eq_ok_iff.1 hplan
  obtain ⟨s₁, hmade, rfl⟩ := plugin_create_eq_iff.1 hcreate
  obtain ⟨s₂, hfound, rfl⟩ := plugin_read_eq_ok_iff.1 hread
  obtain ⟨t, ht, hcreated, hrun⟩ := exists_endpoints_of_create hc hplanned hmade
  obtain ⟨t', rs, ht', hrs, rfl⟩ := read_eq_ok_iff.1 hfound
  obtain rfl := Except.ok.inj (hcreated.symm.trans ht')
  rw [currentRecords_eq (failure_endpoints hs hrun)] at hrs
  obtain rfl := Except.ok.inj (congrArg Prod.fst hrs)
  exact exists_plan_of_created around hc hs hreach.consistent (hempty t ht) ht hcreated hrun _

/-! ## A count in two spellings -/

/-- A configuration is planned, created and read back where the requests succeed. -/
theorem exists_refreshed (around : Surroundings Store) (hc : c.Canonical) (hs : s.failure = none)
    (hempty : s.endpoints t = []) (ht : State.target c = .ok t)
    (hrun : endpoints Store.remote kind t [] (desired kind c) s = (.ok (), s')) :
    ∃ p created z, State.target created = .ok t ∧
      (plugin around).planCreate kind.resourceType c ⟨some Store.remote, s⟩ =
        (.ok p, ⟨some Store.remote, s⟩) ∧
      (plugin around).create kind.resourceType p.state ⟨some Store.remote, s⟩ =
        (.ok created, ⟨some Store.remote, s'⟩) ∧
      (plugin around).read kind.resourceType created ⟨some Store.remote, s'⟩ =
        (.ok (withRecords created (s'.records kind t)), z) := by
  have hkeyed := (created_of_endpoints hs hempty hrun).1
  obtain ⟨p, hplan, hstate⟩ : ∃ p, (plugin around).planCreate kind.resourceType c
      ⟨some Store.remote, s⟩ = (.ok p, ⟨some Store.remote, s⟩) ∧
        p.state = normalize (schemaOf kind) c :=
    exists_planned around hc hkeyed none Keying.keyed_nil _
  have htarget := target_carriedOut kind hc ht
  have hcreate := plugin_create_planned around hc ht hrun
  rw [← hstate] at htarget hcreate
  exact ⟨p, _, _, htarget, hplan, hcreate,
    plugin_read_eq around (failure_endpoints hs hrun) htarget⟩

/-- A configuration with the size of a batch. -/
def sized (size : Number) : Json := .object
  [("logging_kafka", .array [.object
      [("brokers", .string "b"), ("name", .string "k"), ("request_max_bytes", .number size),
        ("topic", .string "t")]]),
    ("service_id", .string "svc"), ("version", .ofNat 1)]

theorem canonical_sized (size : Number) : (sized size).Canonical := by
  refine ⟨ordered_of_names ["logging_kafka", "service_id", "version"] rfl (by decide), ?_⟩
  refine ⟨⟨⟨?_, trivial, trivial, trivial, trivial, trivial⟩, trivial⟩, trivial, trivial, trivial⟩
  exact ordered_of_names ["brokers", "name", "request_max_bytes", "topic"] rfl (by decide)

theorem target_sized (size : Number) : State.target (sized size) = .ok ⟨"svc", 1⟩ := rfl

/-- The members of the record that this configuration asks for. -/
def sizedMembers (size : Number) : Dict Json :=
  [("brokers", .string "b"), ("format_version", .ofNat 2), ("name", .string "k"),
    ("parse_log_keyvals", .bool false), ("request_max_bytes", .number size),
    ("topic", .string "t"), ("use_tls", .bool false)]

/-- The endpoint of the configuration can be created if the size is a count. -/
theorem exists_endpoints_sized {size : Number} {n : UInt64} (h : countOf size = some n)
    (hdesired : desired .vcl (sized size) = [.object (sizedMembers size)]) :
    ∃ s', endpoints Store.remote .vcl ⟨"svc", 1⟩ [] (desired .vcl (sized size)) Store.empty =
      (.ok (), s') := by
  rw [hdesired]
  refine exists_endpoints_of_empty rfl rfl ⟨?_, by simp⟩ ?_
  · intro r hr
    obtain rfl := List.mem_singleton.1 hr
    exact ⟨"k", rfl⟩
  · intro r hr
    obtain rfl := List.mem_singleton.1 hr
    obtain ⟨settings, hsettings⟩ :
        ∃ settings, settingsFor .vcl .create (sizedMembers size) = .ok settings := by
      refine exists_settingsFor fun f _ => ?_
      cases f with
      | requestMaxBytes =>
        refine ⟨some n, (Kind.read_number _ size).trans ?_⟩
        rw [h]
      | _ => exact ⟨_, rfl⟩
    exact ⟨_, createCall_eq_ok_iff.2 ⟨_, "k", settings, rfl, rfl, hsettings, rfl⟩⟩

/-- An integer as the size of a batch. -/
theorem storable_sized (n : UInt64) :
    ∀ r ∈ records (sized (.natural n)) blockName, Storable .vcl r := by
  intro r hr m v hv _
  obtain rfl := List.mem_singleton.1 hr
  have hmem := mem_of_value? hv
  simp only [List.mem_cons, Prod.mk.injEq, List.not_mem_nil, or_false] at hmem
  rcases hmem with ⟨rfl, rfl⟩ | ⟨rfl, rfl⟩ | ⟨rfl, rfl⟩ | ⟨rfl, rfl⟩ <;>
    exact ⟨by decide, trivial⟩

/-- The plan for an unchanged configuration with an integer. -/
theorem refresh_plan_iff_of_integer : ∃ p created state z₂ z₃ q,
    (plugin (.silent Store)).planCreate ServiceKind.vcl.resourceType (sized (.natural 1))
      ⟨some Store.remote, Store.empty⟩ = (.ok p, ⟨some Store.remote, Store.empty⟩) ∧
    (plugin (.silent Store)).create ServiceKind.vcl.resourceType p.state
      ⟨some Store.remote, Store.empty⟩ = (.ok created, z₂) ∧
    (plugin (.silent Store)).read ServiceKind.vcl.resourceType created z₂ = (.ok state, z₃) ∧
    (plugin (.silent Store)).planUpdate ServiceKind.vcl.resourceType state (sized (.natural 1)) z₃ =
      (.ok q, z₃) ∧ q.changes = [] := by
  have hcount : countOf (.natural 1) = some 1 := rfl
  obtain ⟨s', hrun⟩ := exists_endpoints_sized hcount rfl
  obtain ⟨p, created, z, -, hplan, hcreate, hread⟩ := exists_refreshed (.silent Store)
    (canonical_sized _) rfl rfl (target_sized _) hrun
  obtain ⟨q, hq, hiff⟩ := refresh_plan_iff (.silent Store) (canonical_sized _) .empty rfl
    (fun _ _ => rfl) hplan hcreate hread
  exact ⟨p, created, _, _, z, q, hplan, hcreate, hread, hq, hiff.2 (storable_sized 1)⟩

/-- The floating-point number one. -/
def one : Binary64 := ⟨false, ⟨1023, by decide⟩, ⟨0, by decide⟩⟩

theorem countOf_one : countOf (.real one) = some 1 := by decide +kernel

/-- **A count that is written as a floating-point number** is a change in every plan. -/
theorem float_count_replanned : ∃ p created state z₂ z₃ q,
    (plugin (.silent Store)).validateResourceConfig ServiceKind.vcl.resourceType
      (sized (.real one)) ⟨some Store.remote, Store.empty⟩ =
        (.ok [], ⟨some Store.remote, Store.empty⟩) ∧
    (plugin (.silent Store)).planCreate ServiceKind.vcl.resourceType (sized (.real one))
      ⟨some Store.remote, Store.empty⟩ = (.ok p, ⟨some Store.remote, Store.empty⟩) ∧
    (plugin (.silent Store)).create ServiceKind.vcl.resourceType p.state
      ⟨some Store.remote, Store.empty⟩ = (.ok created, z₂) ∧
    (plugin (.silent Store)).read ServiceKind.vcl.resourceType created z₂ = (.ok state, z₃) ∧
    (plugin (.silent Store)).planUpdate ServiceKind.vcl.resourceType state (sized (.real one)) z₃ =
      (.ok q, z₃) ∧ q.changes ≠ [] := by
  obtain ⟨s', hrun⟩ := exists_endpoints_sized countOf_one rfl
  obtain ⟨p, created, z, hcreated, hplan, hcreate, hread⟩ := exists_refreshed (.silent Store)
    (canonical_sized _) rfl rfl (target_sized _) hrun
  obtain ⟨q, hq, hiff⟩ := exists_plan_of_created (.silent Store) (canonical_sized _) rfl
    Store.Reachable.empty.consistent rfl (target_sized _) hcreated hrun z
  refine ⟨p, created, _, _, z, q, ?_, hplan, hcreate, hread, hq, fun hnone => ?_⟩
  · have hfindings : resourceFindings .vcl (sized (.real one)) = [] := by
      refine List.isEmpty_iff.1 ?_
      decide +kernel
    exact plugin_validate_eq_ok_iff.2 ⟨hfindings.symm, rfl⟩
  · have hmember := hiff.1 hnone _ List.mem_cons_self "request_max_bytes" (.number (.real one))
    exact (hmember rfl rfl).2

end Provider

end LoggingProvider
