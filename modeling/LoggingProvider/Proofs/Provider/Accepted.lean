import LoggingProvider.Proofs.Endpoint.Conforming
import LoggingProvider.Proofs.Provider.Refresh

/-!
# Configurations without findings

A configuration of a resource without findings conforms to the schema, and the names of its records
are distinct, so it can be planned. The plan can be carried out on a service version without
endpoints if the configuration is admitted: it gives a service that is not empty, a positive version
of 32 bits, and no negative size of a batch. These are looked at when the plan is carried out, and
where one of them is missing, the creation fails as one of an input that is not valid.

A record that is null, or whose name is empty, has no findings but also no name in normal form.

## Main definitions

* `Provider.Admitted`: what a creation asks of a configuration beyond its findings

## Main results

* `Provider.conforms_of_resourceFindings`: configurations without findings conform
* `Provider.duplicateFindings_eq_nil_iff`: when no names are found to occur twice
* `Provider.keyed_desired`: their records have distinct names in normal form
* `Provider.accepted_planned_created`: they can be planned, and when they can be created
-/

namespace LoggingProvider

namespace Provider

open Dict Endpoint Reconcile State

variable {kind : ServiceKind} {c r : Json} {s : Store}

/-- **What a creation asks of a configuration** beyond what is checked for findings. -/
structure Admitted (c : Json) : Prop where
  /-- The service is given by a text that is not empty. -/
  service : ∃ service, c.member? "service_id" = some (.string service) ∧ service ≠ ""
  /-- The version is a positive integer of 32 bits, and no floating-point number. -/
  version : ∃ n : UInt64, c.member? "version" = some (.number (.natural n)) ∧
    0 < n.toNat ∧ n.toNat < UInt32.size
  /-- No size of a batch is negative. -/
  sizes : ∀ r ∈ records c blockName, ∀ n, r.member? "request_max_bytes" = some (.number n) →
    n.isNegative = false

/-! ## What has no findings -/

theorem conforms_of_resourceFindings (h : resourceFindings kind c = []) :
    (schemaOf kind).block.Conforms c :=
  (schemaOf kind).block.conforms_of_diagnose c "" (List.append_eq_nil_iff.1 h).1

/-- The records of a configuration that conforms conform. -/
theorem conforms_of_mem_records (h : (schemaOf kind).block.Conforms c)
    (hr : r ∈ records c blockName) : (block kind).Conforms r := by
  cases h with
  | null => cases hr
  | @object _ d _ hblocks =>
    have hset : (Nested.set (block kind)).Conforms (value? d blockName) :=
      hblocks (blockName, Nested.set (block kind)) List.mem_cons_self
    change r ∈ ((value? d blockName).bind Json.items?).getD [] at hr
    generalize value? d blockName = v at hset hr
    cases hset with
    | absent _ hv => rcases hv with rfl | rfl <;> cases hr
    | single hmode => cases hmode
    | items _ _ hitems => exact hitems r hr

theorem exists_noKey_of_nameOf {fault : DiffFault} (h : nameOf r = .error fault) :
    ∃ reason, fault = .noKey reason := by
  unfold nameOf at h
  split at h
  · cases h
  · exact ⟨_, (Except.error.inj h).symm⟩
  · exact ⟨_, (Except.error.inj h).symm⟩

/-- **No names are found to occur twice** exactly when the names are distinct, or those before the
first record without a name are. -/
theorem duplicateFindings_eq_nil_iff : duplicateFindings c = [] ↔
    byName.Keyed (records c blockName) ∨ ∃ earlier r rest fault,
      records c blockName = earlier ++ r :: rest ∧ byName.Keyed earlier ∧
        nameOf r = .error fault := by
  unfold duplicateFindings
  cases hdiff : byName.diff [] (records c blockName) with
  | ok p => exact iff_of_true rfl (.inl (Keying.exists_diff_iff.1 ⟨p, hdiff⟩).2)
  | error fault =>
    rcases Keying.diff_eq_error_iff.1 hdiff with
      ⟨earlier, r, rest, hnil, -⟩ | ⟨-, earlier, r, rest, hrecords, hearlier, hrejected⟩
    · simp at hnil
    cases hrejected with
    | noKey hr =>
      obtain ⟨reason, rfl⟩ := exists_noKey_of_nameOf hr
      exact iff_of_true rfl (.inr ⟨earlier, r, rest, _, hrecords, hearlier, hr⟩)
    | repeated =>
      refine iff_of_false (List.cons_ne_nil _ _) ?_
      rintro (hkeyed | ⟨earlier', r', rest', fault, hrecords', hearlier', hr'⟩)
      · obtain ⟨p, hp⟩ := Keying.exists_diff_iff.2 ⟨Keying.keyed_nil, hkeyed⟩
        cases hp.symm.trans hdiff
      · -- Only one record of a set is the first to be rejected, and this one for its name.
        have hnoKey : byName.diff [] (records c blockName) = .error fault :=
          Keying.diff_eq_error_iff.2
            (.inr ⟨Keying.keyed_nil, earlier', r', rest', hrecords', hearlier', .noKey hr'⟩)
        obtain ⟨reason, rfl⟩ := exists_noKey_of_nameOf hr'
        cases hnoKey.symm.trans hdiff

/-- Without findings the names of records that have one are distinct. -/
theorem keyed_of_duplicateFindings (h : duplicateFindings c = [])
    (hname : ∀ r ∈ records c blockName, ∃ n, nameOf r = .ok n) :
    byName.Keyed (records c blockName) := by
  rcases duplicateFindings_eq_nil_iff.1 h with hkeyed | ⟨earlier, r, rest, fault, hrecords, -, hr⟩
  · exact hkeyed
  · obtain ⟨n, hn⟩ := hname r (by simp [hrecords])
    cases hr.symm.trans hn

section Accepted

variable (hc : c.Canonical) (hfindings : resourceFindings kind c = [])
  (hnamed : ∀ r ∈ records c blockName, r ≠ .null ∧ r.member? "name" ≠ some (.string ""))

include hc hfindings hnamed

/-- A record of the configuration is an object that conforms, with a name that is not empty. -/
theorem exists_conforming (hr : r ∈ records c blockName) : ∃ d n, r = .object d ∧
    Dict.Ordered d ∧ (block kind).Conforms (.object d) ∧ nameOf r = .ok n ∧ n ≠ "" := by
  have hconforms := conforms_of_mem_records (conforms_of_resourceFindings hfindings) hr
  obtain ⟨hnull, hname⟩ := hnamed r hr
  cases hconforms with
  | null => exact absurd rfl hnull
  | @object _ d hattributes hblocks =>
    have hconforms : (block kind).Conforms (.object d) := .object hattributes hblocks
    obtain ⟨n, hn⟩ := exists_nameOf_of_conforms hconforms
    refine ⟨d, n, rfl, (canonical_of_mem_records hc hr).1, hconforms, hn, ?_⟩
    rintro rfl
    exact hname (nameOf_eq_ok_iff.1 hn)

/-- **The records that the configuration asks for** have distinct names. -/
theorem keyed_desired : byName.Keyed (desired kind c) := by
  -- Since no name is empty, none is dropped from the normal form of its record.
  have hname : ∀ r ∈ records c blockName,
      ∃ n, nameOf r = .ok n ∧ nameOf ((block kind).normalize r) = .ok n := by
    intro r hr
    obtain ⟨d, n, rfl, hd, -, hn, hne⟩ := exists_conforming hc hfindings hnamed hr
    exact ⟨n, hn, (nameOf_normalize hd).2 ⟨hn, hne⟩⟩
  have hkeyed : byName.Keyed (records c blockName) :=
    keyed_of_duplicateFindings (List.append_eq_nil_iff.1 hfindings).2 fun r hr =>
      (hname r hr).imp fun _ h => h.1
  constructor
  · intro q hq
    obtain ⟨r, hr, rfl⟩ := List.mem_map.1 hq
    exact (hname r hr).imp fun _ h => h.2
  · have hnames : (desired kind c).map nameOf = (records c blockName).map nameOf := by
      unfold desired
      rw [List.map_map]
      refine List.map_congr_left fun r hr => ?_
      obtain ⟨n, hn, hnormal⟩ := hname r hr
      exact hnormal.trans hn.symm
    change ((desired kind c).map nameOf).Nodup
    rw [hnames]
    exact hkeyed.nodup

/-- The request for a record of the configuration can be built if its size is not negative. -/
theorem exists_createCall_desired_iff {t : Target} (hr : r ∈ records c blockName) :
    (∃ call, createCall kind t ((block kind).normalize r) = .ok call) ↔
      ∀ n, r.member? "request_max_bytes" = some (.number n) → n.isNegative = false := by
  obtain ⟨d, n, rfl, hd, hconforms, hn, hne⟩ := exists_conforming hc hfindings hnamed hr
  exact exists_createCall_iff hd hconforms hn hne

/-- **An admitted configuration is created** on a service version without endpoints. -/
theorem exists_created_of_admitted (around : Surroundings Store) (hadmitted : Admitted c)
    (hs : s.failure = none) (hempty : ∀ t, State.target c = .ok t → s.endpoints t = []) :
    ∃ created s', (plugin around).create kind.resourceType (normalize (schemaOf kind) c)
      ⟨some Store.remote, s⟩ = (.ok created, ⟨some Store.remote, s'⟩) := by
  obtain ⟨t, ht⟩ := exists_target_iff.2 ⟨hadmitted.service, hadmitted.version⟩
  obtain ⟨s', hrun⟩ : ∃ s', endpoints Store.remote kind t [] (desired kind c) s = (.ok (), s') := by
    refine exists_endpoints_of_empty hs (hempty t ht) (keyed_desired hc hfindings hnamed) ?_
    intro q hq
    obtain ⟨r, hr, rfl⟩ := List.mem_map.1 hq
    exact (exists_createCall_desired_iff hc hfindings hnamed hr).2 (hadmitted.sizes r hr)
  exact ⟨_, s', plugin_create_planned around hc ht hrun⟩

/-- **A configuration that is not admitted is not created**: it is not valid. -/
theorem exists_validation_of_not_admitted (around : Surroundings Store) (hadmitted : ¬Admitted c)
    (hs : s.failure = none) (hempty : ∀ t, State.target c = .ok t → s.endpoints t = []) :
    ∃ m z, (plugin around).create kind.resourceType (normalize (schemaOf kind) c)
      ⟨some Store.remote, s⟩ = (.error (.validation m), z) := by
  suffices hcreate : ∃ m s', create Store.remote kind (normalize (schemaOf kind) c) s =
      (.error (.validation m), s') by
    obtain ⟨m, s', hcreate⟩ := hcreate
    exact ⟨m, _, plugin_create_eq_iff.2 ⟨s', hcreate, rfl⟩⟩
  simp only [create_eq_error_iff]
  by_cases haddressed : ∃ t, State.target c = .ok t
  · obtain ⟨t, ht⟩ := haddressed
    obtain ⟨hservice, hversion⟩ := exists_target_iff.1 ⟨t, ht⟩
    obtain ⟨r, hr, hsize⟩ : ∃ r ∈ records c blockName,
        ¬∀ n, r.member? "request_max_bytes" = some (.number n) → n.isNegative = false := by
      by_contra hall
      exact hadmitted ⟨hservice, hversion, by simpa using hall⟩
    rw [← exists_createCall_desired_iff hc hfindings hnamed hr, not_exists] at hsize
    obtain ⟨m, s', hrun⟩ := exists_validation_of_empty (t := t) hs (hempty t ht)
      (keyed_desired hc hfindings hnamed) (List.mem_map_of_mem hr) hsize
    rw [← records_carriedOut hc] at hrun
    exact ⟨m, s', .inr ⟨t, target_carriedOut kind hc ht, hrun⟩⟩
  · cases htarget : State.target (normalize (schemaOf kind) (normalize (schemaOf kind) c)) with
    | ok t => exact absurd ⟨t, target_of_target_carriedOut hc htarget⟩ haddressed
    | error fault =>
      obtain ⟨m, rfl⟩ := exists_validation_of_target htarget
      exact ⟨m, s, .inl ⟨rfl, rfl⟩⟩

end Accepted

/-! ## Plans and creations -/

/-- **A configuration without findings is planned**, and created exactly if it is admitted. A record
that is null or has an empty name is left out here. -/
theorem accepted_planned_created {z z' : Session Store} (around : Surroundings Store)
    (hc : c.Canonical)
    (hvalid : (plugin around).validateResourceConfig kind.resourceType c z = (.ok [], z'))
    (hnamed : ∀ r ∈ records c blockName, r ≠ .null ∧ r.member? "name" ≠ some (.string "")) :
    ∃ p, (plugin around).planCreate kind.resourceType c z = (.ok p, z) ∧
      ∀ s : Store, s.failure = none → (∀ t, State.target c = .ok t → s.endpoints t = []) →
        (Admitted c → ∃ created s', (plugin around).create kind.resourceType p.state
          ⟨some Store.remote, s⟩ = (.ok created, ⟨some Store.remote, s'⟩)) ∧
        (¬Admitted c → ∃ m z, (plugin around).create kind.resourceType p.state
          ⟨some Store.remote, s⟩ = (.error (.validation m), z)) := by
  have hfindings : resourceFindings kind c = [] := (plugin_validate_eq_ok_iff.1 hvalid).1.symm
  obtain ⟨p, hplan, hstate⟩ : ∃ p, (plugin around).planCreate kind.resourceType c z = (.ok p, z) ∧
      p.state = normalize (schemaOf kind) c :=
    exists_planned around hc (keyed_desired hc hfindings hnamed) none Keying.keyed_nil z
  refine ⟨p, hplan, fun s hs hempty => ?_⟩
  rw [hstate]
  constructor
  · intro hadmitted
    exact exists_created_of_admitted hc hfindings hnamed around hadmitted hs hempty
  · intro hadmitted
    exact exists_validation_of_not_admitted hc hfindings hnamed around hadmitted hs hempty

/-- The session with an empty store. -/
def emptySession : Session Store := ⟨some Store.remote, Store.empty⟩

theorem named_sized (size : Number) :
    ∀ r ∈ records (sized size) blockName, r ≠ .null ∧ r.member? "name" ≠ some (.string "") := by
  intro r hr
  obtain rfl := List.mem_singleton.1 hr
  exact ⟨nofun, by simp [Json.member?, value?]⟩

theorem admitted_sized_iff {size : Number} : Admitted (sized size) ↔ size.isNegative = false := by
  constructor
  · exact fun h => h.sizes _ List.mem_cons_self size rfl
  · refine fun hsize => ⟨⟨"svc", rfl, by decide⟩, ⟨1, rfl, by decide⟩, fun r hr n hn => ?_⟩
    obtain rfl := List.mem_singleton.1 hr
    obtain rfl := Json.number.inj (Option.some.inj hn)
    exact hsize

/-- A size of one is planned and created; a size of minus one is planned and not created. -/
theorem accepted_planned_created_sized :
    (∃ p created s', (plugin (.silent Store)).planCreate ServiceKind.vcl.resourceType
        (sized (.natural 1)) emptySession = (.ok p, emptySession) ∧
      (plugin (.silent Store)).create ServiceKind.vcl.resourceType p.state emptySession =
        (.ok created, ⟨some Store.remote, s'⟩)) ∧
    ∃ p m z, (plugin (.silent Store)).planCreate ServiceKind.vcl.resourceType
        (sized (.negSucc 0)) emptySession = (.ok p, emptySession) ∧
      (plugin (.silent Store)).create ServiceKind.vcl.resourceType p.state emptySession =
        (.error (.validation m), z) := by
  have hvalid : ∀ size, (resourceFindings .vcl (sized size)).isEmpty →
      (plugin (.silent Store)).validateResourceConfig ServiceKind.vcl.resourceType (sized size)
        emptySession = (.ok [], emptySession) := by
    intro size hsize
    exact plugin_validate_eq_ok_iff.2 ⟨(List.isEmpty_iff.1 hsize).symm, rfl⟩
  constructor
  · obtain ⟨p, hplan, hcreate⟩ := accepted_planned_created (.silent Store) (canonical_sized _)
      (hvalid (.natural 1) (by decide +kernel)) (named_sized _)
    obtain ⟨created, s', h⟩ := (hcreate Store.empty rfl fun _ _ => rfl).1
      (admitted_sized_iff.2 rfl)
    exact ⟨p, created, s', hplan, h⟩
  · obtain ⟨p, hplan, hcreate⟩ := accepted_planned_created (.silent Store) (canonical_sized _)
      (hvalid (.negSucc 0) (by decide +kernel)) (named_sized _)
    obtain ⟨m, z, h⟩ := (hcreate Store.empty rfl fun _ _ => rfl).2
      fun hadmitted => by cases admitted_sized_iff.1 hadmitted
    exact ⟨p, m, z, hplan, h⟩

/-- A configuration of the version zero of a service. -/
def versionZero : Json := .object [("service_id", .string "svc"), ("version", .ofNat 0)]

/-- **No findings do not make a configuration valid**: the version zero is planned and refused. -/
theorem version_zero_accepted_not_created : ∃ p,
    (plugin (.silent Store)).validateResourceConfig ServiceKind.vcl.resourceType versionZero
      emptySession = (.ok [], emptySession) ∧
    (plugin (.silent Store)).planCreate ServiceKind.vcl.resourceType versionZero emptySession =
      (.ok p, emptySession) ∧
    (plugin (.silent Store)).create ServiceKind.vcl.resourceType p.state emptySession =
      (.error (.validation "version must be a positive integer, got 0"), emptySession) := by
  have hfindings : resourceFindings .vcl versionZero = [] := by
    refine List.isEmpty_iff.1 ?_
    decide +kernel
  refine ⟨_, plugin_validate_eq_ok_iff.2 ⟨hfindings.symm, rfl⟩, rfl, rfl⟩

end Provider

end LoggingProvider
