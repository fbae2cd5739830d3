import LoggingProvider.Proofs.Provider.Carried
import LoggingProvider.Proofs.Reconcile.Convergence

/-!
# Whole lifecycles

A resource is created from a configuration, updated to one configuration after the other, and
deleted. Every step succeeds; after each of them the state, the store and the configuration agree,
and the same configuration needs no changes. In the end the service version has no endpoints.

## Main definitions

* `State.Configures`: a configuration of the endpoints of a service version
* `Provider.Agrees`: the state and the store agree with a configuration
* `Plugin.lifecycleRun`: a creation and updates, one after the other

## Main results

* `Provider.agrees_lifecycleCreate`, `Provider.Agrees.lifecycleUpdate`: each step leads to agreement
* `Provider.agrees_updates`: updates one after the other
* `Provider.Agrees.planUpdate`, `Provider.Agrees.lifecycleDelete`: the same configuration planned
  again, and the end of the resource
* `Provider.lifecycle_faithful`: lifecycles of any length
-/

namespace LoggingProvider

open Dict Endpoint Reconcile

namespace State

variable {kind : ServiceKind} {t : Target} {c : Json}

/-- **A configuration of the endpoints of a service version**: objects with typed members and
distinct names that are not empty. Nothing is said about other members of the configuration. -/
structure Configures (kind : ServiceKind) (t : Target) (c : Json) : Prop where
  canonical : c.Canonical
  service : c.member? "service_id" = some (.string t.service) ∧ t.service ≠ ""
  version : c.member? "version" = some (.ofNat t.version.toNat) ∧ t.version ≠ 0
  typed : ∀ r ∈ records c blockName, ∃ d, r = .object d ∧ Typed kind d
  keyed : byName.Keyed (records c blockName)
  named : ∀ r ∈ records c blockName, nameOf r ≠ .ok ""

namespace Configures

theorem target (h : Configures kind t c) : State.target c = .ok t :=
  target_eq_ok_iff.2 ⟨h.service, h.version⟩

/-- The normal form of a configuration keeps the name of each record. -/
theorem nameOf_normalize (h : Configures kind t c) {r : Json} (hr : r ∈ records c blockName) :
    nameOf ((block kind).normalize r) = nameOf r := by
  obtain ⟨n, hn⟩ : ∃ n, nameOf r = .ok n := h.keyed.key r hr
  obtain ⟨d, rfl, hd⟩ := h.typed r hr
  rw [hn]
  refine (Endpoint.nameOf_normalize hd.ordered).2 ⟨hn, ?_⟩
  rintro rfl
  exact h.named _ hr hn

/-- A configuration asks for a set of records. -/
theorem recordSet_desired (h : Configures kind t c) : RecordSet kind (desired kind c) where
  record r hr := by
    obtain ⟨r, hmem, rfl⟩ := List.mem_map.1 hr
    obtain ⟨d, rfl, hd⟩ := h.typed r hmem
    exact hd.isRecord
  keyed := by
    constructor
    · intro r hr
      obtain ⟨r, hmem, rfl⟩ := List.mem_map.1 hr
      obtain ⟨n, hn⟩ := h.keyed.key r hmem
      exact ⟨n, (h.nameOf_normalize hmem).trans hn⟩
    · unfold desired
      rw [List.map_map]
      change ((records c blockName).map fun r => nameOf ((block kind).normalize r)).Nodup
      rw [List.map_congr_left fun r hr => h.nameOf_normalize hr]
      exact h.keyed.nodup

end Configures

end State

open State

/-- **A creation and updates**, one after the other. -/
def Plugin.lifecycleRun {σ : Type} (p : Plugin σ) (type : String) (initial : Json)
    (changed : List Json) : Action σ Json := do
  let created ← p.lifecycleCreate type initial
  changed.foldlM (p.lifecycleUpdate type) created

namespace Provider

variable {kind : ServiceKind} {t : Target} {c c' state : Json} {s s' : Store}
  (around : Surroundings Store)

/-- **The state and the store agree with a configuration**: the records of the state are those that
the store holds, and these are the ones that the configuration asks for. -/
structure Agrees (kind : ServiceKind) (t : Target) (c state : Json) (s : Store) : Prop where
  configures : Configures kind t c
  failure : s.failure = none
  consistent : s.Consistent
  target : State.target state = .ok t
  identity : state.member? "id" = some (.string t.service)
  stored : state.member? blockName = some (.array (s.records kind t))
  asked : (s.records kind t).Perm (desired kind c)

/-! ## Single steps -/

/-- Reading a service version with the records that a configuration asks for leads to agreement. -/
theorem agrees_read (hc : Configures kind t c) (hs : s.failure = none) (hcons : s.Consistent)
    (hp : (s.records kind t).Perm (desired kind c)) {current : Json}
    (ht : State.target current = .ok t) :
    Agrees kind t c (withRecords current (s.records kind t)) (s.answer (.list t)).2 := by
  have hrecords : (s.answer (.list t)).2.records kind t = s.records kind t :=
    Store.records_congr (by rw [Store.endpoints_answer hs]; rfl)
  obtain ⟨⟨hservice, -⟩, -⟩ := target_eq_ok_iff.1 ht
  exact {
    configures := hc
    failure := Store.failure_answer _ s
    consistent := hcons.answer _
    target := target_withRecords.2 ht
    identity := by rw [member?_withRecords_id, hservice, Option.some_or]
    stored := by rw [member?_withRecords_blockName, hrecords]
    asked := by rwa [hrecords] }

theorem Agrees.records_eq (h : Agrees kind t c state s) :
    records state blockName = s.records kind t := by
  rw [records, h.stored]
  rfl

theorem Agrees.recordSet (h : Agrees kind t c state s) : RecordSet kind (s.records kind t) :=
  h.configures.recordSet_desired.perm h.asked.symm

/-- **A plan for the same configuration** has no changes. -/
theorem Agrees.planUpdate (h : Agrees kind t c state s) (z : Session Store) :
    ∃ p, (plugin around).planUpdate kind.resourceType state c z = (.ok p, z) ∧
      p.changes = [] := by
  have hc := h.configures
  have hrecords : (records state blockName).Perm
      (records (normalize (schemaOf kind) c) blockName) := by
    rw [h.records_eq, records_planned hc.canonical]
    exact h.asked
  have hkeyed : byName.Keyed (records state blockName) := h.records_eq ▸ h.recordSet.keyed
  have hid : state.member? "id" = (normalize (schemaOf kind) c).member? "id" :=
    h.identity.trans (member?_planned_id hc.canonical hc.target).symm
  have hnone : changes (schemaOf kind) state (planned (schemaOf kind) c) = .ok [] := by
    rw [planned_eq]
    exact changes_eq_nil
      (member?_eq_of_target h.target (target_planned hc.canonical hc.target) hid) hkeyed hrecords
  obtain ⟨p, hp, -, hchanges⟩ := exists_plan hnone
  exact ⟨p, plugin_plan_eq_ok_iff.2 ⟨hp, rfl⟩, hchanges⟩

/-- Carrying out a plan brings a service version from the records that it has to those that the
configuration asks for, and reading then leads to agreement. -/
theorem exists_carriedOut (hc : Configures kind t c) {old : List Json}
    (hold : RecordSet kind old) (hs : s.failure = none) (hcons : s.Consistent)
    (hp : (s.records kind t).Perm old) : ∃ s',
      endpoints Store.remote kind t old (desired kind c) s = (.ok (), s') ∧ ∃ state s'',
        (plugin around).read kind.resourceType
          (normalize (schemaOf kind) (normalize (schemaOf kind) c)) ⟨some Store.remote, s'⟩ =
            (.ok state, ⟨some Store.remote, s''⟩) ∧ Agrees kind t c state s'' := by
  obtain ⟨s', hrun, hp'⟩ := exists_endpoints_of_perm hold hc.recordSet_desired hs hcons hp
  have hs' := failure_endpoints hs hrun
  have htarget := target_carriedOut kind hc.canonical hc.target
  exact ⟨s', hrun, _, _, plugin_read_eq around hs' htarget,
    agrees_read hc hs' (consistent_endpoints hs hcons hrun) hp' htarget⟩

/-- **A creation leads to agreement.** -/
theorem agrees_lifecycleCreate (hc : Configures kind t c) (hs : s.failure = none)
    (hcons : s.Consistent) (hempty : s.endpoints t = []) :
    ∃ state s', (plugin around).lifecycleCreate kind.resourceType c ⟨some Store.remote, s⟩ =
      (.ok state, ⟨some Store.remote, s'⟩) ∧ Agrees kind t c state s' := by
  have hnone : s.records kind t = [] := Store.records_eq_nil_iff.2 hempty
  obtain ⟨s₁, hrun, state, s₂, hread, hagrees⟩ :=
    exists_carriedOut around hc .nil hs hcons (hnone ▸ .refl [])
  refine ⟨state, s₂, ?_, hagrees⟩
  obtain ⟨p, hplan, hstate⟩ : ∃ p, (plugin around).planCreate kind.resourceType c
      ⟨some Store.remote, s⟩ = (.ok p, ⟨some Store.remote, s⟩) ∧
        p.state = normalize (schemaOf kind) c :=
    exists_planned around hc.canonical hc.recordSet_desired.keyed none
      Keying.keyed_nil _
  have hcreate := plugin_create_planned around hc.canonical hc.target hrun
  unfold Plugin.lifecycleCreate
  rw [Action.bind_of_ok hplan, hstate, Action.bind_of_ok hcreate]
  exact hread

/-- **An update leads from agreement to agreement.** -/
theorem Agrees.lifecycleUpdate (h : Agrees kind t c state s) (hc : Configures kind t c') :
    ∃ state' s', (plugin around).lifecycleUpdate kind.resourceType state c'
      ⟨some Store.remote, s⟩ = (.ok state', ⟨some Store.remote, s'⟩) ∧
        Agrees kind t c' state' s' := by
  obtain ⟨s₁, hrun, state', s₂, hread, hagrees⟩ :=
    exists_carriedOut around hc h.recordSet h.failure h.consistent (.refl _)
  refine ⟨state', s₂, ?_, hagrees⟩
  have hkeyed : byName.Keyed (records state blockName) := h.records_eq ▸ h.recordSet.keyed
  obtain ⟨p, hplan, hstate⟩ : ∃ p, (plugin around).planUpdate kind.resourceType state c'
      ⟨some Store.remote, s⟩ = (.ok p, ⟨some Store.remote, s⟩) ∧
        p.state = normalize (schemaOf kind) c' :=
    exists_planned around hc.canonical hc.recordSet_desired.keyed (some state) hkeyed _
  rw [← h.records_eq] at hrun
  have hupdate := plugin_update_planned around hc.canonical hc.target hrun
  unfold Plugin.lifecycleUpdate
  rw [Action.bind_of_ok hplan, hstate, Action.bind_of_ok hupdate]
  exact hread

/-- **A deletion leads from agreement to no endpoints.** -/
theorem Agrees.lifecycleDelete (h : Agrees kind t c state s) :
    ∃ s', (plugin around).lifecycleDelete kind.resourceType state ⟨some Store.remote, s⟩ =
      (.ok (), ⟨some Store.remote, s'⟩) ∧ s'.endpoints t = [] := by
  obtain ⟨s', hrun, hp⟩ := exists_endpoints_of_perm h.recordSet .nil h.failure h.consistent
    (.refl _)
  refine ⟨s', ?_, Store.records_eq_nil_iff.1 hp.eq_nil⟩
  have hkeyed : byName.Keyed (records state blockName) := h.records_eq ▸ h.recordSet.keyed
  obtain ⟨l, hl⟩ : ∃ l, changes (schemaOf kind) state (planned (schemaOf kind) .null) = .ok l :=
    exists_changes hkeyed Keying.keyed_nil
  obtain ⟨p, hp, -⟩ := exists_plan hl
  have hplan : (plugin around).planDelete kind.resourceType state ⟨some Store.remote, s⟩ =
      (.ok p, ⟨some Store.remote, s⟩) := plugin_plan_eq_ok_iff.2 ⟨hp, rfl⟩
  unfold Plugin.lifecycleDelete
  rw [Action.bind_of_ok hplan]
  rw [← h.records_eq] at hrun
  exact plugin_delete_eq_ok_iff.2 ⟨s', delete_eq_ok_iff.2 ⟨t, h.target, hrun⟩, rfl⟩

/-! ## Runs -/

/-- **After each of several updates** the state and the store agree with its configuration. -/
theorem agrees_updates {cs : List Json} (h : Agrees kind t c state s)
    (hcs : ∀ c' ∈ cs, Configures kind t c') (i : Nat) (hi : i < (c :: cs).length) :
    ∃ state' s', (cs.take i).foldlM ((plugin around).lifecycleUpdate kind.resourceType) state
      ⟨some Store.remote, s⟩ = (.ok state', ⟨some Store.remote, s'⟩) ∧
        Agrees kind t (c :: cs)[i] state' s' := by
  -- Induction on the updates; agreement with the last configuration is what each step needs.
  induction cs generalizing c state s i with
  | nil =>
    obtain rfl : i = 0 := by simpa using hi
    exact ⟨state, s, rfl, h⟩
  | cons c' rest ih =>
    obtain ⟨hc', hrest⟩ := List.forall_mem_cons.1 hcs
    cases i with
    | zero => exact ⟨state, s, rfl, h⟩
    | succ i =>
      obtain ⟨next, s₁, hstep, hnext⟩ := h.lifecycleUpdate around hc'
      obtain ⟨state', s', hrun, hagrees⟩ := ih hnext hrest i (Nat.lt_of_succ_lt_succ hi)
      refine ⟨state', s', ?_, hagrees⟩
      rw [List.take_succ_cons, List.foldlM_cons, Action.bind_of_ok hstep]
      exact hrun

/-- What the records of a state and of the store are when both agree with a configuration. -/
theorem Agrees.exists_records (h : Agrees kind t c state s) :
    ∃ rs, state.member? blockName = some (.array rs) ∧ rs.Perm (desired kind c) ∧
      rs.Pairwise NamedLess ∧ rs = (s.listed t).map (Endpoint.record kind) := by
  refine ⟨s.records kind t, h.stored, h.asked, Store.pairwise_records h.recordSet, ?_⟩
  refine Store.records_eq_map h.consistent fun e he => ?_
  have hmem : Endpoint.record kind e ∈ s.records kind t :=
    (Store.perm_records s kind t).mem_iff.2 (List.mem_map_of_mem he)
  obtain ⟨n, hn⟩ := h.recordSet.exists_name hmem
  obtain ⟨rfl, hne⟩ := nameOf_record_eq_ok_iff.1 hn
  exact hne

/-- **Whole lifecycles are faithful.** From a configuration for a service version without endpoints
and any number of changed configurations, every step succeeds. After each step the records of the
state are the ones that the configuration of this step asks for, sorted by name, and they are what
the store holds; planning the same configuration again finds no changes; and deleting the resource
leaves the service version without endpoints. -/
theorem lifecycle_faithful {cs : List Json} (hreach : s.Reachable)
    (hs : s.failure = none) (hempty : s.endpoints t = [])
    (hcs : ∀ c' ∈ c :: cs, Configures kind t c') (i : Nat) (hi : i < (c :: cs).length) :
    ∃ state s', (plugin around).lifecycleRun kind.resourceType c (cs.take i)
        ⟨some Store.remote, s⟩ = (.ok state, ⟨some Store.remote, s'⟩) ∧
      (∃ rs, state.member? blockName = some (.array rs) ∧
        rs.Perm ((records (c :: cs)[i] blockName).map (block kind).normalize) ∧
        rs.Pairwise NamedLess ∧ rs = (s'.listed t).map (Endpoint.record kind)) ∧
      (∃ p, (plugin around).planUpdate kind.resourceType state (c :: cs)[i]
        ⟨some Store.remote, s'⟩ = (.ok p, ⟨some Store.remote, s'⟩) ∧ p.changes = []) ∧
      ∃ s'', (plugin around).lifecycleDelete kind.resourceType state ⟨some Store.remote, s'⟩ =
        (.ok (), ⟨some Store.remote, s''⟩) ∧ s''.endpoints t = [] := by
  obtain ⟨hc, hrest⟩ := List.forall_mem_cons.1 hcs
  obtain ⟨created, s₁, hcreate, hcreated⟩ :=
    agrees_lifecycleCreate around hc hs hreach.consistent hempty
  obtain ⟨state, s', hrun, hagrees⟩ := agrees_updates around hcreated hrest i hi
  refine ⟨state, s', ?_, hagrees.exists_records, hagrees.planUpdate around _,
    hagrees.lifecycleDelete around⟩
  unfold Plugin.lifecycleRun
  rw [Action.bind_of_ok hcreate]
  exact hrun

/-- A configuration with one endpoint that has a topic. -/
def single (name topic : String) : Json := .object
  [("logging_kafka", .array [.object
      [("name", .string name), ("password", .null), ("topic", .string topic)]]),
    ("service_id", .string "svc"), ("version", .ofNat 1)]

theorem ordered_single (name topic : String) : Dict.Ordered
    [("name", Json.string name), ("password", .null), ("topic", .string topic)] :=
  ordered_of_names ["name", "password", "topic"] rfl (by decide)

theorem configures_single {name : String} (hname : name ≠ "") (topic : String) :
    Configures .compute ⟨"svc", 1⟩ (single name topic) where
  canonical := by
    refine ⟨ordered_of_names ["logging_kafka", "service_id", "version"] rfl (by decide), ?_⟩
    refine ⟨⟨⟨?_, trivial, trivial, trivial, trivial⟩, trivial⟩, trivial, trivial, trivial⟩
    exact ordered_single name topic
  service := ⟨rfl, by decide⟩
  version := ⟨rfl, by decide⟩
  typed := by
    intro r hr
    obtain rfl := List.mem_singleton.1 hr
    refine ⟨_, rfl, ordered_single name topic, ?_⟩
    simp only [List.forall_mem_cons, List.not_mem_nil, false_imp_iff, implies_true, and_true]
    refine ⟨⟨by decide, .inr (.inl ⟨rfl, name, rfl⟩)⟩, ⟨by decide, .inl trivial⟩, by decide,
      .inr (.inr ⟨.topic, topic, rfl, rfl⟩)⟩
  keyed := by
    constructor
    · intro r hr
      obtain rfl := List.mem_singleton.1 hr
      exact ⟨name, rfl⟩
    · simp [single, records, Json.member?, Json.items?, blockName, value?_cons]
  named := by
    intro r hr
    obtain rfl := List.mem_singleton.1 hr
    intro h
    exact hname (Except.ok.inj h)

/-- An endpoint whose topic is emptied and which then gets another name. -/
theorem lifecycle_faithful_of_three : ∃ state s' rs,
    (plugin (.silent Store)).lifecycleRun "fastly_service_compute"
      (single "a" "logs") [single "a" "", single "b" "logs"] ⟨some Store.remote, Store.empty⟩ =
        (.ok state, ⟨some Store.remote, s'⟩) ∧
      state.member? blockName = some (.array rs) ∧
      rs.Perm ((records (single "b" "logs") blockName).map (block .compute).normalize) ∧
      rs = (s'.listed ⟨"svc", 1⟩).map (Endpoint.record .compute) := by
  have hcs : ∀ c ∈ [single "a" "logs", single "a" "", single "b" "logs"],
      Configures .compute ⟨"svc", 1⟩ c := by
    simp only [List.forall_mem_cons, List.not_mem_nil, false_imp_iff, implies_true, and_true]
    exact ⟨configures_single (by decide) _, configures_single (by decide) _,
      configures_single (by decide) _⟩
  obtain ⟨state, s', hrun, ⟨rs, hstate, hp, -, hstored⟩, -⟩ :=
    lifecycle_faithful (.silent Store) .empty rfl rfl hcs 2 (by decide)
  exact ⟨state, s', rs, hrun, hstate, hp, hstored⟩

end Provider

end LoggingProvider
