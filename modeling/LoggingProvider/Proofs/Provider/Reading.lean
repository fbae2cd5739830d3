import LoggingProvider.Proofs.Provider.Identity
import LoggingProvider.Proofs.Provider.Stable

/-!
# States that are refreshed

Reading a resource replaces the records of its state by those of the endpoints that are listed for
the service version, in name order, and sets its identity. The fields of the endpoints may have any
values: what is recorded of them is a normal form of registered fields. So reading the state again
finds it as it is, and there are no changes in a plan from it to itself. An import is the refreshing
of a state that names nothing but the service version.

## Main definitions

* `State.Refreshed`: a state whose records and identity were replaced
* `Provider.Steady`: a state that neither reading nor planning changes
* `Provider.listing`: an interface that lists given endpoints

## Main results

* `State.withRecords_withRecords`: the records of a state are replaced once
* `Provider.refreshed_currentRecords`, `Provider.steady_currentRecords`: the state that is read
* `Provider.target_importState`: the service version of an import
* `Provider.refresh_stable`: reading and importing
-/

namespace LoggingProvider

open Dict Endpoint Reconcile

namespace State

variable {kind : ServiceKind} {t : Target} {es : List Endpoint} {current state : Json}
  {rs : List Json}

/-- **A state whose records and identity were replaced**: the records are those of the listed
endpoints. -/
structure Refreshed (kind : ServiceKind) (es : List Endpoint) (current state : Json) : Prop where
  /-- A state is an object. -/
  object : ∃ d, state = .object d ∧ Dict.Ordered d
  /-- The other members are those of the current state. -/
  frame : ∀ n, n ≠ "id" → n ≠ blockName → state.member? n = current.member? n
  /-- The identity is that of the service. -/
  identity : state.member? "id" = current.member? "service_id"
  /-- The records are a list. -/
  listed : state.member? blockName = some (.array (records state blockName))
  /-- The list is strictly in name order. -/
  sorted : (records state blockName).Pairwise NamedLess
  /-- Each endpoint has one record under its name. -/
  named : ((records state blockName).map nameOf).Perm (es.map fun e => .ok e.name)
  /-- The record of an endpoint has what is shown of its fields. -/
  shown : (records state blockName).Perm (es.map (record kind))
  /-- Each record is its own normal form. -/
  normal : ∀ r ∈ records state blockName, (block kind).normalize r = r
  /-- The members of a record are registered. -/
  registered : ∀ r ∈ records state blockName, ∃ d, r = .object d ∧
    ∀ e ∈ d, (block kind).hasField e.1

/-- A state whose records are replaced is an object. -/
theorem exists_ordered_withRecords (hcurrent : Dict.Ordered (members current)) (rs : List Json) :
    ∃ d, withRecords current rs = .object d ∧ Dict.Ordered d := by
  have hput := ordered_put hcurrent blockName (.array rs)
  unfold withRecords
  simp only [withId]
  split
  · exact ⟨_, rfl, ordered_put hput _ _⟩
  · exact ⟨_, rfl, hput⟩

/-- **The records of a state are replaced once.** -/
theorem withRecords_withRecords (hcurrent : Dict.Ordered (members current)) (rs rs' : List Json) :
    withRecords (withRecords current rs) rs' = withRecords current rs' := by
  obtain ⟨d, hd, hordered⟩ := exists_ordered_withRecords hcurrent rs
  have hmembers : Dict.Ordered (members (withRecords current rs)) := by
    rw [hd]
    exact hordered
  obtain ⟨d₁, hd₁, hordered₁⟩ := exists_ordered_withRecords hmembers rs'
  obtain ⟨d₂, hd₂, hordered₂⟩ := exists_ordered_withRecords hcurrent rs'
  have hservice : (withRecords current rs).member? "service_id" = current.member? "service_id" :=
    member?_withRecords (by decide)
  rw [hd₁, hd₂]
  refine congrArg Json.object (hordered₁.ext hordered₂ fun n => ?_)
  change (Json.object d₁).member? n = (Json.object d₂).member? n
  rw [← hd₁, ← hd₂]
  by_cases hn : n = "id"
  · rw [hn, member?_withRecords_id, member?_withRecords_id, member?_withRecords_id, hservice]
    cases current.member? "service_id" <;> rfl
  · rw [member?_withRecords hn, member?_withRecords hn, member?_withRecords hn]
    by_cases hblock : blockName = n
    · rw [if_pos hblock, if_pos hblock]
    · rw [if_neg hblock, if_neg hblock, if_neg hblock]

/-- The identity of a state whose records are replaced, if it addresses a service version. -/
theorem member?_withRecords_id_of_target (ht : target current = .ok t) (rs : List Json) :
    (withRecords current rs).member? "id" = some (.string t.service) := by
  obtain ⟨⟨hservice, -⟩, -⟩ := target_eq_ok_iff.1 ht
  rw [member?_withRecords_id, hservice, Option.some_or]

end State

namespace Provider

open State

variable {σ : Type} {around : Surroundings σ} {remote : Remote σ} {kind : ServiceKind} {t : Target}
  {es : List Endpoint} {current : Json} {s s' : σ}

/-- **A state that neither reading nor planning changes** while the service version has the same
endpoints, listed in any order. -/
structure Steady (around : Surroundings σ) (remote : Remote σ) (kind : ServiceKind) (t : Target)
    (es : List Endpoint) (state : Json) : Prop where
  /-- The state is found again. -/
  reread : ∀ {s s' : σ} {es' : List Endpoint}, es'.Perm es →
    remote.answer (.list t) s = (.ok es', s') →
      (plugin around).read kind.resourceType state ⟨some remote, s⟩ = (.ok state, ⟨some remote, s'⟩)
  /-- There is nothing to change and nothing to replace. -/
  replanned : ∀ (config : Json) (z : Session σ), ∃ p,
    (plugin around).plan kind.resourceType (some state) state config z = (.ok p, z) ∧
      p.changes = [] ∧ p.replaces = false

section Names

variable (hnodup : (es.map Endpoint.name).Nodup) (hnamed : ∀ e ∈ es, e.name ≠ "")

include hnodup hnamed

/-- **The state that is read** is refreshed. -/
theorem refreshed_withRecords (hcurrent : Dict.Ordered (members current))
    (ht : State.target current = .ok t) :
    Refreshed kind es current (withRecords current (recordsOf kind es)) := by
  have hset := recordSet_recordsOf hnodup hnamed kind
  obtain ⟨⟨hservice, -⟩, -⟩ := target_eq_ok_iff.1 ht
  refine ⟨exists_ordered_withRecords hcurrent _, ?frame, ?identity, ?listed, ?sorted, ?named,
    ?shown, ?normal, ?registered⟩
  case frame =>
    intro n hn hblock
    rw [member?_withRecords hn, if_neg hblock.symm]
  case identity => rw [member?_withRecords_id_of_target ht, hservice]
  case listed => rw [member?_withRecords_blockName, records_withRecords]
  all_goals rw [records_withRecords]
  case sorted => exact pairwise_recordsOf hnodup hnamed kind
  case named =>
    have hnames : (es.map (Endpoint.record kind)).map nameOf = es.map fun e => .ok e.name := by
      rw [List.map_map]
      exact List.map_congr_left fun e he => nameOf_record (hnamed e he)
    rw [← hnames]
    exact (perm_recordsOf kind es).map nameOf
  case shown => exact perm_recordsOf kind es
  case normal => exact fun r hr => (hset.record r hr).normal
  case registered =>
    intro r hr
    obtain ⟨d, hd, htyped⟩ := (hset.record r hr).typed
    exact ⟨d, hd, fun e he => (htyped.member e he).1⟩

/-- **The state that is read** is steady. -/
theorem steady_withRecords (around : Surroundings σ) (remote : Remote σ)
    (hcurrent : Dict.Ordered (members current)) (ht : State.target current = .ok t) :
    Steady around remote kind t es (withRecords current (recordsOf kind es)) := by
  have hset := recordSet_recordsOf hnodup hnamed kind
  have htarget : State.target (withRecords current (recordsOf kind es)) = .ok t :=
    target_withRecords.2 ht
  constructor
  · intro s s' es' hes hlist
    apply plugin_read_eq_ok_iff.2 ⟨s', ?_, rfl⟩
    apply read_eq_ok_iff.2 ⟨t, _, htarget, currentRecords_of_listed hlist, ?_⟩
    rw [recordsOf_perm hnodup hnamed kind hes, withRecords_withRecords hcurrent]
  · intro config z
    -- The identity was set and the records are normal, so nothing that is compared changes.
    have hid := member?_withRecords_id_of_target ht (recordsOf kind es)
    obtain ⟨d, hd, hordered⟩ := exists_ordered_withRecords hcurrent (recordsOf kind es)
    have hrecords : records (.object d) blockName = recordsOf kind es := by
      rw [← hd, records_withRecords]
    rw [hd] at htarget hid ⊢
    have hplan : State.plan (schemaOf kind) (.object d) (.object d) = _ :=
      plan_of_normal hordered htarget hid (hrecords ▸ hset.keyed)
        (hrecords ▸ fun r hr => (hset.record r hr).normal)
    exact ⟨_, plugin_plan_eq_ok_iff.2 ⟨hplan, rfl⟩, rfl, rfl⟩

end Names

/-- The service version that an identity names can be addressed. -/
theorem target_importState {id : String} (h : parseImportId id = .ok t) :
    State.target (importState t) = .ok t := by
  obtain ⟨hservice, -, hpositive, -⟩ := parseImportId_eq_ok_iff.1 h
  exact target_eq_ok_iff.2 ⟨⟨rfl, hservice⟩, rfl, UInt32.pos_iff_ne_zero.1 hpositive⟩

/-- **Refreshing is stable and touches only its own members.** Where the endpoints that are listed
have distinct names that are not empty, reading replaces the records and the identity of a state and
nothing else, and what is read is neither changed by reading again nor by a plan. The same holds for
what is imported. -/
theorem refresh_stable (around : Surroundings σ)
    (hlist : remote.answer (.list t) s = (.ok es, s')) (hnodup : (es.map Endpoint.name).Nodup)
    (hnamed : ∀ e ∈ es, e.name ≠ "") :
    (∀ current : Json, current.Canonical → State.target current = .ok t → ∃ state,
      (plugin around).read kind.resourceType current ⟨some remote, s⟩ =
          (.ok state, ⟨some remote, s'⟩) ∧
        Refreshed kind es current state ∧ Steady around remote kind t es state) ∧
    ∀ id, parseImportId id = .ok t → ∃ state,
      (plugin around).importResource kind.resourceType id ⟨some remote, s⟩ =
          (.ok [⟨kind.resourceType, state⟩], ⟨some remote, s'⟩) ∧
        Refreshed kind es (importState t) state ∧ Steady around remote kind t es state := by
  have hread : ∀ {current}, State.target current = .ok t →
      read remote kind current s = (.ok (withRecords current (recordsOf kind es)), s') :=
    fun ht => read_eq_ok_iff.2 ⟨t, _, ht, currentRecords_of_listed hlist, rfl⟩
  constructor
  · intro current hc ht
    have hordered : Dict.Ordered (members current) := by
      obtain ⟨d, rfl, hd⟩ := exists_ordered hc ht
      exact hd
    exact ⟨_, plugin_read_eq_ok_iff.2 ⟨s', hread ht, rfl⟩,
      refreshed_withRecords hnodup hnamed hordered ht,
      steady_withRecords hnodup hnamed around remote hordered ht⟩
  · intro id hid
    have ht := target_importState hid
    have hordered : Dict.Ordered (members (importState t)) :=
      ordered_of_names ["service_id", "version"] rfl (by decide)
    exact ⟨_, plugin_importResource_eq_ok_iff.2 ⟨t, _, s', hid, hread ht, rfl, rfl⟩,
      refreshed_withRecords hnodup hnamed hordered ht,
      steady_withRecords hnodup hnamed around remote hordered ht⟩

/-- **An interface that lists given endpoints** for every service version, and does nothing else. -/
def listing (es : List Endpoint) : Remote Unit :=
  ⟨fun c s =>
    match c with
    | .list _ => (.ok es, s)
    | .create _ name settings => (.ok ⟨name, settings⟩, s)
    | .update _ name settings => (.ok ⟨name, settings⟩, s)
    | .delete _ _ => (.ok (), s)⟩

/-- Two endpoints that are not listed in name order. The one has a certificate between blanks and a
field of the other service kind, the topic of the other is empty. -/
def untidy : List Endpoint :=
  [⟨"b", Settings.ofMembers [("format", .string "%h"), ("tls_ca_cert", .string " pem ")]⟩,
    ⟨"a", Settings.ofMembers [("topic", .string "")]⟩]

/-- A state with the identity of another service, without records and with a member of its own. -/
def outdated : Json := .object
  [("id", .string "other"), ("notes", .null), ("service_id", .string "svc"),
    ("version", .ofNat 1)]

/-- These endpoints, read and imported. -/
theorem refresh_stable_of_untidy :
    let p := plugin (.silent Unit)
    let z : Session Unit := ⟨some (listing untidy), ()⟩
    State.target outdated = .ok ⟨"svc", 1⟩ ∧ parseImportId "svc/1" = .ok ⟨"svc", 1⟩ ∧
    (∃ state, p.read ServiceKind.compute.resourceType outdated z = (.ok state, z) ∧
      Refreshed .compute untidy outdated state ∧
        Steady (.silent Unit) (listing untidy) .compute ⟨"svc", 1⟩ untidy state) ∧
    ∃ state, p.importResource ServiceKind.compute.resourceType "svc/1" z =
        (.ok [⟨ServiceKind.compute.resourceType, state⟩], z) ∧
      Refreshed .compute untidy (importState ⟨"svc", 1⟩) state ∧
        Steady (.silent Unit) (listing untidy) .compute ⟨"svc", 1⟩ untidy state := by
  intro p z
  have hlist : (listing untidy).answer (.list ⟨"svc", 1⟩) () = (.ok untidy, ()) := rfl
  have hnodup : (untidy.map Endpoint.name).Nodup := by decide
  have hnamed : ∀ e ∈ untidy, e.name ≠ "" := by decide
  have htarget : State.target outdated = .ok ⟨"svc", 1⟩ := rfl
  have hid : parseImportId "svc/1" = .ok ⟨"svc", 1⟩ := rfl
  have hcanonical : outdated.Canonical := by
    refine ⟨ordered_of_names ["id", "notes", "service_id", "version"] rfl (by decide), ?_⟩
    exact ⟨trivial, trivial, trivial, trivial, trivial⟩
  obtain ⟨hread, himport⟩ := refresh_stable (.silent Unit) hlist hnodup hnamed
  exact ⟨htarget, hid, hread outdated hcanonical htarget, himport "svc/1" hid⟩

end Provider

end LoggingProvider
