import LoggingProvider.Proofs.Provider.Carried

/-!
# Plans made again

A plan leads to a state. From that state, the proposal that led to it and the state itself are
planned without changes, because a plan is in normal form already and its records have distinct
names, or else there would have been no plan. Nothing is asked of the proposal: it may be null or
address no service version, and its records may have any members.

## Main results

* `State.plan_planned`: what is planned as the prior state has no changes
* `State.plan_of_normal`: a state with normal records has no changes to its plan
* `Provider.plan_stable`: a proposal and its plan are planned without changes
-/

namespace LoggingProvider

open Dict Endpoint Reconcile

namespace State

variable {kind : ServiceKind} {prior proposed again : Json} {p : Plan}

/-- The records of a plan have distinct names. -/
theorem keyed_of_plan (h : plan (schemaOf kind) prior proposed = .ok p) :
    byName.Keyed (records p.state blockName) := by
  obtain ⟨hstate, hchanges⟩ := plan_spec h
  obtain ⟨blocks, hblocks, -⟩ := changes_eq_ok_iff.1 hchanges
  rw [hstate]
  exact (keyed_of_blockChanges hblocks).2

/-- **What is planned as the prior state has no changes.** -/
theorem plan_planned (h : plan (schemaOf kind) prior proposed = .ok p)
    (hagain : planned (schemaOf kind) again = p.state) :
    plan (schemaOf kind) p.state again = .ok (.unchanged p.state) := by
  have hnone : changes (schemaOf kind) p.state p.state = .ok [] :=
    changes_eq_nil (fun _ _ => rfl) (keyed_of_plan h) (.refl _)
  rw [← hagain] at hnone ⊢
  exact plan_eq_unchanged hnone

/-- **A state with normal records has no changes to its plan** if its identity is that of its
service: other members may not be normal, but only the attributes and the records are compared. -/
theorem plan_of_normal {t : Target} {d : Dict Json} (hd : Ordered d)
    (ht : target (.object d) = .ok t)
    (hid : (Json.object d).member? "id" = some (.string t.service))
    (hkeyed : byName.Keyed (records (.object d) blockName))
    (hnormal : ∀ r ∈ records (.object d) blockName, (block kind).normalize r = r) :
    plan (schemaOf kind) (.object d) (.object d) =
      .ok (.unchanged (normalize (schemaOf kind) (.object d))) := by
  have hplanned : planned (schemaOf kind) (.object d) = normalize (schemaOf kind) (.object d) :=
    planned_eq
  have hrecords : records (normalize (schemaOf kind) (.object d)) blockName =
      records (.object d) blockName := by
    rw [records_normalize hd, List.map_congr_left hnormal, List.map_id']
  have hidentity : (normalize (schemaOf kind) (.object d)).member? "id" =
      (Json.object d).member? "id" := by
    rw [hid]
    exact member?_normalize_id_of_target hd ht
  have hnone : changes (schemaOf kind) (.object d) (normalize (schemaOf kind) (.object d)) =
      .ok [] := by
    apply changes_eq_nil _ hkeyed
    · rw [hrecords]
    · exact member?_eq_of_target ht ((target_normalize hd).2 ht) hidentity.symm
  rw [← hplanned] at hnone ⊢
  exact plan_eq_unchanged hnone

end State

namespace Provider

open State

variable {σ : Type} {kind : ServiceKind} {around : Surroundings σ} {prior : Option Json}
  {proposed config : Json} {p : Plan} {z z' : Session σ}

/-- **Planning is stable**: from the state that a plan leads to, its proposal and the state itself
are planned as that state, without changes and without a replacement. -/
theorem plan_stable (hproposed : proposed.Canonical)
    (h : (plugin around).plan kind.resourceType prior proposed config z = (.ok p, z'))
    (config' : Json) (later : Session σ) :
    (plugin around).plan kind.resourceType (some p.state) proposed config' later =
        (.ok (.unchanged p.state), later) ∧
      (plugin around).plan kind.resourceType (some p.state) p.state config' later =
        (.ok (.unchanged p.state), later) := by
  obtain ⟨hplan, -⟩ := plugin_plan_eq_ok_iff.1 h
  have hstate : p.state = normalize (schemaOf kind) proposed :=
    (plan_spec hplan).1.trans planned_eq
  have hproposal : plan (schemaOf kind) p.state proposed = .ok (.unchanged p.state) := by
    apply plan_planned hplan
    rw [planned_eq, hstate]
  have hself : plan (schemaOf kind) p.state p.state = .ok (.unchanged p.state) := by
    apply plan_planned hplan
    rw [planned_eq, hstate, normalize_planned hproposed]
  exact ⟨plugin_plan_eq_ok_iff.2 ⟨hproposal, rfl⟩, plugin_plan_eq_ok_iff.2 ⟨hself, rfl⟩⟩

/-- A proposal far from normal form: no version is addressed, a member is null, and the record has a
certificate between blanks and a member that is not registered. -/
def loose : Json := .object
  [("logging_kafka", .array [.object
      [("name", .string "k"), ("size", .ofNat 1), ("tls_ca_cert", .string " pem "),
        ("topic", .null)]]),
    ("notes", .null), ("service_id", .string "svc")]

theorem canonical_loose : loose.Canonical := by
  refine ⟨ordered_of_names ["logging_kafka", "notes", "service_id"] rfl (by decide), ?_⟩
  refine ⟨⟨⟨?_, trivial, trivial, trivial, trivial, trivial⟩, trivial⟩, trivial, trivial, trivial⟩
  exact ordered_of_names ["name", "size", "tls_ca_cert", "topic"] rfl (by decide)

/-- What is planned for this proposal. -/
def settledLoose : Json := .object
  [("id", .string "svc"),
    ("logging_kafka", .array [.object
      [("format_version", .ofNat 2), ("name", .string "k"), ("parse_log_keyvals", .bool false),
        ("request_max_bytes", .ofNat 0), ("size", .ofNat 1), ("tls_ca_cert", .string "pem"),
        ("use_tls", .bool false)]]),
    ("service_id", .string "svc")]

/-- The plan for a proposal that is not in normal form, made again. -/
theorem plan_stable_of_loose : ∃ p,
    (plugin (.silent Store)).plan ServiceKind.vcl.resourceType none loose loose
      ⟨none, Store.empty⟩ = (.ok p, ⟨none, Store.empty⟩) ∧ p.state = settledLoose ∧
    (plugin (.silent Store)).plan ServiceKind.vcl.resourceType (some settledLoose) loose loose
      ⟨none, Store.empty⟩ = (.ok (.unchanged settledLoose), ⟨none, Store.empty⟩) ∧
    (plugin (.silent Store)).plan ServiceKind.vcl.resourceType (some settledLoose) settledLoose
      loose ⟨none, Store.empty⟩ = (.ok (.unchanged settledLoose), ⟨none, Store.empty⟩) := by
  have hnormal : normalize (schemaOf .vcl) loose = settledLoose := rfl
  have hkeyed : byName.Keyed (desired .vcl loose) := by
    refine ⟨fun r hr => ?_, List.nodup_singleton _⟩
    obtain rfl := List.mem_singleton.1 hr
    exact ⟨"k", rfl⟩
  obtain ⟨p, hplan, hstate⟩ := exists_planned (.silent Store) canonical_loose hkeyed none
    Keying.keyed_nil ⟨none, Store.empty⟩
  rw [hnormal] at hstate
  have hstable := plan_stable canonical_loose hplan loose ⟨none, Store.empty⟩
  rw [hstate] at hstable
  exact ⟨p, hplan, hstate, hstable⟩

end Provider

end LoggingProvider
