import LoggingProvider.Proofs.Provider.Requests

/-!
# Imports

An import asks for one list, that of the service version that the identity names, and its outcome is
made of the answer. What is found is one resource: its state names the service version, and it shows
the endpoints that are listed. An identity that names no service version is refused before anything
is asked.

## Main definitions

* `Provider.Imports`: what the import of a service version does

## Main results

* `Provider.read_of_target`: reading is one request for a list
* `Provider.importResource_of_designates`, `Provider.importResource_of_none`: importing by an
  identity that names a service version, and by one that names none
* `Provider.import_exact`: the identities by which a service version is imported
-/

namespace LoggingProvider

open Reconcile

namespace Provider

variable {σ : Type} {remote : Remote σ} {kind : ServiceKind} {t : Target} {current : Json}
  {id : String} {s : σ}

/-! ## One request -/

/-- **Reading is one request for a list**, and the records that are read are those of the answer. -/
theorem read_of_target (ht : State.target current = .ok t) : read remote kind current s =
    ((remote.answer (.list t) s).1.map fun es => State.withRecords current (recordsOf kind es),
      (remote.answer (.list t) s).2) := by
  unfold read currentRecords
  rw [Action.ofExcept_bind_of_ok ht, Action.bind_pure_apply, Action.bind_pure_apply]
  change (((remote.answer (.list t) s).1.map _).map _, (remote.answer (.list t) s).2) = _
  cases (remote.answer (.list t) s).1 <;> rfl

/-- **Importing by an identity that names a service version** reads the state that names nothing
else. -/
theorem importResource_of_designates (around : Surroundings σ) (h : Designates id t) :
    (plugin around).importResource kind.resourceType id ⟨some remote, s⟩ =
      ((remote.answer (.list t) s).1.map fun es =>
          [⟨kind.resourceType, State.withRecords (importState t) (recordsOf kind es)⟩],
        ⟨some remote, (remote.answer (.list t) s).2⟩) := by
  have hid : parseImportId id = .ok t := parseImportId_eq_ok_iff.2 h
  change (Action.ofExcept (State.kindOf kind.resourceType) >>= _) _ = _
  rw [ofKind_bind, Action.ofExcept_bind_of_ok hid, connected_bind_pure, connected_of_some rfl]
  rw [Action.bind_pure_apply, read_of_target (target_importState hid)]
  cases (remote.answer (.list t) s).1 <;> rfl

/-- **Importing by an identity that names no service version** is refused, and nothing is asked. -/
theorem importResource_of_none (around : Surroundings σ) (h : ∀ t, ¬Designates id t)
    (z : Session σ) : (plugin around).importResource kind.resourceType id z =
      (.error (.validation
        ("import id must look like <service_id>/<version>, got " ++ Text.quoted id)), z) := by
  change (Action.ofExcept (State.kindOf kind.resourceType) >>= _) _ = _
  rw [ofKind_bind]
  exact Action.bind_of_error (congrArg (·, z) (parseImportId_of_none h))

/-! ## What is imported -/

/-- **What the import of a service version does**, where the requests over the connection are
kept. -/
structure Imports (remote : Remote σ) (kind : ServiceKind) (t : Target) (s : σ)
    (run : Except Fault (List Imported) × Session (σ × List Call)) : Prop where
  /-- There is one request, for the list of the service version. -/
  asks : run.2 = ⟨some remote.traced, (remote.answer (.list t) s).2, [.list t]⟩
  /-- The import fails with the fault of the request. -/
  fails : ∀ fault, (remote.answer (.list t) s).1 = .error fault → run.1 = .error fault
  /-- What is found is one resource, whose state names the service version and has the records of
  the endpoints that are listed. -/
  finds : ∀ es, (remote.answer (.list t) s).1 = .ok es → ∃ state,
    run.1 = .ok [⟨kind.resourceType, state⟩] ∧
    state.member? "service_id" = some (.string t.service) ∧
    state.member? "id" = some (.string t.service) ∧
    state.member? "version" = some (.ofNat t.version.toNat) ∧
    State.records state Endpoint.blockName = recordsOf kind es

theorem imports_of_designates (around : Surroundings (σ × List Call)) (h : Designates id t) :
    Imports remote kind t s ((plugin around).importResource kind.resourceType id
      ⟨some remote.traced, (s, [])⟩) := by
  have ht := target_importState (parseImportId_eq_ok_iff.2 h)
  have htraced : remote.traced.answer (.list t) (s, []) =
      ((remote.answer (.list t) s).1, (remote.answer (.list t) s).2, [.list t]) := rfl
  rw [importResource_of_designates around h, htraced]
  refine ⟨rfl, fun fault hfault => ?_, fun es hes => ?_⟩
  · rw [hfault]
    rfl
  · obtain ⟨⟨hservice, -⟩, hversion, -⟩ := State.target_eq_ok_iff.1 (State.target_withRecords.2 ht)
    rw [hes]
    exact ⟨_, rfl, hservice, State.member?_withRecords_id_of_target ht _, hversion,
      State.records_withRecords⟩

/-- **The identities by which a service version is imported**: those that name it. A list is asked
for exactly the service version that the identity names, and nothing is asked where it names none.
So what is imported by a service and the digits of a version, joined by a slash, is this version. -/
theorem import_exact (around : Surroundings (σ × List Call)) (remote : Remote σ)
    (kind : ServiceKind) (s : σ) (id : String) :
    let run := (plugin around).importResource kind.resourceType id ⟨some remote.traced, (s, [])⟩
    (∀ t, run.2.outside.2 = [.list t] ↔ Designates id t) ∧
    (∀ t, Designates id t → Imports remote kind t s run) ∧
    ((∀ t, ¬Designates id t) → run = (.error (.validation
      ("import id must look like <service_id>/<version>, got " ++ Text.quoted id)),
        ⟨some remote.traced, (s, [])⟩)) ∧
    ∀ t : Target, t.service ≠ "" → '/' ∉ t.service.toList → 0 < t.version →
      id = t.service ++ "/" ++ toString t.version.toNat → Imports remote kind t s run := by
  intro run
  have himports : ∀ t, Designates id t → Imports remote kind t s run :=
    fun _ => imports_of_designates around
  refine ⟨?asked, himports, fun h => importResource_of_none around h _, ?joined⟩
  case asked =>
    intro t
    constructor
    · intro hcalls
      by_contra hother
      by_cases hsome : ∃ t', Designates id t'
      · obtain ⟨t', ht'⟩ := hsome
        rw [(himports t' ht').asks] at hcalls
        obtain ⟨rfl⟩ : t' = t := by simpa using hcalls
        exact hother ht'
      · have hrun : run = (_, ⟨some remote.traced, (s, [])⟩) :=
          importResource_of_none around (not_exists.1 hsome) _
        rw [hrun] at hcalls
        cases hcalls
    · intro h
      rw [(himports t h).asks]
  case joined =>
    rintro t hservice hslash hversion rfl
    exact himports t (designates_join hservice hslash hversion)

/-- A number with a sign and with zeros before it, and a version with another slash after it. -/
theorem import_exact_of_padded :
    let run := fun id => (plugin (.silent (Unit × List Call))).importResource
      ServiceKind.compute.resourceType id ⟨some (listing untidy).traced, ((), [])⟩
    (run "svc/+007").2.outside.2 = [.list ⟨"svc", 7⟩] ∧
    (∃ state, (run "svc/+007").1 = .ok [⟨ServiceKind.compute.resourceType, state⟩] ∧
      state.member? "service_id" = some (.string "svc") ∧
      state.member? "id" = some (.string "svc") ∧ state.member? "version" = some (.ofNat 7) ∧
      State.records state Endpoint.blockName = recordsOf .compute untidy) ∧
    (run "svc/7/8").2.outside.2 = [] ∧
    (run "svc/7/8").1 = .error (.validation
      "import id must look like <service_id>/<version>, got \"svc/7/8\"") ∧
    Imports (listing untidy) .compute ⟨"svc", 4294967295⟩ () (run "svc/4294967295") := by
  have hpadded : Designates "svc/+007" ⟨"svc", 7⟩ := importTarget?_eq_some_iff.1 rfl
  have htwice : ∀ t, ¬Designates "svc/7/8" t := by
    intro t ht
    cases importTarget?_eq_some_iff.2 ht
  have hquoted : Text.quoted "svc/7/8" = "\"svc/7/8\"" := by decide
  intro run
  have hexact := import_exact (.silent (Unit × List Call)) (listing untidy) .compute ()
  obtain ⟨hasked, himports, -, -⟩ := hexact "svc/+007"
  obtain ⟨-, -, hrefused, -⟩ := hexact "svc/7/8"
  obtain ⟨-, -, -, hjoined⟩ := hexact "svc/4294967295"
  have hrun : run "svc/7/8" = _ := hrefused htwice
  rw [hquoted] at hrun
  refine ⟨(hasked _).2 hpadded, (himports _ hpadded).finds untidy rfl, ?_, ?_,
    hjoined ⟨"svc", 4294967295⟩ (by decide) (by decide) (by decide) (by decide)⟩
  · rw [hrun]
  · rw [hrun]
    rfl

end Provider

end LoggingProvider
