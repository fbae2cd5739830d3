import LoggingProvider.Proofs.Endpoint.Request
import LoggingProvider.Proofs.Reconcile.Difference
import LoggingProvider.Proofs.Remote.Steps
import LoggingProvider.Reconcile.Endpoints

/-!
# The script of a reconciliation

A reconciliation that succeeds makes the requests of a script, which is fixed by the two sets of
records alone: the deletions in the order of the old set, then the creations and the updates in the
order of the new one. No two requests of a script name the same endpoint.

## Main definitions

* `Reconcile.script`: the requests of a reconciliation
* `Reconcile.steps`: the requests of a reconciliation, where some may not be built

## Main results

* `Reconcile.endpoints_of_diff`: a reconciliation takes its steps one after the other
* `Reconcile.endpoints_eq_ok_iff`: a reconciliation succeeds exactly when it has a script and the
  interface carries the script out
* `Reconcile.nodup_names_script`: no two requests of a script name the same endpoint
-/

namespace LoggingProvider

namespace Reconcile

variable {σ : Type} {remote : Remote σ} {kind : ServiceKind} {target : Target}
  {old new : List Json} {s s' : σ}

/-- **The requests of a reconciliation**: deletions, creations and updates. -/
def script (kind : ServiceKind) (target : Target) (old new : List Json) :
    Except Fault (List Call) := do
  let parts ← (byName.diff old new).mapError .diff
  let deletes ← parts.deleted.mapM (Endpoint.deleteCall target)
  let creates ← parts.added.mapM (Endpoint.createCall kind target)
  let updates ← parts.modified.mapM (updateFor kind target old)
  return deletes ++ creates ++ updates

/-- **The steps of a reconciliation** between sets that were compared: a request for each record of
their difference, or the fault for which it cannot be built. -/
def steps (kind : ServiceKind) (target : Target) (old : List Json) (p : Partition Json) :
    List (Except Fault Call) :=
  p.deleted.map (Endpoint.deleteCall target) ++ p.added.map (Endpoint.createCall kind target) ++
    p.modified.map (updateFor kind target old)

/-! ## The requests of a script -/

variable {cs : List Call} {p : Partition Json}

theorem updateFor_eq_ok_iff {r : Json} {c : Call} : updateFor kind target old r = .ok c ↔
    ∃ changed, patch r old = .ok changed ∧ Endpoint.updateCall kind target r changed = .ok c := by
  unfold updateFor
  simp only [Outcome.bind_eq_ok_iff, Outcome.mapError_eq_ok_iff]

theorem script_eq_ok_iff : script kind target old new = .ok cs ↔
    ∃ p ds es us, byName.diff old new = .ok p ∧
      p.deleted.mapM (Endpoint.deleteCall target) = .ok ds ∧
      p.added.mapM (Endpoint.createCall kind target) = .ok es ∧
      p.modified.mapM (updateFor kind target old) = .ok us ∧ cs = ds ++ es ++ us := by
  unfold script
  simp only [Outcome.bind_eq_ok_iff, Outcome.mapError_eq_ok_iff, Outcome.pure_eq_ok_iff]
  constructor
  · rintro ⟨p, hp, ds, hds, es, hes, us, hus, hcs⟩
    exact ⟨p, ds, es, us, hp, hds, hes, hus, hcs⟩
  · rintro ⟨p, ds, es, us, hp, hds, hes, hus, hcs⟩
    exact ⟨p, hp, ds, hds, es, hes, us, hus, hcs⟩

/-- A reconciliation has a script when all its steps are requests. -/
theorem script_eq_ok_iff_steps : script kind target old new = .ok cs ↔
    ∃ p, byName.diff old new = .ok p ∧ steps kind target old p = cs.map .ok := by
  simp only [script_eq_ok_iff, Outcome.mapM_eq_ok_iff_map]
  constructor
  · rintro ⟨p, ds, es, us, hp, hds, hes, hus, rfl⟩
    refine ⟨p, hp, ?_⟩
    rw [steps, hds, hes, hus, List.map_append, List.map_append]
  · rintro ⟨p, hp, hsteps⟩
    obtain ⟨front, us, rfl, hfront, hus⟩ := List.map_eq_append_iff.1 hsteps.symm
    obtain ⟨ds, es, rfl, hds, hes⟩ := List.map_eq_append_iff.1 hfront
    exact ⟨p, ds, es, us, hp, hds.symm, hes.symm, hus.symm, rfl⟩

/-! ## Carrying a script out -/

/-- Requests that are built when their turn comes are steps. -/
theorem performAll_eq {tolerated : Fault → Bool} {build : Json → Except Fault Call}
    (hb : ∀ r c, build r = .ok c → c.tolerates = tolerated) {rs : List Json} :
    performAll remote tolerated build rs = remote.attemptSteps (rs.map build) := by
  induction rs with
  | nil => rfl
  | cons r rest ih =>
    funext s
    rw [performAll, List.map_cons, Remote.attemptSteps, ih]
    cases hr : build r with
    | error fault => rfl
    | ok c => rw [Action.ofExcept_bind_of_ok rfl, Action.ofExcept_bind_of_ok rfl, hb r c hr]

/-- **A reconciliation between sets that can be compared** takes its steps one after the other. -/
theorem endpoints_of_diff (hp : byName.diff old new = .ok p) :
    endpoints remote kind target old new = remote.attemptSteps (steps kind target old p) := by
  -- The three loops pass over the faults that their requests tolerate.
  have hdelete : ∀ r c, Endpoint.deleteCall target r = .ok c → c.tolerates = Fault.isNotFound := by
    intro r c h
    obtain ⟨n, -, rfl⟩ := Endpoint.deleteCall_eq_ok_iff.1 h
    rfl
  have hcreate : ∀ r c, Endpoint.createCall kind target r = .ok c →
      c.tolerates = fun _ => false := by
    intro r c h
    obtain ⟨d, n, settings, -, -, -, rfl⟩ := Endpoint.createCall_eq_ok_iff.1 h
    rfl
  have hupdate : ∀ r c, updateFor kind target old r = .ok c → c.tolerates = fun _ => false := by
    intro r c h
    obtain ⟨changed, -, hc⟩ := updateFor_eq_ok_iff.1 h
    obtain ⟨n, settings, -, -, rfl⟩ := Endpoint.updateCall_eq_ok_iff.1 hc
    rfl
  funext s
  unfold endpoints
  rw [Action.ofExcept_bind_of_ok (Outcome.mapError_eq_ok_iff.2 hp), performAll_eq hdelete,
    performAll_eq hcreate, performAll_eq hupdate, ← Remote.attemptSteps_append,
    ← Remote.attemptSteps_append, ← List.append_assoc, steps]

/-- Sets that cannot be compared are not reconciled. -/
theorem endpoints_of_diff_error {cause : DiffFault} (h : byName.diff old new = .error cause) :
    endpoints remote kind target old new s = (.error (.diff cause), s) := by
  unfold endpoints
  rw [h]
  rfl

/-- **A reconciliation succeeds** exactly when it has a script and the interface carries the script
out. -/
theorem endpoints_eq_ok_iff : endpoints remote kind target old new s = (.ok (), s') ↔
    ∃ cs, script kind target old new = .ok cs ∧ remote.attemptAll cs s = (.ok (), s') := by
  simp only [script_eq_ok_iff_steps]
  cases hdiff : byName.diff old new with
  | error cause =>
    rw [endpoints_of_diff_error hdiff]
    constructor
    · intro h
      cases (Prod.mk.inj h).1
    · rintro ⟨cs, ⟨p, hp, -⟩, -⟩
      cases hp
  | ok p =>
    rw [endpoints_of_diff hdiff, Remote.attemptSteps_eq_ok_iff]
    constructor
    · rintro ⟨cs, hsteps, hall⟩
      exact ⟨cs, ⟨p, rfl, hsteps⟩, hall⟩
    · rintro ⟨cs, ⟨p', hp', hsteps⟩, hall⟩
      obtain rfl := Except.ok.inj hp'
      exact ⟨cs, hsteps, hall⟩

/-! ## What a script holds -/

/-- **The requests of a script** are those of the parts of the difference. -/
theorem mem_script_iff (h : script kind target old new = .ok cs)
    (hp : byName.diff old new = .ok p) {c : Call} : c ∈ cs ↔
      (∃ r ∈ p.deleted, Endpoint.deleteCall target r = .ok c) ∨
        (∃ r ∈ p.added, Endpoint.createCall kind target r = .ok c) ∨
          ∃ r ∈ p.modified, updateFor kind target old r = .ok c := by
  obtain ⟨p', ds, es, us, hp', hds, hes, hus, rfl⟩ := script_eq_ok_iff.1 h
  obtain rfl := Except.ok.inj (hp.symm.trans hp')
  rw [List.mem_append, List.mem_append, Outcome.mem_of_mapM hds, Outcome.mem_of_mapM hes,
    Outcome.mem_of_mapM hus, or_assoc]

/-- A request that names the endpoint of a record in a version. -/
def Names (target : Target) (r : Json) (c : Call) : Prop :=
  c.target = target ∧ ∃ n, nameOf r = .ok n ∧ c.name? = some n

theorem names_deleteCall {r : Json} {c : Call} (h : Endpoint.deleteCall target r = .ok c) :
    Names target r c := by
  obtain ⟨n, hn, rfl⟩ := Endpoint.deleteCall_eq_ok_iff.1 h
  exact ⟨rfl, n, hn, rfl⟩

theorem names_createCall {r : Json} {c : Call} (h : Endpoint.createCall kind target r = .ok c) :
    Names target r c := by
  obtain ⟨d, n, settings, -, hn, -, rfl⟩ := Endpoint.createCall_eq_ok_iff.1 h
  exact ⟨rfl, n, hn, rfl⟩

theorem names_updateFor {r : Json} {c : Call} (h : updateFor kind target old r = .ok c) :
    Names target r c := by
  obtain ⟨changed, -, hc⟩ := updateFor_eq_ok_iff.1 h
  obtain ⟨n, settings, hn, -, rfl⟩ := Endpoint.updateCall_eq_ok_iff.1 hc
  exact ⟨rfl, n, hn, rfl⟩

/-- Each request of a script names the endpoint of one record of the difference. -/
theorem forall₂_script (h : script kind target old new = .ok cs)
    (hp : byName.diff old new = .ok p) :
    List.Forall₂ (Names target) (p.deleted ++ p.added ++ p.modified) cs := by
  obtain ⟨p', ds, es, us, hp', hds, hes, hus, rfl⟩ := script_eq_ok_iff.1 h
  obtain rfl := Except.ok.inj (hp.symm.trans hp')
  refine List.rel_append (List.rel_append ?_ ?_) ?_
  · exact (Outcome.mapM_eq_ok_iff.1 hds).imp fun _ _ => names_deleteCall
  · exact (Outcome.mapM_eq_ok_iff.1 hes).imp fun _ _ => names_createCall
  · exact (Outcome.mapM_eq_ok_iff.1 hus).imp fun _ _ => names_updateFor

theorem target_of_mem_script (h : script kind target old new = .ok cs) {c : Call} (hc : c ∈ cs) :
    c.target = target := by
  obtain ⟨p, ds, es, us, hp, -⟩ := script_eq_ok_iff.1 h
  rcases (mem_script_iff h hp).1 hc with ⟨r, -, hr⟩ | ⟨r, -, hr⟩ | ⟨r, -, hr⟩
  · exact (names_deleteCall hr).1
  · exact (names_createCall hr).1
  · exact (names_updateFor hr).1

/-- The names of the records that change are distinct. -/
theorem nodup_map_nameOf_parts (hp : byName.diff old new = .ok p) :
    ((p.deleted ++ p.added ++ p.modified).map nameOf).Nodup := by
  have hsub : (p.deleted ++ (p.added ++ p.modified)).Sublist
      (p.deleted ++ (p.added ++ (p.modified ++ p.unchanged))) :=
    (List.Sublist.refl _).append ((List.Sublist.refl _).append (List.sublist_append_left _ _))
  rw [List.append_assoc]
  exact (Keying.nodup_keys hp).sublist (hsub.map _)

/-- A reconciliation between the same records makes no requests. -/
theorem endpoints_of_perm (hold : byName.Keyed old) (hp : old.Perm new) (s : σ) :
    endpoints remote kind target old new s = (.ok (), s) := by
  obtain ⟨p, hdiff, hdeleted, hadded, hmodified⟩ := exists_diff_of_perm hold hp
  have hscript : script kind target old new = .ok [] := by
    refine script_eq_ok_iff.2 ⟨p, [], [], [], hdiff, ?_, ?_, ?_, rfl⟩
    · rw [hdeleted]
      rfl
    · rw [hadded]
      rfl
    · rw [hmodified]
      rfl
  exact endpoints_eq_ok_iff.2 ⟨[], hscript, rfl⟩

/-- **No two requests of a script name the same endpoint.** -/
theorem nodup_names_script (h : script kind target old new = .ok cs) :
    (cs.map Call.name?).Nodup := by
  obtain ⟨p, ds, es, us, hp, -⟩ := script_eq_ok_iff.1 h
  have hnames : (p.deleted ++ p.added ++ p.modified).map nameOf =
      (cs.map Call.name?).map fun n => n.elim (.error (.noKey "")) .ok := by
    have hall := forall₂_script h hp
    generalize p.deleted ++ p.added ++ p.modified = rs at hall
    clear h hp
    induction hall with
    | nil => rfl
    | cons hrc _ ih =>
      obtain ⟨-, n, hn, hc⟩ := hrc
      rw [List.map_cons, List.map_cons, List.map_cons, ih, hn, hc]
      rfl
  exact List.Nodup.of_map _ (hnames ▸ nodup_map_nameOf_parts hp)

end Reconcile

end LoggingProvider
