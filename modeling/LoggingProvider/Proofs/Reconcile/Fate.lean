import LoggingProvider.Proofs.Remote.Store

/-!
# What becomes of an endpoint

When the store carries out a reconciliation, what becomes of the endpoint with a given name depends
on the old and the new record of that name. Where the two records differ, the endpoint is brought to
the new one; where they are equal, it is left alone, whatever it was.

## Main definitions

* `Reconcile.RecordSet`: records with distinct names
* `Reconcile.Fate`: what a reconciliation makes of the endpoint with a name

## Main results

* `Reconcile.fate_of_endpoints`: a reconciliation that succeeds gives every endpoint its fate
* `Reconcile.exists_endpoints_iff`: when a reconciliation succeeds
-/

namespace LoggingProvider

namespace Reconcile

open Endpoint

/-- **A set of records** with distinct names. -/
structure RecordSet (kind : ServiceKind) (l : List Json) : Prop where
  record : ∀ r ∈ l, IsRecord kind r
  keyed : byName.Keyed l

/-- **What a reconciliation makes of the endpoint with a name**, which may be there before and
after. -/
inductive Fate (kind : ServiceKind) (old new : List Json) (n : String) :
    Option Endpoint → Option Endpoint → Prop
  /-- The name is not among the new ones any more. -/
  | deleted {o : Json} (e : Option Endpoint) : o ∈ old → nameOf o = .ok n →
      (∀ r ∈ new, nameOf r ≠ .ok n) → Fate kind old new n e none
  /-- The name was not among the old ones. -/
  | created {r : Json} {e : Endpoint} : r ∈ new → nameOf r = .ok n →
      (∀ o ∈ old, nameOf o ≠ .ok n) → Endpoint.record kind e = r →
      Fate kind old new n none (some e)
  /-- The old and the new record differ: the endpoint keeps what the two have in common. -/
  | updated {o r : Json} {e e' : Endpoint} : o ∈ old → r ∈ new → nameOf o = .ok n →
      nameOf r = .ok n → o ≠ r → e'.name = e.name →
      (∀ f : Field, f.registered kind →
        (o.member? f.name = r.member? f.name → e'.settings f = e.settings f) ∧
          (o.member? f.name ≠ r.member? f.name → f.shown (e'.settings f) = r.member? f.name)) →
      Fate kind old new n (some e) (some e')
  /-- The old and the new record are equal. -/
  | kept {r : Json} (e : Option Endpoint) : r ∈ old → r ∈ new → nameOf r = .ok n →
      Fate kind old new n e e
  /-- No record has the name. -/
  | foreign (e : Option Endpoint) : (∀ o ∈ old, nameOf o ≠ .ok n) →
      (∀ r ∈ new, nameOf r ≠ .ok n) → Fate kind old new n e e

variable {kind : ServiceKind} {t : Target} {old new : List Json} {cs : List Call} {n : String}

/-! ## The request for a name -/

namespace RecordSet

theorem exists_name {l : List Json} (h : RecordSet kind l) {r : Json} (hr : r ∈ l) :
    ∃ n, nameOf r = .ok n :=
  h.keyed.key r hr

theorem eq_of_name {l : List Json} (h : RecordSet kind l) {r r' : Json} (hr : r ∈ l)
    (hr' : r' ∈ l) (hn : nameOf r = .ok n) (hn' : nameOf r' = .ok n) : r = r' :=
  h.keyed.eq_of_key_eq hr hr' (hn.trans hn'.symm)

theorem perm {l l' : List Json} (h : RecordSet kind l) (hp : l.Perm l') : RecordSet kind l' where
  record r hr := h.record r (hp.mem_iff.2 hr)
  keyed := h.keyed.perm hp

theorem nil : RecordSet kind [] where
  record := by simp
  keyed := Keying.keyed_nil

end RecordSet

section Script

variable (hold : RecordSet kind old) (hnew : RecordSet kind new)
  (hcs : script kind t old new = .ok cs)

include hcs

theorem delete_mem_script {o : Json} (ho : o ∈ old) (hn : nameOf o = .ok n)
    (hfree : ∀ r ∈ new, nameOf r ≠ .ok n) : Call.delete t n ∈ cs := by
  obtain ⟨p, -, -, -, hp, -⟩ := script_eq_ok_iff.1 hcs
  refine (mem_script_iff hcs hp).2 (.inl ⟨o, ?_, deleteCall_eq_ok_iff.2 ⟨n, hn, rfl⟩⟩)
  exact (Keying.mem_deleted_iff hp).2 ⟨ho, fun r hr hro => hfree r hr (hro.trans hn)⟩

include hnew in
theorem exists_create_mem_script {r : Json} (hr : r ∈ new) (hn : nameOf r = .ok n)
    (hfree : ∀ o ∈ old, nameOf o ≠ .ok n) :
    ∃ settings, Call.create t n settings ∈ cs ∧ Endpoint.record kind ⟨n, settings⟩ = r := by
  obtain ⟨p, -, -, -, hp, -⟩ := script_eq_ok_iff.1 hcs
  obtain ⟨settings, hcall, hrecord⟩ := (hnew.record r hr).exists_create hn
  refine ⟨settings, (mem_script_iff hcs hp).2 (.inr (.inl ⟨r, ?_, hcall⟩)), hrecord⟩
  exact (Keying.mem_added_iff hp).2 ⟨hr, fun o ho hor => hfree o ho (hor.trans hn)⟩

include hold hnew in
theorem exists_update_mem_script {o r : Json} (ho : o ∈ old) (hr : r ∈ new)
    (hon : nameOf o = .ok n) (hn : nameOf r = .ok n) (hne : o ≠ r) :
    ∃ settings, Call.update t n settings ∈ cs ∧ ∀ f : Field, f.registered kind →
      (o.member? f.name = r.member? f.name → settings f = none) ∧
        (o.member? f.name ≠ r.member? f.name →
          ∃ c, settings f = some c ∧ f.shown (some c) = r.member? f.name) := by
  obtain ⟨p, -, -, -, hp, -⟩ := script_eq_ok_iff.1 hcs
  obtain ⟨changed, settings, hpatch, hcall, hsettings⟩ :=
    (hold.record o ho).exists_update (hnew.record r hr) hold.keyed ho hon hn
  refine ⟨settings, (mem_script_iff hcs hp).2 (.inr (.inr ⟨r, ?_, ?_⟩)), hsettings⟩
  · refine (Keying.mem_modified_iff hp).2 ⟨hr, o, ho, hon.trans hn.symm, ?_⟩
    rw [Bool.eq_false_iff, Ne, Json.beq_eq_true_iff (hold.record o ho).floatFree]
    exact hne
  · exact updateFor_eq_ok_iff.2 ⟨changed, hpatch, hcall⟩

/-- A request names a name that is gone, a new one, or one whose two records differ. -/
theorem records_of_mem_script {c : Call} (hc : c ∈ cs) (hn : c.name? = some n) :
    (∃ o ∈ old, nameOf o = .ok n ∧ ∀ r ∈ new, nameOf r ≠ .ok n) ∨
      (∃ r ∈ new, nameOf r = .ok n ∧ ∀ o ∈ old, nameOf o ≠ .ok n) ∨
        ∃ o ∈ old, ∃ r ∈ new, nameOf o = .ok n ∧ nameOf r = .ok n ∧ (o == r) = false := by
  obtain ⟨p, -, -, -, hp, -⟩ := script_eq_ok_iff.1 hcs
  have hname : ∀ {r : Json}, Names t r c → nameOf r = .ok n := by
    rintro r ⟨-, m, hm, hcm⟩
    rwa [Option.some.inj (hn.symm.trans hcm)]
  rcases (mem_script_iff hcs hp).1 hc with ⟨o, ho, hcall⟩ | ⟨r, hr, hcall⟩ | ⟨r, hr, hcall⟩
  · have hon := hname (names_deleteCall hcall)
    obtain ⟨ho, hfree⟩ := (Keying.mem_deleted_iff hp).1 ho
    exact .inl ⟨o, ho, hon, fun r hr hrn => hfree r hr (hrn.trans hon.symm)⟩
  · have hrn := hname (names_createCall hcall)
    obtain ⟨hr, hfree⟩ := (Keying.mem_added_iff hp).1 hr
    exact .inr (.inl ⟨r, hr, hrn, fun o ho hon => hfree o ho (hon.trans hrn.symm)⟩)
  · have hrn := hname (names_updateFor hcall)
    obtain ⟨hr, o, ho, hor, hne⟩ := (Keying.mem_modified_iff hp).1 hr
    exact .inr (.inr ⟨o, ho, r, hr, hor.trans hrn, hrn, hne⟩)

include hold hnew in
/-- No request names the endpoint of a record that stays. -/
theorem name?_ne_of_kept {r : Json} (ho : r ∈ old) (hr : r ∈ new) (hn : nameOf r = .ok n) :
    ∀ c ∈ cs, c.name? ≠ some n := by
  intro c hc hcn
  rcases records_of_mem_script hcs hc hcn with
    ⟨-, -, -, hfree⟩ | ⟨-, -, -, hfree⟩ | ⟨o, ho', r', hr', hon, hrn, hne⟩
  · exact hfree r hr hn
  · exact hfree r ho hn
  · rw [hold.eq_of_name ho' ho hon hn, hnew.eq_of_name hr' hr hrn hn, Json.beq_refl] at hne
    cases hne

/-- No request names an endpoint without a record. -/
theorem name?_ne_of_foreign (hold : ∀ o ∈ old, nameOf o ≠ .ok n)
    (hnew : ∀ r ∈ new, nameOf r ≠ .ok n) : ∀ c ∈ cs, c.name? ≠ some n := by
  intro c hc hcn
  rcases records_of_mem_script hcs hc hcn with
    ⟨o, ho, hon, -⟩ | ⟨r, hr, hrn, -⟩ | ⟨o, ho, -, -, hon, -⟩
  · exact hold o ho hon
  · exact hnew r hr hrn
  · exact hold o ho hon

end Script

/-! ## Fates -/

section Store

variable {s s' : Store}

/-- Records have a script. -/
theorem exists_script (hold : RecordSet kind old) (hnew : RecordSet kind new) :
    ∃ cs, script kind t old new = .ok cs := by
  obtain ⟨p, hp⟩ := Keying.exists_diff_iff.2 ⟨hold.keyed, hnew.keyed⟩
  have hdelete : ∀ o ∈ p.deleted, ∃ c, deleteCall t o = .ok c := by
    intro o ho
    obtain ⟨n, hn⟩ := hold.exists_name ((Keying.mem_deleted_iff hp).1 ho).1
    exact ⟨_, deleteCall_eq_ok_iff.2 ⟨n, hn, rfl⟩⟩
  have hcreate : ∀ r ∈ p.added, ∃ c, createCall kind t r = .ok c := by
    intro r hr
    have hr := ((Keying.mem_added_iff hp).1 hr).1
    obtain ⟨n, hn⟩ := hnew.exists_name hr
    obtain ⟨settings, hcall, -⟩ := (hnew.record r hr).exists_create hn
    exact ⟨_, hcall⟩
  have hupdate : ∀ r ∈ p.modified, ∃ c, updateFor kind t old r = .ok c := by
    intro r hr
    obtain ⟨hr, o, ho, hor, -⟩ := (Keying.mem_modified_iff hp).1 hr
    obtain ⟨n, hn⟩ := hnew.exists_name hr
    obtain ⟨changed, settings, hpatch, hcall, -⟩ :=
      (hold.record o ho).exists_update (hnew.record r hr) hold.keyed ho (hor.trans hn) hn
    exact ⟨_, updateFor_eq_ok_iff.2 ⟨changed, hpatch, hcall⟩⟩
  obtain ⟨ds, hds⟩ := Outcome.exists_mapM hdelete
  obtain ⟨es, hes⟩ := Outcome.exists_mapM hcreate
  obtain ⟨us, hus⟩ := Outcome.exists_mapM hupdate
  exact ⟨_, script_eq_ok_iff.2 ⟨p, ds, es, us, hp, hds, hes, hus, rfl⟩⟩

/-- A reconciliation of the store is the run of its script, if every request is accepted. -/
theorem endpoints_eq_run (hs : s.failure = none) (hcs : script kind t old new = .ok cs) :
    endpoints Store.remote kind t old new s = (.ok (), s') ↔
      (∀ c ∈ cs, s.Accepts c) ∧ s' = s.run cs := by
  rw [endpoints_eq_ok_iff]
  constructor
  · rintro ⟨cs', hcs', hall⟩
    obtain rfl := Except.ok.inj (hcs.symm.trans hcs')
    exact (Store.attemptAll_eq_ok_iff hs (nodup_names_script hcs)).1 hall
  · intro hall
    exact ⟨cs, hcs, (Store.attemptAll_eq_ok_iff hs (nodup_names_script hcs)).2 hall⟩

/-- **Every endpoint has its fate** in a reconciliation that succeeds. -/
theorem fate_of_endpoints (hold : RecordSet kind old) (hnew : RecordSet kind new)
    (hs : s.failure = none) (h : endpoints Store.remote kind t old new s = (.ok (), s'))
    (n : String) : Fate kind old new n (s.find? t n) (s'.find? t n) := by
  obtain ⟨cs, hcs⟩ := exists_script (t := t) hold hnew
  obtain ⟨haccepts, rfl⟩ := (endpoints_eq_run hs hcs).1 h
  have hnames := nodup_names_script hcs
  -- Each name is among the old ones, among the new ones, or both.
  by_cases ho : ∃ o ∈ old, nameOf o = .ok n
  · obtain ⟨o, ho, hon⟩ := ho
    by_cases hr : ∃ r ∈ new, nameOf r = .ok n
    · obtain ⟨r, hr, hrn⟩ := hr
      by_cases hor : o = r
      · subst hor
        rw [Store.find?_run_of_forall_ne hs (name?_ne_of_kept hold hnew hcs ho hr hon)]
        exact .kept _ ho hr hon
      · obtain ⟨settings, hmem, hsettings⟩ :=
          exists_update_mem_script hold hnew hcs ho hr hon hrn hor
        obtain ⟨e, he⟩ := haccepts _ hmem
        have hrun : (s.run cs).find? t n = (Call.update t n settings).effect (s.find? t n) :=
          Store.find?_run_of_mem hs hnames hmem rfl
        rw [hrun, he]
        change Fate kind old new n (some e) (some ⟨e.name, settings.overlay e.settings⟩)
        refine .updated ho hr hon hrn hor rfl fun f hf => ?_
        have hover : settings.overlay e.settings f = (settings f).or (e.settings f) :=
          Settings.overlay_apply settings e.settings f
        constructor
        · intro heq
          rw [(hsettings f hf).1 heq, Option.none_or] at hover
          exact hover
        · intro hne
          obtain ⟨c, hc, hshown⟩ := (hsettings f hf).2 hne
          rw [hc, Option.some_or] at hover
          exact (congrArg f.shown hover).trans hshown
    · have hfree : ∀ r ∈ new, nameOf r ≠ .ok n := fun r hr' hrn => hr ⟨r, hr', hrn⟩
      have hrun : (s.run cs).find? t n = none :=
        Store.find?_run_of_mem hs hnames (delete_mem_script hcs ho hon hfree) rfl
      rw [hrun]
      exact .deleted _ ho hon hfree
  · have hfree : ∀ o ∈ old, nameOf o ≠ .ok n := fun o ho' hon => ho ⟨o, ho', hon⟩
    by_cases hr : ∃ r ∈ new, nameOf r = .ok n
    · obtain ⟨r, hr, hrn⟩ := hr
      obtain ⟨settings, hmem, hrecord⟩ := exists_create_mem_script hnew hcs hr hrn hfree
      have hnone : s.find? t n = none := haccepts _ hmem
      have hrun : (s.run cs).find? t n = (Call.create t n settings).effect (s.find? t n) :=
        Store.find?_run_of_mem hs hnames hmem rfl
      rw [hrun, hnone]
      exact .created hr hrn hfree hrecord
    · have hnone : ∀ r ∈ new, nameOf r ≠ .ok n := fun r hr' hrn => hr ⟨r, hr', hrn⟩
      rw [Store.find?_run_of_forall_ne hs (name?_ne_of_foreign hcs hfree hnone)]
      exact .foreign _ hfree hnone

/-- **When a reconciliation succeeds**: no endpoint stands in the way of a new name, and every
endpoint whose two records differ is there. -/
theorem exists_endpoints_iff (hold : RecordSet kind old) (hnew : RecordSet kind new)
    (hs : s.failure = none) :
    (∃ s', endpoints Store.remote kind t old new s = (.ok (), s')) ↔
      ∀ r ∈ new, ∀ n, nameOf r = .ok n →
        ((∀ o ∈ old, nameOf o ≠ .ok n) → s.find? t n = none) ∧
          ∀ o ∈ old, nameOf o = .ok n → o ≠ r → ∃ e, s.find? t n = some e := by
  obtain ⟨cs, hcs⟩ := exists_script (t := t) hold hnew
  simp only [endpoints_eq_run hs hcs]
  constructor
  · rintro ⟨-, haccepts, -⟩ r hr n hn
    constructor
    · intro hfree
      obtain ⟨settings, hmem, -⟩ := exists_create_mem_script hnew hcs hr hn hfree
      exact haccepts _ hmem
    · intro o ho hon hne
      obtain ⟨settings, hmem, -⟩ := exists_update_mem_script hold hnew hcs ho hr hon hn hne
      exact haccepts _ hmem
  · intro h
    refine ⟨_, fun c hc => ?_, rfl⟩
    obtain ⟨p, -, -, -, hp, -⟩ := script_eq_ok_iff.1 hcs
    rcases (mem_script_iff hcs hp).1 hc with ⟨o, ho, hcall⟩ | ⟨r, hr, hcall⟩ | ⟨r, hr, hcall⟩
    · obtain ⟨n, -, rfl⟩ := deleteCall_eq_ok_iff.1 hcall
      trivial
    · obtain ⟨d, n, settings, -, hn, -, rfl⟩ := createCall_eq_ok_iff.1 hcall
      obtain ⟨hr, hfree⟩ := (Keying.mem_added_iff hp).1 hr
      exact (h r hr n hn).1 fun o ho hon => hfree o ho (hon.trans hn.symm)
    · obtain ⟨changed, -, hcall⟩ := updateFor_eq_ok_iff.1 hcall
      obtain ⟨n, settings, hn, -, rfl⟩ := updateCall_eq_ok_iff.1 hcall
      obtain ⟨hr, o, ho, hor, hne⟩ := (Keying.mem_modified_iff hp).1 hr
      refine (h r hr n hn).2 o ho (hor.trans hn) fun heq => ?_
      rw [heq, Json.beq_refl] at hne
      cases hne

/-- A reconciliation of the store that succeeds is a run of requests to its version. -/
theorem exists_run (hs : s.failure = none)
    (h : endpoints Store.remote kind t old new s = (.ok (), s')) :
    ∃ cs : List Call, (∀ c ∈ cs, c.target = t) ∧ s' = s.run cs := by
  obtain ⟨cs, hcs, -⟩ := endpoints_eq_ok_iff.1 h
  exact ⟨cs, fun c hc => target_of_mem_script hcs hc, ((endpoints_eq_run hs hcs).1 h).2⟩

theorem failure_endpoints (hs : s.failure = none)
    (h : endpoints Store.remote kind t old new s = (.ok (), s')) : s'.failure = none := by
  obtain ⟨cs, -, rfl⟩ := exists_run hs h
  exact Store.failure_run hs cs

theorem consistent_endpoints (hs : s.failure = none) (hc : s.Consistent)
    (h : endpoints Store.remote kind t old new s = (.ok (), s')) : s'.Consistent := by
  obtain ⟨cs, -, rfl⟩ := exists_run hs h
  exact hc.run cs

/-- A reconciliation leaves the other versions as they are. -/
theorem endpoints_of_ne (hs : s.failure = none)
    (h : endpoints Store.remote kind t old new s = (.ok (), s')) {u : Target} (hu : u ≠ t) :
    s'.endpoints u = s.endpoints u := by
  obtain ⟨cs, hcs, rfl⟩ := exists_run hs h
  exact Store.endpoints_run_of_ne hs fun c hc hct => hu (hct.symm.trans (hcs c hc))

end Store

end Reconcile

end LoggingProvider
