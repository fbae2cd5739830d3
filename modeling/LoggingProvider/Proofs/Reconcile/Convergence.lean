import LoggingProvider.Proofs.Reconcile.Stored

/-!
# Convergence

A reconciliation is computed from an old set of records and carried out on a version of the store,
which need not hold the old set. It leaves exactly the new records there if what the store holds
covers the change: no endpoint has a name that the old set does not have, and the endpoint of a name
that both sets have shows the members on which the old and the new record agree. This is also
necessary when the reconciliation succeeds. In particular a version whose records are the old ones
is brought to the new ones.

## Main definitions

* `Reconcile.Covers`: what is stored covers the change from an old set of records to a new one

## Main results

* `Reconcile.exists_endpoints_of_covers`: a change that is covered succeeds
* `Reconcile.records_perm_iff_covers`: a change leaves the new records exactly when it is covered
* `Reconcile.endpoints_converge`: reconciliation from what is read to any set of records
-/

namespace LoggingProvider

namespace Reconcile

open Endpoint

/-- **What is stored covers the change** from an old set of records to a new one. -/
structure Covers (old new stored : List Json) : Prop where
  /-- No record is stored under a name that the old set does not have. -/
  known : ∀ q ∈ stored, ∃ o ∈ old, nameOf o = nameOf q
  /-- Where the old and the new record of a name agree, a stored record of the name does too. -/
  agree : ∀ o ∈ old, ∀ r ∈ new, nameOf o = nameOf r → ∃ q ∈ stored, nameOf q = nameOf r ∧
    ∀ m, o.member? m = r.member? m → q.member? m = r.member? m

/-- What is stored covers a change from itself. -/
theorem Covers.of_perm {old new stored : List Json} (h : stored.Perm old) :
    Covers old new stored where
  known q hq := ⟨q, h.mem_iff.1 hq, rfl⟩
  agree o ho _ _ hor := ⟨o, h.mem_iff.2 ho, hor, fun _ hm => hm⟩

variable {kind : ServiceKind} {t : Target} {s s' : Store} {old new : List Json} {n : String}

/-! ## Success -/

/-- **A change that is covered succeeds.** -/
theorem exists_endpoints_of_covers (hold : RecordSet kind old) (hnew : RecordSet kind new)
    (hs : s.failure = none) (hc : s.Consistent) (h : Covers old new (s.records kind t)) :
    ∃ s', endpoints Store.remote kind t old new s = (.ok (), s') := by
  refine (exists_endpoints_iff hold hnew hs).2 fun r hr n hn => ⟨fun hfree => ?_, ?_⟩
  · rw [Option.eq_none_iff_forall_ne_some]
    intro e he
    obtain ⟨o, ho, hoq⟩ := h.known _ ((Store.mem_records_iff hc).2 ⟨n, e, he, rfl⟩)
    have hname : nameOf (Endpoint.record kind e) = .ok n :=
      nameOf_record_eq_ok_iff.2 ⟨hc.name_eq he, (hnew.record r hr).name_ne_empty hn⟩
    exact hfree o ho (hoq.trans hname)
  · intro o ho hon _
    obtain ⟨q, hq, hqn, -⟩ := h.agree o ho r hr (hon.trans hn.symm)
    obtain ⟨e, he, -⟩ := Store.exists_find?_of_mem_records hc hq (hqn.trans hn)
    exact ⟨e, he⟩

/-! ## The records that are left -/

/-- A covered change leaves only new records. -/
theorem record_mem_of_covers (hold : RecordSet kind old) (hnew : RecordSet kind new)
    (hc : s.Consistent) (h : Covers old new (s.records kind t)) {e' : Endpoint}
    (hfate : Fate kind old new n (s.find? t n) (some e')) : Endpoint.record kind e' ∈ new := by
  have hagree : ∀ {o r : Json} {e : Endpoint}, o ∈ old → r ∈ new → nameOf o = .ok n →
      nameOf r = .ok n → s.find? t n = some e → ∀ m, o.member? m = r.member? m →
        (Endpoint.record kind e).member? m = r.member? m := by
    intro o r e ho hr hon hn he
    obtain ⟨q, hq, hqn, hm⟩ := h.agree o ho r hr (hon.trans hn.symm)
    obtain ⟨e₀, he₀, rfl⟩ := Store.exists_find?_of_mem_records hc hq (hqn.trans hn)
    obtain rfl := Option.some.inj (he₀.symm.trans he)
    exact hm
  -- The endpoint is there afterwards, so it was created, updated, kept or foreign.
  generalize hbefore : s.find? t n = before at hfate
  generalize hafter : some e' = after at hfate
  cases hfate with
  | deleted => cases hafter
  | created hr hn _ hrecord =>
    obtain rfl := Option.some.inj hafter
    rwa [hrecord]
  | @updated o r e _ ho hr hon hn hne hname hfields =>
    obtain rfl := Option.some.inj hafter
    rw [record_eq (hnew.record r hr) (hname ▸ (hc.name_eq hbefore).symm ▸ hn) fun f hf => ?_]
    · exact hr
    · by_cases heq : o.member? f.name = r.member? f.name
      · rw [(hfields f hf).1 heq, ← member?_record_field e hf]
        exact hagree ho hr hon hn hbefore _ heq
      · exact (hfields f hf).2 heq
  | @kept r _ ho hr hn =>
    subst hafter
    rw [(isRecord_record e').ext (hnew.record r hr) fun m => hagree ho hr hn hn hbefore m rfl]
    exact hr
  | foreign _ hfree _ =>
    subst hafter
    obtain ⟨o, ho, hoq⟩ := h.known _ ((Store.mem_records_iff hc).2 ⟨n, e', hbefore, rfl⟩)
    obtain ⟨m, hm⟩ := hold.exists_name ho
    obtain ⟨rfl, -⟩ := nameOf_record_eq_ok_iff.1 (hoq.symm.trans hm)
    exact absurd (hc.name_eq hbefore ▸ hm) (hfree o ho)

/-- A covered change leaves an endpoint for each new record. -/
theorem exists_of_covers (hc : s.Consistent) (h : Covers old new (s.records kind t)) {r : Json}
    (hr : r ∈ new) (hn : nameOf r = .ok n) {after : Option Endpoint}
    (hfate : Fate kind old new n (s.find? t n) after) : ∃ e, after = some e := by
  generalize hbefore : s.find? t n = before at hfate
  cases hfate with
  | deleted _ _ _ hfree => exact absurd hn (hfree r hr)
  | created => exact ⟨_, rfl⟩
  | updated => exact ⟨_, rfl⟩
  | @kept o _ ho hr' hon =>
    obtain ⟨q, hq, hqn, -⟩ := h.agree o ho r hr (hon.trans hn.symm)
    obtain ⟨e, he, -⟩ := Store.exists_find?_of_mem_records hc hq (hqn.trans hn)
    exact ⟨e, hbefore.symm.trans he⟩
  | foreign _ _ hfree => exact absurd hn (hfree r hr)

/-- A change that leaves the new records was known to the old set. -/
theorem known_of_perm (hold : RecordSet kind old) (hnew : RecordSet kind new)
    (hfate : ∀ n, Fate kind old new n (s.find? t n) (s'.find? t n)) (hc : s.Consistent)
    (hc' : s'.Consistent) (hp : (s'.records kind t).Perm new) {q : Json}
    (hq : q ∈ s.records kind t) : ∃ o ∈ old, nameOf o = nameOf q := by
  obtain ⟨n, e, he, rfl⟩ := (Store.mem_records_iff hc).1 hq
  have hname : ∀ {o : Json}, o ∈ old → nameOf o = .ok n →
      ∃ o ∈ old, nameOf o = nameOf (Endpoint.record kind e) := by
    intro o ho hon
    have hne := (hold.record o ho).name_ne_empty hon
    exact ⟨o, ho, hon.trans (nameOf_record_eq_ok_iff.2 ⟨hc.name_eq he, hne⟩).symm⟩
  have hfate := hfate n
  generalize hafter : s'.find? t n = after at hfate
  rw [he] at hfate
  cases hfate with
  | deleted _ ho hon _ => exact hname ho hon
  | updated ho _ hon _ _ _ _ => exact hname ho hon
  | kept _ ho _ hon => exact hname ho hon
  | foreign _ _ hfree =>
    -- The endpoint would still be there, and its record would be a new one.
    have hmem := ((Store.records_perm_iff hc' hnew).1 hp).1 n e hafter
    obtain ⟨m, hm⟩ := hnew.exists_name hmem
    obtain ⟨rfl, -⟩ := nameOf_record_eq_ok_iff.1 hm
    obtain rfl := hc.name_eq he
    exact absurd hm (hfree _ hmem)

/-- In a change that leaves the new records, what was stored agreed with the new records where the
old ones did. -/
theorem agree_of_perm (hold : RecordSet kind old) (hnew : RecordSet kind new)
    (hfate : ∀ n, Fate kind old new n (s.find? t n) (s'.find? t n)) (hc : s.Consistent)
    (hc' : s'.Consistent) (hp : (s'.records kind t).Perm new) {o r : Json} (ho : o ∈ old)
    (hr : r ∈ new) (hor : nameOf o = nameOf r) :
    ∃ q ∈ s.records kind t, nameOf q = nameOf r ∧
      ∀ m, o.member? m = r.member? m → q.member? m = r.member? m := by
  obtain ⟨n, hn⟩ := hnew.exists_name hr
  have hon := hor.trans hn
  obtain ⟨e', he', hrecord⟩ := Store.exists_find?_of_mem_records hc' (hp.mem_iff.2 hr) hn
  have hfate := hfate n
  rw [he'] at hfate
  generalize hbefore : s.find? t n = before at hfate
  cases hfate with
  | created _ _ hfree _ => exact absurd hon (hfree o ho)
  | @updated o₁ r₁ e _ ho₁ hr₁ hon₁ hn₁ _ hname hfields =>
    obtain rfl := hold.eq_of_name ho ho₁ hon hon₁
    obtain rfl := hnew.eq_of_name hr hr₁ hn hn₁
    have hqn : nameOf (Endpoint.record kind e) = .ok n :=
      nameOf_record_eq_ok_iff.2 ⟨hc.name_eq hbefore, (hnew.record r hr).name_ne_empty hn⟩
    refine ⟨_, (Store.mem_records_iff hc).2 ⟨n, e, hbefore, rfl⟩, hqn.trans hn.symm,
      fun m hm => ?_⟩
    by_cases hfield : (block kind).hasField m
    · rcases (hasField_block kind).1 hfield with rfl | ⟨f, hf, rfl⟩
      · rw [nameOf_eq_ok_iff.1 hqn, nameOf_eq_ok_iff.1 hn]
      · rw [member?_record_field e hf, ← (hfields f hf).1 hm, ← member?_record_field e' hf,
          hrecord]
    · rw [(isRecord_record e).member?_eq_none hfield, (hnew.record r hr).member?_eq_none hfield]
  | @kept o₁ _ ho₁ hr₁ hn₁ =>
    obtain rfl := hnew.eq_of_name hr hr₁ hn hn₁
    exact ⟨r, (Store.mem_records_iff hc).2 ⟨n, e', hbefore, hrecord⟩, rfl, fun _ _ => rfl⟩
  | foreign _ hfree _ => exact absurd hon (hfree o ho)

/-- **A change leaves the new records exactly when it is covered.** -/
theorem records_perm_iff_covers (hold : RecordSet kind old) (hnew : RecordSet kind new)
    (hs : s.failure = none) (hc : s.Consistent)
    (h : endpoints Store.remote kind t old new s = (.ok (), s')) :
    (s'.records kind t).Perm new ↔ Covers old new (s.records kind t) := by
  have hfate := fate_of_endpoints hold hnew hs h
  have hc' := consistent_endpoints hs hc h
  constructor
  · intro hp
    exact ⟨fun q hq => known_of_perm hold hnew hfate hc hc' hp hq,
      fun o ho r hr hor => agree_of_perm hold hnew hfate hc hc' hp ho hr hor⟩
  · intro hcovers
    refine (Store.records_perm_iff hc' hnew).2 ⟨fun n e he => ?_, fun r hr n hn => ?_⟩
    · exact record_mem_of_covers hold hnew hc hcovers (he ▸ hfate n)
    · exact exists_of_covers hc hcovers hr hn (hfate n)

/-! ## Convergence -/

/-- A reconciliation from the records that are stored to others succeeds and leaves the others. -/
theorem exists_endpoints_of_perm (hold : RecordSet kind old) (hnew : RecordSet kind new)
    (hs : s.failure = none) (hc : s.Consistent) (h : (s.records kind t).Perm old) :
    ∃ s', endpoints Store.remote kind t old new s = (.ok (), s') ∧
      (s'.records kind t).Perm new := by
  have hcovers : Covers old new (s.records kind t) := .of_perm h
  obtain ⟨s', hs'⟩ := exists_endpoints_of_covers hold hnew hs hc hcovers
  exact ⟨s', hs', (records_perm_iff_covers hold hnew hs hc hs').2 hcovers⟩

/-- **Reconciliation converges from any state of the store**: from what is read of a version to any
set of records, it succeeds, the version then reads as these records sorted by name, and the other
versions stay as they are. -/
theorem endpoints_converge {found : List Json} (hreach : s.Reachable) (hs : s.failure = none)
    (hnames : ∀ e ∈ s.listed t, e.name ≠ "")
    (hread : (currentRecords Store.remote kind t s).1 = .ok found) (hold : old.Perm found)
    (hrecord : ∀ r ∈ new, IsRecord kind r) (hdistinct : byName.Keyed new) :
    ∃ s', endpoints Store.remote kind t old new s = (.ok (), s') ∧
      (∃ after, (currentRecords Store.remote kind t s').1 = .ok after ∧ after.Perm new ∧
        after.Pairwise NamedLess) ∧
      ∀ u, u ≠ t → s'.endpoints u = s.endpoints u := by
  have hc := hreach.consistent
  rw [currentRecords_eq hs] at hread
  obtain rfl := Except.ok.inj hread
  have hnew : RecordSet kind new := ⟨hrecord, hdistinct⟩
  have hfound : RecordSet kind (s.records kind t) := Store.recordSet_records hc hnames
  obtain ⟨s', hs', hp⟩ := exists_endpoints_of_perm (hfound.perm hold.symm) hnew hs hc hold.symm
  refine ⟨s', hs', ⟨s'.records kind t, ?_, hp, ?_⟩, fun u hu => endpoints_of_ne hs hs' hu⟩
  · rw [currentRecords_eq (failure_endpoints hs hs')]
  · exact Store.pairwise_records (hnew.perm hp.symm)

/-- A version with one endpoint, brought to another one. -/
theorem endpoints_converge_from_one :
    let t : Target := ⟨"svc", 1⟩
    let s := Store.empty.seed t ⟨"a", Settings.empty⟩
    let a : Json := .object [("name", .string "a"), ("parse_log_keyvals", .bool false),
      ("request_max_bytes", .ofNat 0), ("use_tls", .bool false)]
    let b : Json := .object [("name", .string "b"), ("parse_log_keyvals", .bool false),
      ("request_max_bytes", .ofNat 7), ("topic", .string "logs"), ("use_tls", .bool false)]
    ∃ s', endpoints Store.remote .compute t [a] [b] s = (.ok (), s') ∧
      (∃ after, (currentRecords Store.remote .compute t s').1 = .ok after ∧ after.Perm [b] ∧
        after.Pairwise NamedLess) ∧
      ∀ u, u ≠ t → s'.endpoints u = s.endpoints u := by
  intro t s a b
  have hb : b = Endpoint.record .compute
      ⟨"b", Settings.ofMembers [("request_max_bytes", .ofNat 7), ("topic", .string "logs")]⟩ := by
    rfl
  have hread : (currentRecords Store.remote .compute t s).1 = .ok [a] := by
    rw [currentRecords_eq rfl]
    exact congrArg Except.ok (List.mergeSort_singleton a)
  refine endpoints_converge (.seed t _ .empty) rfl ?_ hread (.refl _) ?_ ⟨?_, ?_⟩
  · intro e he
    obtain rfl := List.mem_singleton.1 he
    decide
  · intro r hr
    obtain rfl := List.mem_singleton.1 hr
    rw [hb]
    exact isRecord_record _
  · intro r hr
    obtain rfl := List.mem_singleton.1 hr
    exact ⟨"b", rfl⟩
  · simp

end Reconcile

end LoggingProvider
