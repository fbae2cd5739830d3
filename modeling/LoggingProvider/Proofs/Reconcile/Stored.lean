import LoggingProvider.Proofs.Reconcile.Fate

/-!
# The records of the store

The records that are read of a version of the store are those of its endpoints, sorted by name. They
are the records of a given set, in some order, when every endpoint has one of these records and
every record of the set has an endpoint under its name.

## Main definitions

* `Store.records`: the records that are read of a version
* `Reconcile.NamedLess`: the order of records by their names
* `Reconcile.recordsOf`: the records of endpoints

## Main results

* `Reconcile.currentRecords_eq`: reading the store
* `Reconcile.pairwise_recordsOf`, `Reconcile.recordsOf_perm`: the records of endpoints, and their
  one order by name
* `Store.records_perm_iff`: when the records of a version are those of a set
* `Store.pairwise_records`: the records are sorted by name
-/

namespace LoggingProvider

open Endpoint Reconcile

/-- **The records that are read of a version.** -/
def Store.records (s : Store) (kind : ServiceKind) (t : Target) : List Json :=
  ((s.listed t).map (Endpoint.record kind)).mergeSort namedBefore

variable {kind : ServiceKind} {s s' : Store} {t : Target} {n : String}

namespace Reconcile

/-- The order of records by their names. -/
def NamedLess (a b : Json) : Prop :=
  ∃ m n, nameOf a = .ok m ∧ nameOf b = .ok n ∧ m < n

theorem namedBefore_of_name {a b : Json} {m n : String} (ha : nameOf a = .ok m)
    (hb : nameOf b = .ok n) : namedBefore a b = !(n < m) := by
  unfold namedBefore Json.memberD
  rw [nameOf_eq_ok_iff.1 ha, nameOf_eq_ok_iff.1 hb]
  rfl

theorem namedBefore_total (a b : Json) : namedBefore a b || namedBefore b a := by
  unfold namedBefore
  cases (a.memberD "name").text? with
  | none => rfl
  | some m =>
    cases (b.memberD "name").text? with
    | none => rfl
    | some n =>
      simp only [Bool.or_eq_true, Bool.not_eq_true', decide_eq_false_iff_not, String.not_lt]
      exact String.le_total m n

theorem namedBefore_trans (a b c : Json) (hab : namedBefore a b) (hbc : namedBefore b c) :
    namedBefore a c := by
  unfold namedBefore at *
  cases ha : (a.memberD "name").text? with
  | none => rfl
  | some l =>
    cases hb : (b.memberD "name").text? with
    | none =>
      rw [ha, hb] at hab
      cases hab
    | some m =>
      cases hc : (c.memberD "name").text? with
      | none =>
        rw [hb, hc] at hbc
        cases hbc
      | some n =>
        rw [ha, hb] at hab
        rw [hb, hc] at hbc
        simp only [Bool.not_eq_true', decide_eq_false_iff_not, String.not_lt] at *
        exact String.le_trans hab hbc

/-- Records with distinct names are sorted by them. -/
theorem pairwise_mergeSort {l : List Json} (h : byName.Keyed l) :
    (l.mergeSort namedBefore).Pairwise NamedLess := by
  have hsorted := h.perm (List.mergeSort_perm l namedBefore).symm
  have hbefore : (l.mergeSort namedBefore).Pairwise fun a b => namedBefore a b :=
    List.pairwise_mergeSort namedBefore_trans namedBefore_total l
  have hdistinct : (l.mergeSort namedBefore).Pairwise fun a b => nameOf a ≠ nameOf b :=
    List.pairwise_map.1 hsorted.nodup
  -- In sorted order the name of a later record is not less, and it is a different one.
  refine (hbefore.and hdistinct).imp_of_mem fun {a b} ha hb hab => ?_
  obtain ⟨m, hm⟩ : ∃ m, nameOf a = .ok m := hsorted.key a ha
  obtain ⟨n, hn⟩ : ∃ n, nameOf b = .ok n := hsorted.key b hb
  obtain ⟨hle, hne⟩ := hab
  rw [namedBefore_of_name hm hn, Bool.not_eq_true', decide_eq_false_iff_not] at hle
  refine ⟨m, n, hm, hn, Decidable.byContradiction fun hlt => hne ?_⟩
  rw [hm, hn, String.le_antisymm (String.not_lt.1 hle) (String.not_lt.1 hlt)]

theorem NamedLess.asymm {a b : Json} (hab : NamedLess a b) : ¬NamedLess b a := by
  rintro ⟨n', m', hb', ha', hlt'⟩
  obtain ⟨m, n, ha, hb, hlt⟩ := hab
  obtain rfl := Except.ok.inj (ha.symm.trans ha')
  obtain rfl := Except.ok.inj (hb.symm.trans hb')
  exact String.lt_asymm hlt hlt'

/-- There is one order by names. -/
theorem eq_of_pairwise_namedLess {l l' : List Json} (hp : l.Perm l') (hl : l.Pairwise NamedLess)
    (hl' : l'.Pairwise NamedLess) : l = l' :=
  hp.eq_of_pairwise (fun _ _ _ _ hab hba => absurd hba hab.asymm) hl hl'

/-! ## The records of endpoints -/

/-- **The records of endpoints**, in name order. -/
def recordsOf (kind : ServiceKind) (es : List Endpoint) : List Json :=
  (es.map (Endpoint.record kind)).mergeSort namedBefore

theorem perm_recordsOf (kind : ServiceKind) (es : List Endpoint) :
    (recordsOf kind es).Perm (es.map (Endpoint.record kind)) :=
  List.mergeSort_perm _ _

/-- Reading finds the records of the endpoints that are listed. -/
theorem currentRecords_of_listed {σ : Type} {remote : Remote σ} {es : List Endpoint} {z z' : σ}
    (h : remote.answer (.list t) z = (.ok es, z')) :
    currentRecords remote kind t z = (.ok (recordsOf kind es), z') := by
  have hcall : remote.call (.list t) z = (.ok es, z') := h
  unfold currentRecords
  rw [Action.bind_of_ok hcall]
  rfl

/-- **Reading the store** finds its records and changes no endpoint. -/
theorem currentRecords_eq (hs : s.failure = none) (kind : ServiceKind) (t : Target) :
    currentRecords Store.remote kind t s = (.ok (s.records kind t), (s.answer (.list t)).2) := by
  have hanswer : Store.remote.answer (.list t) s = (.ok (s.listed t), (s.answer (.list t)).2) := by
    change s.answer (.list t) = _
    unfold Store.answer
    rw [hs]
    rfl
  exact currentRecords_of_listed hanswer

section Named

variable {es : List Endpoint} (hnodup : (es.map Endpoint.name).Nodup)
  (hnamed : ∀ e ∈ es, e.name ≠ "")

include hnodup hnamed

/-- Endpoints with distinct names that are not empty have a set of records. -/
theorem recordSet_map_record (kind : ServiceKind) :
    RecordSet kind (es.map (Endpoint.record kind)) := by
  have hnames : (es.map (Endpoint.record kind)).map nameOf =
      (es.map Endpoint.name).map Except.ok := by
    rw [List.map_map, List.map_map]
    exact List.map_congr_left fun e he => nameOf_record (hnamed e he)
  refine ⟨fun r hr => ?_, Keying.keyed_of_map_key hnames hnodup⟩
  obtain ⟨e, -, rfl⟩ := List.mem_map.1 hr
  exact isRecord_record e

theorem recordSet_recordsOf (kind : ServiceKind) : RecordSet kind (recordsOf kind es) :=
  (recordSet_map_record hnodup hnamed kind).perm (perm_recordsOf kind es).symm

/-- **The records of endpoints are sorted by name.** -/
theorem pairwise_recordsOf (kind : ServiceKind) : (recordsOf kind es).Pairwise NamedLess :=
  pairwise_mergeSort (recordSet_map_record hnodup hnamed kind).keyed

/-- Endpoints in another order have the same records. -/
theorem recordsOf_perm (kind : ServiceKind) {es' : List Endpoint} (hes : es'.Perm es) :
    recordsOf kind es' = recordsOf kind es := by
  have hnodup' : (es'.map Endpoint.name).Nodup := (hes.map _).nodup_iff.2 hnodup
  have hnamed' : ∀ e ∈ es', e.name ≠ "" := fun e he => hnamed e (hes.mem_iff.1 he)
  have hperm : (recordsOf kind es').Perm (recordsOf kind es) :=
    (perm_recordsOf kind es').trans ((hes.map _).trans (perm_recordsOf kind es).symm)
  exact eq_of_pairwise_namedLess hperm (pairwise_recordsOf hnodup' hnamed' kind)
    (pairwise_recordsOf hnodup hnamed kind)

end Named

end Reconcile

namespace Store

theorem records_congr (h : s.endpoints t = s'.endpoints t) :
    s.records kind t = s'.records kind t := by
  unfold records listed
  rw [h]

theorem perm_records (s : Store) (kind : ServiceKind) (t : Target) :
    (s.records kind t).Perm ((s.listed t).map (Endpoint.record kind)) :=
  List.mergeSort_perm _ _

theorem records_eq_nil_iff : s.records kind t = [] ↔ s.endpoints t = [] := by
  rw [← List.length_eq_zero_iff, (perm_records s kind t).length_eq, List.length_eq_zero_iff,
    List.map_eq_nil_iff, listed, List.map_eq_nil_iff]

/-- A record of a version is that of an endpoint. -/
theorem mem_records_iff (hc : s.Consistent) {q : Json} :
    q ∈ s.records kind t ↔ ∃ n e, s.find? t n = some e ∧ Endpoint.record kind e = q := by
  rw [(perm_records s kind t).mem_iff, List.mem_map]
  constructor
  · rintro ⟨e, he, rfl⟩
    exact ⟨e.name, e, hc.mem_listed_iff.1 he, rfl⟩
  · rintro ⟨n, e, he, rfl⟩
    obtain rfl := hc.name_eq he
    exact ⟨e, hc.mem_listed_iff.2 he, rfl⟩

/-- The record with a name is that of the endpoint with this name. -/
theorem exists_find?_of_mem_records (hc : s.Consistent) {q : Json} (hq : q ∈ s.records kind t)
    (hn : nameOf q = .ok n) : ∃ e, s.find? t n = some e ∧ Endpoint.record kind e = q := by
  obtain ⟨m, e, he, rfl⟩ := (mem_records_iff hc).1 hq
  obtain ⟨hname, -⟩ := nameOf_record_eq_ok_iff.1 hn
  obtain rfl := (hc.name_eq he).symm.trans hname
  exact ⟨e, he, rfl⟩

/-- Endpoints with names that are not empty have records with distinct names. -/
theorem recordSet_records (hc : s.Consistent) (hn : ∀ e ∈ s.listed t, e.name ≠ "") :
    RecordSet kind (s.records kind t) :=
  recordSet_recordsOf (hc.nodup_names_listed t) hn kind

/-- **When the records of a version are those of a set**, in some order. -/
theorem records_perm_iff (hc : s.Consistent) {new : List Json} (hnew : RecordSet kind new) :
    (s.records kind t).Perm new ↔
      (∀ n e, s.find? t n = some e → Endpoint.record kind e ∈ new) ∧
        ∀ r ∈ new, ∀ n, nameOf r = .ok n → ∃ e, s.find? t n = some e := by
  constructor
  · intro hp
    constructor
    · intro n e he
      exact hp.mem_iff.1 ((mem_records_iff hc).2 ⟨n, e, he, rfl⟩)
    · intro r hr n hn
      obtain ⟨e, he, -⟩ := exists_find?_of_mem_records hc (hp.mem_iff.2 hr) hn
      exact ⟨e, he⟩
  · rintro ⟨hstored, hfound⟩
    have hname : ∀ e ∈ s.listed t, e.name ≠ "" := by
      intro e he
      have hmem := hstored e.name e (hc.mem_listed_iff.1 he)
      obtain ⟨n, hn⟩ := hnew.exists_name hmem
      obtain ⟨rfl, hne⟩ := nameOf_record_eq_ok_iff.1 hn
      exact hne
    have hset : RecordSet kind (s.records kind t) := recordSet_records hc hname
    -- Neither side has a record twice, so it is enough that they have the same ones.
    refine (List.perm_ext_iff_of_nodup hset.keyed.nodup_records hnew.keyed.nodup_records).2
      fun r => ?_
    constructor
    · intro hr
      obtain ⟨n, e, he, rfl⟩ := (mem_records_iff hc).1 hr
      exact hstored n e he
    · intro hr
      obtain ⟨n, hn⟩ := hnew.exists_name hr
      obtain ⟨e, he⟩ := hfound r hr n hn
      refine (mem_records_iff hc).2 ⟨n, e, he, ?_⟩
      have hmem := hstored n e he
      obtain ⟨m, hm⟩ := hnew.exists_name hmem
      obtain ⟨rfl, -⟩ := nameOf_record_eq_ok_iff.1 hm
      obtain rfl := hc.name_eq he
      exact hnew.eq_of_name hmem hr hm hn

/-- The records of a version stand in the order of its endpoints. -/
theorem records_eq_map (hc : s.Consistent) (hn : ∀ e ∈ s.listed t, e.name ≠ "") :
    s.records kind t = (s.listed t).map (Endpoint.record kind) := by
  refine List.mergeSort_of_pairwise (List.pairwise_map.2 ?_)
  unfold listed
  rw [List.pairwise_map]
  refine (hc t).ordered.imp_of_mem fun {a b} ha hb hab => ?_
  have hname : ∀ {e}, e ∈ s.endpoints t → nameOf (Endpoint.record kind e.2) = .ok e.1 := by
    intro e he
    rw [← (hc t).named e he]
    exact nameOf_record (hn e.2 (List.mem_map_of_mem he))
  rw [namedBefore_of_name (hname ha) (hname hb), Bool.not_eq_true', decide_eq_false_iff_not]
  exact String.lt_asymm hab

/-- **The records of a version are sorted by name.** -/
theorem pairwise_records (h : RecordSet kind (s.records kind t)) :
    (s.records kind t).Pairwise NamedLess :=
  pairwise_mergeSort (h.perm (perm_records s kind t)).keyed

end Store

end LoggingProvider
