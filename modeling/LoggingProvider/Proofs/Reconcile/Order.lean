import LoggingProvider.Proofs.Reconcile.Fate

/-!
# The order of records

The records of a block are a set, though they come as a list. Other orders of the old and the new
records have the same difference in another order, so they have a script with the same requests in
another order. As no two requests of a script name the same endpoint, a store carries out the one
script exactly when it carries out the other, and holds the same endpoints afterwards.

## Main results

* `Keying.parts_perm`: the parts of a difference in another order
* `Reconcile.exists_script_of_perm`: a script in another order
* `Reconcile.endpoints_perm`: reconciliation in another order
-/

namespace LoggingProvider

namespace Reconcile

open Endpoint

/-! ## Differences -/

namespace Keying

variable {α κ : Type} [DecidableEq κ] [BEq α] {how : Keying α κ} {old old' new new' : List α}
  {p p' : Partition α}

/-- **The parts of a difference in another order** hold the same records. -/
theorem parts_perm (hold : old.Perm old') (hnew : new.Perm new') (h : how.diff old new = .ok p)
    (h' : how.diff old' new' = .ok p') :
    p.deleted.Perm p'.deleted ∧ p.added.Perm p'.added ∧ p.modified.Perm p'.modified := by
  obtain ⟨hadded, hmodified, -, hdeleted⟩ := parts_eq h
  obtain ⟨hadded', hmodified', -, hdeleted'⟩ := parts_eq h'
  rw [hdeleted, hdeleted', hadded, hadded', hmodified, hmodified']
  simp only [hold.mem_iff, hnew.mem_iff]
  exact ⟨hold.filter _, hnew.filter _, hnew.filter _⟩

end Keying

/-! ## Scripts -/

variable {kind : ServiceKind} {t : Target} {s : Store} {old old' new new' : List Json}
  {cs : List Call}

/-- No record is found under a name that no record of a keyed set has. -/
theorem findNamed_eq_error (h : byName.Keyed old) {n : String}
    (hfree : ∀ o ∈ old, nameOf o ≠ .ok n) :
    findNamed n old = .error (.notInOld (Text.quoted n)) := by
  induction old with
  | nil => rfl
  | cons r rest ih =>
    obtain ⟨m, hm⟩ : ∃ m, nameOf r = .ok m := h.key r List.mem_cons_self
    have hmn : m ≠ n := by
      rintro rfl
      exact hfree r List.mem_cons_self hm
    have hrest : byName.Keyed rest :=
      ⟨fun s hs => h.key s (List.mem_cons_of_mem _ hs), (List.nodup_cons.1 h.nodup).2⟩
    unfold findNamed
    rw [hm]
    simp only [if_neg hmn]
    exact ih hrest fun o ho => hfree o (List.mem_cons_of_mem _ ho)

theorem findNamed_perm (h : byName.Keyed old) (hp : old.Perm old') (n : String) :
    findNamed n old = findNamed n old' := by
  by_cases hfound : ∃ o ∈ old, nameOf o = .ok n
  · obtain ⟨o, ho, hn⟩ := hfound
    rw [findNamed_eq h ho hn, findNamed_eq (h.perm hp) (hp.mem_iff.1 ho) hn]
  · have hfree : ∀ o ∈ old, nameOf o ≠ .ok n := fun o ho hn => hfound ⟨o, ho, hn⟩
    rw [findNamed_eq_error h hfree,
      findNamed_eq_error (h.perm hp) fun o ho => hfree o (hp.mem_iff.2 ho)]

/-- What is sent for a modified record does not depend on the order of the old records. -/
theorem updateFor_perm (h : byName.Keyed old) (hp : old.Perm old') :
    updateFor kind t old = updateFor kind t old' := by
  funext r
  unfold updateFor patch
  simp only [findNamed_perm h hp]

/-- **A script in another order** has the same requests. -/
theorem exists_script_of_perm (hold : old.Perm old') (hnew : new.Perm new')
    (h : script kind t old new = .ok cs) :
    ∃ cs', script kind t old' new' = .ok cs' ∧ cs.Perm cs' := by
  obtain ⟨p, ds, es, us, hp, hds, hes, hus, rfl⟩ := script_eq_ok_iff.1 h
  obtain ⟨hkeyed, hkeyed'⟩ := Keying.exists_diff_iff.1 ⟨p, hp⟩
  obtain ⟨p', hp'⟩ := Keying.exists_diff_iff.2 ⟨hkeyed.perm hold, hkeyed'.perm hnew⟩
  obtain ⟨hdeleted, hadded, hmodified⟩ := Keying.parts_perm hold hnew hp hp'
  obtain ⟨ds', hds', hd⟩ := Outcome.exists_mapM_of_perm hdeleted hds
  obtain ⟨es', hes', he⟩ := Outcome.exists_mapM_of_perm hadded hes
  obtain ⟨us', hus', hu⟩ := Outcome.exists_mapM_of_perm hmodified hus
  rw [updateFor_perm hkeyed hold] at hus'
  exact ⟨ds' ++ es' ++ us', script_eq_ok_iff.2 ⟨p', ds', es', us', hp', hds', hes', hus', rfl⟩,
    (hd.append he).append hu⟩

/-! ## Reconciliation -/

/-- A reconciliation that succeeds does so in any order, and leaves the same endpoints. -/
theorem exists_endpoints_of_reordered (hc : s.Consistent) (hs : s.failure = none)
    (hold : old.Perm old') (hnew : new.Perm new') {s₁ : Store}
    (h : endpoints Store.remote kind t old new s = (.ok (), s₁)) :
    ∃ s₂, endpoints Store.remote kind t old' new' s = (.ok (), s₂) ∧
      ∀ u, s₁.endpoints u = s₂.endpoints u := by
  obtain ⟨cs, hcs, -⟩ := endpoints_eq_ok_iff.1 h
  obtain ⟨haccepts, rfl⟩ := (endpoints_eq_run hs hcs).1 h
  obtain ⟨cs', hcs', hp⟩ := exists_script_of_perm hold hnew hcs
  refine ⟨s.run cs', (endpoints_eq_run hs hcs').2 ⟨?_, rfl⟩, ?_⟩
  · exact fun c hc' => haccepts c (hp.mem_iff.2 hc')
  · exact hc.endpoints_run_perm hs (fun c => target_of_mem_script hcs) (nodup_names_script hcs) hp

/-- **The order of the records never matters.** From any state of the store, a reconciliation
succeeds exactly when it does with the old and the new records in other orders, and then it leaves
the same endpoints in every version. -/
theorem endpoints_perm (hreach : s.Reachable) (hs : s.failure = none) (hold : old.Perm old')
    (hnew : new.Perm new') :
    ((endpoints Store.remote kind t old new s).1 = .ok () ↔
      (endpoints Store.remote kind t old' new' s).1 = .ok ()) ∧
    ((endpoints Store.remote kind t old new s).1 = .ok () → ∀ u,
      (endpoints Store.remote kind t old new s).2.endpoints u =
        (endpoints Store.remote kind t old' new' s).2.endpoints u) := by
  have hc := hreach.consistent
  refine ⟨⟨fun h => ?_, fun h => ?_⟩, fun h => ?_⟩
  · obtain ⟨s₂, h₂, -⟩ := exists_endpoints_of_reordered hc hs hold hnew (Prod.ext h rfl)
    rw [h₂]
  · obtain ⟨s₁, h₁, -⟩ := exists_endpoints_of_reordered hc hs hold.symm hnew.symm (Prod.ext h rfl)
    rw [h₁]
  · obtain ⟨s₂, h₂, hsame⟩ := exists_endpoints_of_reordered hc hs hold hnew (Prod.ext h rfl)
    rw [h₂]
    exact hsame

/-- A deletion, an update and a creation, in two orders. -/
theorem endpoints_perm_of_three :
    let t : Target := ⟨"svc", 1⟩
    let s := (Store.empty.seed t ⟨"a", Settings.empty⟩).seed t ⟨"b", Settings.empty⟩
    let item : String → String → Json := fun name topic =>
      .object [("name", .string name), ("topic", .string topic)]
    let first := endpoints Store.remote .compute t [item "a" "logs", item "b" "logs"]
      [item "b" "audit", item "c" "logs"] s
    let second := endpoints Store.remote .compute t [item "b" "logs", item "a" "logs"]
      [item "c" "logs", item "b" "audit"] s
    (first.1 = .ok () ∧ (first.1 = .ok () ↔ second.1 = .ok ())) ∧
      (first.2.listed t).map Endpoint.name = ["b", "c"] ∧
      ∀ u, first.2.endpoints u = second.2.endpoints u := by
  intro t s item first second
  have hreach : s.Reachable := .seed t _ (.seed t _ .empty)
  have hfirst : first.1 = .ok () := by rfl
  have hnames : (first.2.listed t).map Endpoint.name = ["b", "c"] := by rfl
  obtain ⟨hiff, hsame⟩ := endpoints_perm hreach rfl (List.Perm.swap (item "b" "logs")
    (item "a" "logs") []) (List.Perm.swap (item "c" "logs") (item "b" "audit") [])
  exact ⟨⟨hfirst, hiff⟩, hnames, hsame hfirst⟩

end Reconcile

end LoggingProvider
