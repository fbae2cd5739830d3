import LoggingProvider.Proofs.Endpoint.Record
import LoggingProvider.Proofs.Reconcile.Partition

/-!
# What changed in a record

The record with a name is found in a keyed set of records, and what changed in a record against it
is told member by member: a member that is the same is left out, a new or different one is there
with its value, and one that is gone is null.

## Main results

* `Reconcile.value?_changedMembers`: what changed, member by member
* `Reconcile.beq_of_changedMembers_eq_nil`: objects without changed members are the same
* `Reconcile.patch_eq`: the patch of a record against a keyed set with a record of its name
-/

namespace LoggingProvider

namespace Reconcile

open Dict

/-- The record with a name is found in a keyed set. -/
theorem findNamed_eq {old : List Json} (h : byName.Keyed old) {o : Json} (ho : o ∈ old)
    {n : String} (hn : nameOf o = .ok n) : findNamed n old = .ok o := by
  induction old with
  | nil => cases ho
  | cons r rest ih =>
    obtain ⟨m, hm⟩ : ∃ m, nameOf r = .ok m := h.key r List.mem_cons_self
    unfold findNamed
    rw [hm]
    by_cases hmn : m = n
    · subst hmn
      rw [h.eq_of_key_eq List.mem_cons_self ho (hm.trans hn.symm)]
      simp
    · have hrest : byName.Keyed rest :=
        ⟨fun s hs => h.key s (List.mem_cons_of_mem _ hs), (List.nodup_cons.1 h.nodup).2⟩
      rcases List.mem_cons.1 ho with rfl | hmem
      · exact absurd (Except.ok.inj (hm.symm.trans hn)) hmn
      · simpa [hmn] using ih hrest hmem

/-- Two keyed sets with the same records, in any order, differ in no part. -/
theorem exists_diff_of_perm {old new : List Json} (h : byName.Keyed old) (hp : old.Perm new) :
    ∃ p, byName.diff old new = .ok p ∧ p.deleted = [] ∧ p.added = [] ∧ p.modified = [] := by
  obtain ⟨p, hdiff⟩ := Keying.exists_diff_iff.2 ⟨h, h.perm hp⟩
  refine ⟨p, hdiff, ?_, ?_, ?_⟩
  · refine List.eq_nil_iff_forall_not_mem.2 fun r hr => ?_
    obtain ⟨hr, hfree⟩ := (Keying.mem_deleted_iff hdiff).1 hr
    exact hfree r (hp.mem_iff.1 hr) rfl
  · refine List.eq_nil_iff_forall_not_mem.2 fun r hr => ?_
    obtain ⟨hr, hfree⟩ := (Keying.mem_added_iff hdiff).1 hr
    exact hfree r (hp.mem_iff.2 hr) rfl
  · refine List.eq_nil_iff_forall_not_mem.2 fun r hr => ?_
    obtain ⟨hr, o, ho, hor, hne⟩ := (Keying.mem_modified_iff hdiff).1 hr
    rw [h.eq_of_key_eq ho (hp.mem_iff.2 hr) hor, Json.beq_refl] at hne
    cases hne

/-- **What changed, member by member.** -/
theorem value?_changedMembers {o d : Dict Json} (ho : Dict.Ordered o) (hd : Dict.Ordered d)
    (n : String) : value? (changedMembers o d) n =
      match value? d n with
      | some v => if (value? o n).any (· == v) then none else some v
      | none => (value? o n).map fun _ => .null := by
  have hnodup : ((o.filter fun e => !hasName d e.1).map Prod.fst).Nodup :=
    (ho.filter _).nodup_names
  have hgone : value? (o.filter fun e => !hasName d e.1) n =
      if (value? d n).isSome then none else value? o n := by
    rw [value?_filter ho]
    by_cases hn : (value? d n).isSome
    · cases value? o n <;> simp [hasName, hn]
    · cases value? o n <;> simp [hasName, hn]
  unfold changedMembers
  rw [value?_foldl_put Prod.fst (fun _ => Json.null) _ _ hnodup, find?_name, hgone,
    value?_filter hd, Option.map_map]
  cases value? d n with
  | some v =>
    by_cases hsame : (value? o n).any (· == v)
    · simp [Option.filter, hsame]
    · simp [Option.filter, hsame]
  | none =>
    rw [Option.filter_none, Option.or_none]
    rfl

/-- **Objects without changed members** are the same. -/
theorem beq_of_changedMembers_eq_nil {o d : Dict Json} (ho : Dict.Ordered o)
    (hd : Dict.Ordered d) (h : changedMembers o d = []) : (Json.object o == .object d) = true := by
  have hkept : ∀ n v, value? d n = some v → (value? o n).any (· == v) := by
    intro n v hv
    have hn := value?_changedMembers ho hd n
    by_contra hne
    rw [h, hv] at hn
    simp [hne] at hn
  have hgone : ∀ n, value? d n = none → value? o n = none := by
    intro n hv
    have hn := value?_changedMembers ho hd n
    rw [h, hv] at hn
    exact Option.map_eq_none_iff.1 hn.symm
  -- So the new object has the names of the old one, in the same order.
  let value : String → Json := fun n => (value? d n).getD .null
  have hd' : d = o.map fun e => (e.1, value e.1) := by
    refine hd.ext (List.pairwise_map.2 ho) fun n => ?_
    rw [value?_map_name o value]
    cases hv : value? d n with
    | none => rw [hgone n hv, Option.map_none]
    | some v =>
      obtain ⟨w, hw, -⟩ := (Option.any_eq_true _ _).1 (hkept n v hv)
      simp [hw, value, hv]
  have hsame : Json.sameMembers o (o.map fun e => (e.1, value e.1)) := by
    refine Json.sameMembers_map fun e he => ?_
    have hw : value? o e.1 = some e.2 := ho.mem_iff.1 he
    cases hv : value? d e.1 with
    | none =>
      rw [hgone _ hv] at hw
      cases hw
    | some v => simpa [hw, value, hv] using hkept _ v hv
  rw [← hd'] at hsame
  exact hsame

/-- The patch of a record against a keyed set with a record of its name. -/
theorem patch_eq {old : List Json} (h : byName.Keyed old) {o r : Json} (ho : o ∈ old) {n : String}
    (hon : nameOf o = .ok n) (hn : nameOf r = .ok n) :
    patch r old = .ok (changedMembers (o.members?.getD []) (r.members?.getD [])) := by
  unfold patch
  rw [hn]
  simp only
  rw [findNamed_eq h ho hon]

end Reconcile

end LoggingProvider
