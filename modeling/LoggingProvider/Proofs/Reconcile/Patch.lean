import LoggingProvider.Proofs.Reconcile.Order
import LoggingProvider.Proofs.Reconcile.Sameness

/-!
# Patches

What changed in a record is sent as a patch of the record that is stored: a member of the patch
takes the place of the member of its name, and null takes it away. A patch is right if it leads from
the old record to the new one and is the least that does, as the request for a modified record is
built from the patch alone.

Null is a value of a member as well as the sign that one is gone, so a new record in which a member
is null cannot be told from one without it, and the overlay is that of records without null members.
That nothing can be left out of a patch holds of all records.

## Main definitions

* `Reconcile.overlay`: the members of an object under a patch
* `Reconcile.IsPatch`: a map is the least patch from an old record to a new one

## Main results

* `Reconcile.value?_overlay`: a patched object, member by member
* `Reconcile.isPatch_changedMembers`: the changed members are the least patch
* `Reconcile.patch_minimal`: patches against a keyed set, and how they agree with its difference
-/

namespace LoggingProvider

namespace Reconcile

open Dict

/-- **The members of an object under a patch**: null takes a member away. -/
def overlay (members changed : Dict Json) : Dict Json :=
  changed.foldl (fun d e => if e.2.isNull then Dict.remove e.1 d else Dict.put e.1 e.2 d) members

/-- **The least patch** from an old record to a new one. -/
structure IsPatch (old new : Json) (changed : Dict Json) : Prop where
  ordered : Dict.Ordered changed
  /-- The patch has exactly the members that the records do not hold alike, with their new values;
  one that only the old record has is null. -/
  mem_iff : ∀ n v, (n, v) ∈ changed ↔
    (old.member? n == new.member? n) = false ∧ v = new.memberD n
  name : value? changed "name" = none
  eq_nil_iff : changed = [] ↔ (old == new) = true
  /-- The patch leads from the old record to the new one. -/
  overlay : (∀ n, new.member? n ≠ some .null) →
    (.object (overlay (old.members?.getD []) changed) == new) = true
  /-- No proper part of the patch does. -/
  minimal : ∀ part, Dict.Ordered part → part ⊆ changed →
    (.object (Reconcile.overlay (old.members?.getD []) part) == new) = true → part = changed

/-! ## Patched objects -/

variable {o d changed : Dict Json}

theorem ordered_overlay (ho : Dict.Ordered o) (changed : Dict Json) :
    Dict.Ordered (overlay o changed) := by
  induction changed generalizing o with
  | nil => exact ho
  | cons e rest ih =>
    apply ih
    simp only
    split
    · exact ordered_remove ho e.1
    · exact ordered_put ho e.1 e.2

/-- **A patched object, member by member**: what the patch does not name stays as it is. -/
theorem value?_overlay (hc : Dict.Ordered changed) (o : Dict Json) (n : String) :
    value? (overlay o changed) n =
      match value? changed n with
      | some v => if v.isNull then none else some v
      | none => value? o n := by
  induction changed generalizing o with
  | nil => rfl
  | cons e rest ih =>
    obtain ⟨m, v⟩ := e
    have hrest : Dict.Ordered rest := (List.pairwise_cons.1 hc).2
    rw [value?_cons]
    change value? (overlay (if v.isNull then Dict.remove m o else Dict.put m v o) rest) n = _
    rw [ih hrest]
    by_cases hm : m = n
    · subst hm
      -- The names of a patch are distinct, so nothing after the first member touches its name.
      have hfresh : value? rest m = none := by
        apply value?_eq_none_iff.2
        intro e he
        exact (String.ne_of_lt ((List.pairwise_cons.1 hc).1 e he)).symm
      rw [if_pos rfl, hfresh]
      cases hv : v.isNull <;> simp [value?_put, value?_remove, hv]
    · rw [if_neg hm]
      cases value? rest n with
      | some w => rfl
      | none => cases v.isNull <;> simp [value?_put, value?_remove, hm]

/-- The changed members of an object lead to the new one, if this has no null member. -/
theorem overlay_changedMembers (ho : Dict.Ordered o) (hd : Dict.Ordered d)
    (hnull : ∀ n, value? d n ≠ some .null) :
    (Json.object (overlay o (changedMembers o d)) == .object d) = true := by
  apply (beq_object_iff (ordered_overlay ho _) hd).2
  intro n
  rw [value?_overlay (ordered_changedMembers hd), value?_changedMembers ho hd]
  cases hn : value? d n with
  | none =>
    cases value? o n <;> rfl
  | some w =>
    have hw : w.isNull = false := by
      cases w with
      | null => exact absurd hn (hnull n)
      | _ => rfl
    cases hu : value? o n with
    | none => simp [hw, Json.beq_refl]
    | some u =>
      by_cases huw : (u == w) = true
      · simp [huw]
      · simp [huw, hw, Json.beq_refl]

/-- A part of the changed members that leads to the new object has all of them. -/
theorem eq_changedMembers_of_overlay (ho : Dict.Ordered o) (hd : Dict.Ordered d)
    {part : Dict Json} (hp : Dict.Ordered part) (hsub : part ⊆ changedMembers o d)
    (h : (Json.object (overlay o part) == .object d) = true) : part = changedMembers o d := by
  have hc : Dict.Ordered (changedMembers o d) := ordered_changedMembers hd
  -- A member that is left out stays as it was, though it should have changed.
  have hfull : changedMembers o d ⊆ part := by
    rintro ⟨n, v⟩ hmem
    by_contra hout
    have hleft : value? part n = none := by
      cases hn : value? part n with
      | none => rfl
      | some w =>
        have hw : (n, w) ∈ changedMembers o d := hsub (hp.mem_iff.2 hn)
        have hvw : v = w := by
          have hv := hc.mem_iff.1 hmem
          rw [hc.mem_iff.1 hw] at hv
          exact (Option.some.inj hv).symm
        exact absurd (hp.mem_iff.2 (hvw ▸ hn)) hout
    have hsame := (beq_object_iff (ordered_overlay ho part) hd).1 h n
    rw [value?_overlay hp, hleft] at hsame
    have hne := ((mem_changedMembers_iff ho hd).1 hmem).1
    rw [hne] at hsame
    cases hsame
  apply hp.ext hc
  intro n
  apply Option.ext
  intro v
  rw [← hp.mem_iff, ← hc.mem_iff]
  exact ⟨fun hv => hsub hv, fun hv => hfull hv⟩

/-- **The changed members are the least patch** between two records of one name. -/
theorem isPatch_changedMembers (ho : Dict.Ordered o) (hd : Dict.Ordered d)
    (hname : (value? o "name" == value? d "name") = true) :
    IsPatch (.object o) (.object d) (changedMembers o d) where
  ordered := ordered_changedMembers hd
  mem_iff n v := mem_changedMembers_iff ho hd
  name := by
    cases h : value? (changedMembers o d) "name" with
    | none => rfl
    | some v =>
      have hne := ((mem_changedMembers_iff ho hd).1 (mem_of_value? h)).1
      rw [hname] at hne
      cases hne
  eq_nil_iff := by
    constructor
    · exact beq_of_changedMembers_eq_nil ho hd
    · intro h
      apply List.eq_nil_iff_forall_not_mem.2
      rintro ⟨n, v⟩ hmem
      have hne := ((mem_changedMembers_iff ho hd).1 hmem).1
      rw [(beq_object_iff ho hd).1 h n] at hne
      cases hne
  overlay := overlay_changedMembers ho hd
  minimal part hp hsub := eq_changedMembers_of_overlay ho hd hp hsub

/-! ## Patches against a set -/

variable {old new : List Json} {o r : Json} {n : String}

/-- The patch of a record against a set with a record of its name is the least one. -/
theorem exists_isPatch (hkeyed : byName.Keyed old) (ho : o ∈ old) (hoc : o.Canonical)
    (hrc : r.Canonical) (hon : nameOf o = .ok n) (hrn : nameOf r = .ok n) :
    ∃ changed, patch r old = .ok changed ∧ IsPatch o r changed := by
  refine ⟨_, patch_eq hkeyed ho hon hrn, ?_⟩
  have hname : (o.member? "name" == r.member? "name") = true := by
    rw [Endpoint.nameOf_eq_ok_iff.1 hon, Endpoint.nameOf_eq_ok_iff.1 hrn]
    exact Json.beq_refl (.string n)
  obtain ⟨os, rfl⟩ := Endpoint.exists_object_of_nameOf hon
  obtain ⟨ds, rfl⟩ := Endpoint.exists_object_of_nameOf hrn
  exact isPatch_changedMembers hoc.1 hrc.1 hname

/-- There is no patch of a record against a set exactly when no record of the set has its name. -/
theorem patch_eq_notInOld_iff (hkeyed : byName.Keyed old) (hrn : nameOf r = .ok n) :
    patch r old = .error (.notInOld (Text.quoted n)) ↔ ∀ o ∈ old, nameOf o ≠ .ok n := by
  constructor
  · intro h o ho hon
    rw [patch_eq hkeyed ho hon hrn] at h
    cases h
  · intro hfree
    unfold patch
    rw [hrn]
    simp only [findNamed_eq_error hkeyed hfree]

/-- **Patches are minimal and agree with the difference.** Against a keyed set, a record has no
patch exactly when no record of the set has its name, and otherwise its patch is the least one from
the record of that name. So of every difference from a set, the modified records have a patch with
members, the unchanged ones an empty patch, and the added ones none. -/
theorem patch_minimal (hold : ∀ o ∈ old, o.Canonical) :
    (byName.Keyed old → ∀ r n, r.Canonical → nameOf r = .ok n →
      (patch r old = .error (.notInOld (Text.quoted n)) ↔ ∀ o ∈ old, nameOf o ≠ .ok n) ∧
      ∀ o ∈ old, nameOf o = .ok n →
        ∃ changed, patch r old = .ok changed ∧ IsPatch o r changed) ∧
    ∀ new p, (∀ r ∈ new, r.Canonical) → byName.diff old new = .ok p →
      (∀ r ∈ p.modified, ∃ changed, patch r old = .ok changed ∧ changed ≠ []) ∧
      (∀ r ∈ p.unchanged, patch r old = .ok []) ∧
      ∀ r ∈ p.added, ∃ n, nameOf r = .ok n ∧
        patch r old = .error (.notInOld (Text.quoted n)) := by
  constructor
  · intro hkeyed r n hrc hrn
    refine ⟨patch_eq_notInOld_iff hkeyed hrn, ?_⟩
    intro o ho hon
    exact exists_isPatch hkeyed ho (hold o ho) hrc hon hrn
  · intro new p hnew hdiff
    obtain ⟨hkeyed, hfresh⟩ := Keying.exists_diff_iff.1 ⟨p, hdiff⟩
    have hnamed : ∀ r ∈ new, ∃ n, nameOf r = .ok n := hfresh.key
    -- The old record of a name has the patch, and its being empty tells the two parts apart.
    have hpatch : ∀ r ∈ new, ∀ o ∈ old, nameOf o = nameOf r →
        ∃ changed, patch r old = .ok changed ∧ IsPatch o r changed := by
      intro r hr o ho hor
      obtain ⟨n, hn⟩ := hnamed r hr
      exact exists_isPatch hkeyed ho (hold o ho) (hnew r hr) (hor.trans hn) hn
    refine ⟨?_, ?_, ?_⟩
    · intro r hr
      obtain ⟨hr, o, ho, hor, hne⟩ := (Keying.mem_modified_iff hdiff).1 hr
      obtain ⟨changed, hchanged, hleast⟩ := hpatch r hr o ho hor
      refine ⟨changed, hchanged, ?_⟩
      intro hnil
      rw [hleast.eq_nil_iff.1 hnil] at hne
      cases hne
    · intro r hr
      obtain ⟨hr, o, ho, hor, hsame⟩ := (Keying.mem_unchanged_iff hdiff).1 hr
      obtain ⟨changed, hchanged, hleast⟩ := hpatch r hr o ho hor
      rw [hchanged, hleast.eq_nil_iff.2 hsame]
    · intro r hr
      obtain ⟨hr, hfree⟩ := (Keying.mem_added_iff hdiff).1 hr
      obtain ⟨n, hn⟩ := hnamed r hr
      refine ⟨n, hn, (patch_eq_notInOld_iff hkeyed hn).2 ?_⟩
      intro o ho hon
      exact hfree o ho (hon.trans hn.symm)

/-- A record that loses its password and gets another topic, one that stays and one that is new. -/
theorem patch_minimal_of_three :
    let item : String → String → Json := fun name topic =>
      .object [("name", .string name), ("topic", .string topic)]
    let stored : Json :=
      .object [("name", .string "a"), ("password", .string "tiger"), ("topic", .string "logs")]
    let old := [stored, item "b" "logs"]
    IsPatch stored (item "a" "audit") [("password", .null), ("topic", .string "audit")] ∧
      ∃ p, byName.diff old [item "a" "audit", item "b" "logs", item "c" "logs"] = .ok p ∧
        p.modified = [item "a" "audit"] ∧
        (∃ changed, patch (item "a" "audit") old = .ok changed ∧ changed ≠ []) ∧
        patch (item "b" "logs") old = .ok [] ∧
        patch (item "c" "logs") old = .error (.notInOld "\"c\"") := by
  intro item stored old
  have hitem : ∀ name topic, (item name topic).Canonical := fun name topic =>
    ⟨Dict.ordered_of_names ["name", "topic"] rfl (by decide), trivial, trivial, trivial⟩
  have hstored : stored.Canonical :=
    ⟨Dict.ordered_of_names ["name", "password", "topic"] rfl (by decide),
      trivial, trivial, trivial, trivial⟩
  have hnames : old.map byName.key = ["a", "b"].map .ok := rfl
  have hkeyed : byName.Keyed old := Keying.keyed_of_map_key hnames (by decide)
  have hold : ∀ o ∈ old, o.Canonical := by
    intro o ho
    simp only [old, List.mem_cons, List.not_mem_nil, or_false] at ho
    rcases ho with rfl | rfl
    · exact hstored
    · exact hitem _ _
  have hnew : ∀ r ∈ [item "a" "audit", item "b" "logs", item "c" "logs"], r.Canonical := by
    intro r hr
    simp only [List.mem_cons, List.not_mem_nil, or_false] at hr
    rcases hr with rfl | rfl | rfl <;> exact hitem _ _
  obtain ⟨hone, hall⟩ := patch_minimal hold
  obtain ⟨p, hp, hmodified, hunchanged, hadded⟩ :
      ∃ p, byName.diff old [item "a" "audit", item "b" "logs", item "c" "logs"] = .ok p ∧
        p.modified = [item "a" "audit"] ∧ p.unchanged = [item "b" "logs"] ∧
        p.added = [item "c" "logs"] := ⟨_, rfl, rfl, rfl, rfl⟩
  obtain ⟨hnonempty, hempty, hnone⟩ := hall _ p hnew hp
  rw [hmodified] at hnonempty
  rw [hunchanged] at hempty
  rw [hadded] at hnone
  refine ⟨?_, p, hp, hmodified, hnonempty _ List.mem_cons_self, hempty _ List.mem_cons_self, ?_⟩
  · obtain ⟨changed, hchanged, hleast⟩ :=
      (hone hkeyed (item "a" "audit") "a" (hitem _ _) rfl).2 stored List.mem_cons_self rfl
    have hpatch : patch (item "a" "audit") old =
      .ok [("password", .null), ("topic", .string "audit")] := by rfl
    obtain rfl := Except.ok.inj (hchanged.symm.trans hpatch)
    exact hleast
  · obtain ⟨n, hn, hfree⟩ := hnone _ List.mem_cons_self
    obtain rfl : "c" = n := Except.ok.inj hn
    exact hfree

end Reconcile

end LoggingProvider
