import LoggingProvider.Proofs.Reconcile.Partition

/-!
# Keyed set difference

Two keyed sets are compared record by record, and each part of their difference keeps the order of
the set that it is taken from. Together the parts hold every record of the new set once, and every
key of the old set once. Sets that are not keyed are not compared: the first record that spoils one
of them is reported, and the old set is looked at before the new one.

## Main definitions

* `Keying.Rejected`: a record that cannot stand after others
* `Keying.FirstRejected`: the first record of a set that cannot stand after those before it

## Main results

* `Keying.index_eq_error_iff`: why a set has no index
* `Keying.nodup_keys`: no key occurs twice among the parts
* `Keying.diff_isSetDifference`: what comparing two sets yields
-/

namespace LoggingProvider

namespace Reconcile

namespace Keying

variable {α κ : Type} [DecidableEq κ] {how : Keying α κ} {side : Side}

/-- **A record that cannot stand after others**: it has no key, or the key of one of them. -/
inductive Rejected (how : Keying α κ) (side : Side) (earlier : List α) (r : α) : DiffFault → Prop
  /-- The record has no key. -/
  | noKey {fault : DiffFault} (h : how.key r = .error fault) : Rejected how side earlier r fault
  /-- An earlier record has the key. -/
  | repeated {k : κ} {s : α} (h : how.key r = .ok k) (hs : s ∈ earlier) (hk : how.key s = .ok k) :
    Rejected how side earlier r (.duplicateKey (how.label k) side)

/-- **The first record of a set that cannot stand after those before it**, and why. -/
def FirstRejected (how : Keying α κ) (side : Side) (records : List α) (fault : DiffFault) : Prop :=
  ∃ earlier r rest, records = earlier ++ r :: rest ∧ how.Keyed earlier ∧
    how.Rejected side earlier r fault

/-! ## Keyed sets -/

omit [DecidableEq κ] in
theorem Keyed.sublist {records others : List α} (h : how.Keyed records)
    (hs : others.Sublist records) : how.Keyed others where
  key r hr := h.key r (hs.subset hr)
  nodup := h.nodup.sublist (hs.map how.key)

omit [DecidableEq κ] in
/-- A keyed set stays keyed with one more record of another key. -/
theorem Keyed.concat {records : List α} (h : how.Keyed records) {r : α} {k : κ}
    (hk : how.key r = .ok k) (hfree : ∀ s ∈ records, how.key s ≠ .ok k) :
    how.Keyed (records ++ [r]) := by
  constructor
  · intro s hs
    rcases List.mem_append.1 hs with hs | hs
    · exact h.key s hs
    · obtain rfl := List.mem_singleton.1 hs
      exact ⟨k, hk⟩
  · rw [List.map_append]
    refine h.nodup.append (List.nodup_singleton _) ?_
    intro x hx hxr
    obtain ⟨s, hs, rfl⟩ := List.mem_map.1 hx
    have hsr : how.key s = how.key r := by simpa using hxr
    exact hfree s hs (hsr.trans hk)

omit [DecidableEq κ] in
/-- The last record of a keyed set has a key of its own. -/
theorem Keyed.key_ne_of_concat {records : List α} {r s : α} (h : how.Keyed (records ++ [r]))
    (hs : s ∈ records) : how.key s ≠ how.key r := by
  have hnodup := h.nodup
  rw [List.map_append] at hnodup
  intro hsr
  refine List.disjoint_of_nodup_append hnodup (List.mem_map_of_mem hs) ?_
  rw [hsr]
  exact List.mem_cons_self

/-! ## Sets without an index -/

omit [DecidableEq κ] in
/-- The keys that were seen, with that of one more record. -/
theorem mem_cons_seen_iff {seen : List κ} {before : List α}
    (hseen : ∀ k, k ∈ seen ↔ ∃ s ∈ before, how.key s = .ok k) {r : α} {k : κ}
    (hk : how.key r = .ok k) (l : κ) :
    l ∈ k :: seen ↔ ∃ s ∈ before ++ [r], how.key s = .ok l := by
  rw [List.mem_cons, hseen]
  constructor
  · rintro (rfl | ⟨s, hs, hl⟩)
    · exact ⟨r, by simp, hk⟩
    · exact ⟨s, List.mem_append_left _ hs, hl⟩
  · rintro ⟨s, hs, hl⟩
    rcases List.mem_append.1 hs with hs | hs
    · exact .inr ⟨s, hs, hl⟩
    · obtain rfl := List.mem_singleton.1 hs
      exact .inl (Except.ok.inj (hl.symm.trans hk))

/-- The first record of a set has no key, or a key that was seen, or it is passed over. -/
theorem indexFrom_cons_eq_error_iff {seen : List κ} {r : α} {rest : List α} {fault : DiffFault} :
    how.indexFrom side seen (r :: rest) = .error fault ↔
      how.key r = .error fault ∨ ∃ k, how.key r = .ok k ∧
        ((k ∈ seen ∧ fault = .duplicateKey (how.label k) side) ∨
          (k ∉ seen ∧ how.indexFrom side (k :: seen) rest = .error fault)) := by
  rw [indexFrom]
  cases how.key r with
  | error cause => simp
  | ok k =>
    by_cases hk : k ∈ seen
    · simp [hk, eq_comm]
    · cases hrest : how.indexFrom side (k :: seen) rest with
      | error cause => simp [hk, hrest]
      | ok more => simp [hk, hrest]

/-- Why records have no index when those of a keyed set were seen before them. -/
theorem indexFrom_eq_error_iff {seen : List κ} {before records : List α} {fault : DiffFault}
    (hbefore : how.Keyed before) (hseen : ∀ k, k ∈ seen ↔ ∃ s ∈ before, how.key s = .ok k) :
    how.indexFrom side seen records = .error fault ↔
      ∃ earlier r rest, records = earlier ++ r :: rest ∧ how.Keyed (before ++ earlier) ∧
        how.Rejected side (before ++ earlier) r fault := by
  -- Induction on the records; each one that is passed over joins those that were seen.
  induction records generalizing seen before with
  | nil => simp [indexFrom]
  | cons r rest ih =>
    rw [indexFrom_cons_eq_error_iff]
    constructor
    · rintro (hnone | ⟨k, hk, ⟨hmem, rfl⟩ | ⟨hnew, hrest⟩⟩)
      · exact ⟨[], r, rest, rfl, by simpa using hbefore, .noKey hnone⟩
      · obtain ⟨s, hs, hsk⟩ := (hseen k).1 hmem
        exact ⟨[], r, rest, rfl, by simpa using hbefore, .repeated hk (by simpa using hs) hsk⟩
      · have hfree : ∀ s ∈ before, how.key s ≠ .ok k := fun s hs hsk =>
          hnew ((hseen k).2 ⟨s, hs, hsk⟩)
        obtain ⟨earlier, q, more, rfl, hkeyed, hq⟩ :=
          (ih (hbefore.concat hk hfree) (mem_cons_seen_iff hseen hk)).1 hrest
        rw [List.append_assoc] at hkeyed hq
        exact ⟨r :: earlier, q, more, rfl, hkeyed, hq⟩
    · rintro ⟨earlier, q, more, hsplit, hkeyed, hq⟩
      cases earlier with
      | nil =>
        obtain ⟨rfl, rfl⟩ : r = q ∧ rest = more := by simpa using hsplit
        rw [List.append_nil] at hq
        cases hq with
        | noKey h => exact .inl h
        | @repeated k s h hs hk => exact .inr ⟨k, h, .inl ⟨(hseen k).2 ⟨s, hs, hk⟩, rfl⟩⟩
      | cons r' earlier =>
        obtain ⟨rfl, rfl⟩ : r = r' ∧ rest = earlier ++ q :: more := by simpa using hsplit
        rw [List.append_cons] at hkeyed hq
        have hfirst : how.Keyed (before ++ [r]) := hkeyed.sublist (List.sublist_append_left _ _)
        obtain ⟨k, hk⟩ := hfirst.key r (by simp)
        have hnew : k ∉ seen := by
          intro hmem
          obtain ⟨s, hs, hsk⟩ := (hseen k).1 hmem
          exact hfirst.key_ne_of_concat hs (hsk.trans hk.symm)
        have hrest : how.indexFrom side (k :: seen) (earlier ++ q :: more) = .error fault :=
          (ih hfirst (mem_cons_seen_iff hseen hk)).2 ⟨earlier, q, more, rfl, hkeyed, hq⟩
        exact .inr ⟨k, hk, .inr ⟨hnew, hrest⟩⟩

/-- **Why a set has no index**: its first record that cannot stand after those before it. -/
theorem index_eq_error_iff {records : List α} {fault : DiffFault} :
    how.index side records = .error fault ↔ how.FirstRejected side records fault :=
  indexFrom_eq_error_iff keyed_nil (by simp)

/-! ## The parts of a difference -/

variable [BEq α] {old new : List α} {p : Partition α}

theorem diff_eq_error_iff {fault : DiffFault} : how.diff old new = .error fault ↔
    how.FirstRejected .old old fault ∨ how.Keyed old ∧ how.FirstRejected .new new fault := by
  have hkeyed : how.Keyed old ↔ ∃ olds, how.index .old old = .ok olds := exists_index_iff.symm
  rw [← index_eq_error_iff, ← index_eq_error_iff, hkeyed]
  unfold diff
  cases how.index .old old with
  | error cause => simp
  | ok olds => cases how.index .new new <;> simp

/-- **The new set is its added, modified and unchanged records**, each of them once. -/
theorem perm_new (h : how.diff old new = .ok p) :
    (p.added ++ (p.modified ++ p.unchanged)).Perm new := by
  obtain ⟨hold, -⟩ := exists_diff_iff.1 ⟨p, h⟩
  obtain ⟨hadded, hmodified, hunchanged, -⟩ := parts_eq h
  -- The kept records are those that are not added; of these, the unchanged are not modified.
  let isAdded : α → Bool := fun r => ∀ o ∈ old, how.key o ≠ how.key r
  let isModified : α → Bool := fun r => ∃ o ∈ old, how.key o = how.key r ∧ (o == r) = false
  have hm : p.modified = (new.filter fun r => !isAdded r).filter isModified := by
    rw [hmodified, List.filter_filter]
    refine List.filter_congr fun r _ => ?_
    rw [Bool.eq_iff_iff, Bool.and_eq_true]
    simp only [isAdded, isModified, Bool.not_eq_true', decide_eq_true_iff, decide_eq_false_iff_not]
    constructor
    · rintro ⟨o, ho, hkey, hne⟩
      exact ⟨⟨o, ho, hkey, hne⟩, fun hfree => hfree o ho hkey⟩
    · exact fun hboth => hboth.1
  have hu : p.unchanged = (new.filter fun r => !isAdded r).filter fun r => !isModified r := by
    rw [hunchanged, List.filter_filter]
    refine List.filter_congr fun r _ => ?_
    rw [Bool.eq_iff_iff, Bool.and_eq_true]
    simp only [isAdded, isModified, Bool.not_eq_true', decide_eq_true_iff, decide_eq_false_iff_not]
    constructor
    · rintro ⟨o, ho, hkey, hsame⟩
      refine ⟨?_, fun hfree => hfree o ho hkey⟩
      -- The old set has one record of the key, so the record cannot differ from it as well.
      rintro ⟨o', ho', hkey', hne⟩
      rw [hold.eq_of_key_eq ho' ho (hkey'.trans hkey.symm), hsame] at hne
      cases hne
    · rintro ⟨hnot, hkept⟩
      obtain ⟨o, ho, hkey⟩ : ∃ o ∈ old, how.key o = how.key r := by simpa using hkept
      refine ⟨o, ho, hkey, ?_⟩
      by_contra hne
      exact hnot ⟨o, ho, hkey, Bool.eq_false_iff.2 hne⟩
  rw [hadded, hm, hu]
  exact ((List.filter_append_perm isModified _).append_left _).trans
    (List.filter_append_perm isAdded new)

/-- **No key occurs twice among the parts.** -/
theorem nodup_keys (h : how.diff old new = .ok p) :
    ((p.deleted ++ (p.added ++ (p.modified ++ p.unchanged))).map how.key).Nodup := by
  obtain ⟨hold, hnew⟩ := exists_diff_iff.1 ⟨p, h⟩
  have hkeys := (perm_new h).map how.key
  rw [List.map_append]
  refine (hold.nodup.sublist ((deleted_sublist h).map how.key)).append
    (hkeys.nodup_iff.2 hnew.nodup) ?_
  intro x hx hx'
  obtain ⟨o, ho, rfl⟩ := List.mem_map.1 hx
  obtain ⟨r, hr, hro⟩ := List.mem_map.1 (hkeys.mem_iff.1 hx')
  exact ((mem_deleted_iff h).1 ho).2 r hr hro

/-- **The keys of the old set are those of its deleted records and of the modified and unchanged
ones**, each of them once. -/
theorem perm_keys_old (h : how.diff old new = .ok p) :
    ((p.deleted ++ (p.modified ++ p.unchanged)).map how.key).Perm (old.map how.key) := by
  obtain ⟨hold, hnew⟩ := exists_diff_iff.1 ⟨p, h⟩
  obtain ⟨-, hmodified, hunchanged, hdeleted⟩ := parts_eq h
  have hsub : (p.deleted ++ (p.modified ++ p.unchanged)).Sublist
      (p.deleted ++ (p.added ++ (p.modified ++ p.unchanged))) :=
    (List.Sublist.refl _).append (List.sublist_append_right _ _)
  refine (List.perm_ext_iff_of_nodup ((nodup_keys h).sublist (hsub.map _)) hold.nodup).2 ?_
  intro x
  constructor
  · intro hx
    obtain ⟨r, hr, rfl⟩ := List.mem_map.1 hx
    rw [List.mem_append, List.mem_append, hmodified, hunchanged, hdeleted] at hr
    simp only [List.mem_filter, decide_eq_true_iff] at hr
    rcases hr with ⟨hr, -⟩ | ⟨-, o, ho, hkey, -⟩ | ⟨-, o, ho, hkey, -⟩
    · exact List.mem_map_of_mem hr
    · exact hkey ▸ List.mem_map_of_mem ho
    · exact hkey ▸ List.mem_map_of_mem ho
  · intro hx
    obtain ⟨o, ho, rfl⟩ := List.mem_map.1 hx
    by_cases hkept : ∃ r ∈ new, how.key r = how.key o
    · obtain ⟨r, hr, hkey⟩ := hkept
      rw [← hkey]
      refine List.mem_map_of_mem (List.mem_append_right _ ?_)
      have hmem := (perm_new h).mem_iff.2 hr
      refine (List.mem_append.1 hmem).resolve_left fun hadded => ?_
      exact ((mem_added_iff h).1 hadded).2 o ho hkey.symm
    · refine List.mem_map_of_mem (List.mem_append_left _ ((mem_deleted_iff h).2 ⟨ho, ?_⟩))
      exact fun r hr hkey => hkept ⟨r, hr, hkey⟩

/-- **Comparing two sets yields their keyed difference.** When both sets are keyed, the parts are
the records that their names say, in the order of their sets. As no key occurs twice among them,
every record of the new set lies in exactly one part, and so does every key of the old set. When one
of the sets is not keyed, the fault is that of the first record that is rejected, in the old set or
else in the new one. -/
theorem diff_isSetDifference (how : Keying α κ) (old new : List α) :
    (how.Keyed old ∧ how.Keyed new → ∃ p, how.diff old new = .ok p ∧
      p.added = new.filter (fun r => ∀ o ∈ old, how.key o ≠ how.key r) ∧
      p.modified = new.filter (fun r => ∃ o ∈ old, how.key o = how.key r ∧ (o == r) = false) ∧
      p.unchanged = new.filter (fun r => ∃ o ∈ old, how.key o = how.key r ∧ (o == r) = true) ∧
      p.deleted = old.filter (fun o => ∀ r ∈ new, how.key r ≠ how.key o) ∧
      (p.added ++ (p.modified ++ p.unchanged)).Perm new ∧
      ((p.deleted ++ (p.modified ++ p.unchanged)).map how.key).Perm (old.map how.key) ∧
      ((p.deleted ++ (p.added ++ (p.modified ++ p.unchanged))).map how.key).Nodup) ∧
    (¬(how.Keyed old ∧ how.Keyed new) → ∃ fault, how.diff old new = .error fault) ∧
    ∀ fault, how.diff old new = .error fault ↔
      how.FirstRejected .old old fault ∨ how.Keyed old ∧ how.FirstRejected .new new fault := by
  refine ⟨?_, ?_, fun fault => diff_eq_error_iff⟩
  · intro hkeyed
    obtain ⟨p, hp⟩ : ∃ p, how.diff old new = .ok p := exists_diff_iff.2 hkeyed
    obtain ⟨hadded, hmodified, hunchanged, hdeleted⟩ := parts_eq hp
    exact ⟨p, hp, hadded, hmodified, hunchanged, hdeleted, perm_new hp, perm_keys_old hp,
      nodup_keys hp⟩
  · intro hkeyed
    cases hdiff : how.diff old new with
    | error fault => exact ⟨fault, rfl⟩
    | ok p => exact absurd (exists_diff_iff.1 ⟨p, hdiff⟩) hkeyed

/-- Pairs of numbers identified by the first one, which must not be zero. -/
def byFirst : Keying (Nat × Nat) Nat :=
  ⟨fun r => if r.1 = 0 then .error (.noKey "zero") else .ok r.1, toString⟩

/-- Two sets with a record of each fate, and a set in which a key occurs twice before a record
without a key. -/
theorem diff_isSetDifference_of_pairs :
    (∃ p, byFirst.diff [(1, 10), (2, 20), (3, 30)] [(4, 40), (2, 21), (1, 10)] = .ok p ∧
      p.added = [(4, 40)] ∧ p.modified = [(2, 21)] ∧ p.unchanged = [(1, 10)] ∧
      p.deleted = [(3, 30)]) ∧
    byFirst.diff [(1, 10)] [(2, 20), (2, 21), (0, 0)] = .error (.duplicateKey "2" .new) := by
  have hold : byFirst.Keyed [(1, 10), (2, 20), (3, 30)] := ⟨by simp [byFirst], by decide⟩
  have hnew : byFirst.Keyed [(4, 40), (2, 21), (1, 10)] := ⟨by simp [byFirst], by decide⟩
  constructor
  · obtain ⟨p, hp, hadded, hmodified, hunchanged, hdeleted, -⟩ :=
      (diff_isSetDifference byFirst _ _).1 ⟨hold, hnew⟩
    exact ⟨p, hp, hadded, hmodified, hunchanged, hdeleted⟩
  · have hone : byFirst.Keyed [(1, 10)] := ⟨by simp [byFirst], by decide⟩
    have htwo : byFirst.Keyed [(2, 20)] := ⟨by simp [byFirst], by decide⟩
    have hrepeated : byFirst.Rejected .new [(2, 20)] (2, 21) (.duplicateKey "2" .new) :=
      .repeated (k := 2) (s := (2, 20)) rfl (by simp) rfl
    exact ((diff_isSetDifference byFirst _ _).2.2 _).2
      (.inr ⟨hone, [(2, 20)], (2, 21), [(0, 0)], rfl, htwo, hrepeated⟩)

end Keying

end Reconcile

end LoggingProvider
