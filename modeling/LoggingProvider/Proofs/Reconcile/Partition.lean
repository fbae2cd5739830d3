import LoggingProvider.Reconcile.Partition
import Mathlib.Data.List.Nodup

/-!
# What a difference holds

Two sets can be compared when each is keyed: every record has a key, and no two records of one set
have the same. The parts of their difference are then told by the keys alone, apart from the
comparison of the two records of one key.

## Main definitions

* `Keying.Keyed`: every record of a set has a key, and no two have the same

## Main results

* `Keying.exists_diff_iff`: two sets can be compared exactly when both are keyed
* `Keying.parts_eq`: the parts of a difference, as filters over the two sets
* `Keying.mem_added_iff`, `Keying.mem_deleted_iff`, `Keying.mem_modified_iff`,
  `Keying.mem_unchanged_iff`: the records of the parts
-/

namespace LoggingProvider

namespace Reconcile

namespace Keying

variable {α κ : Type} [DecidableEq κ] {how : Keying α κ}

/-- **A keyed set**: every record has a key, and no two have the same. -/
structure Keyed (how : Keying α κ) (records : List α) : Prop where
  key : ∀ r ∈ records, ∃ k, how.key r = .ok k
  nodup : (records.map how.key).Nodup

omit [DecidableEq κ] in
/-- Records whose keys are given and distinct. -/
theorem keyed_of_map_key {records : List α} {keys : List κ}
    (h : records.map how.key = keys.map .ok) (hkeys : keys.Nodup) : how.Keyed records := by
  constructor
  · intro r hr
    have hmem : how.key r ∈ keys.map .ok := h ▸ List.mem_map_of_mem hr
    obtain ⟨k, -, hk⟩ := List.mem_map.1 hmem
    exact ⟨k, hk.symm⟩
  · rw [h]
    exact hkeys.map fun _ _ => Except.ok.inj

omit [DecidableEq κ] in
theorem keyed_nil : how.Keyed [] := ⟨by simp, List.nodup_nil⟩

omit [DecidableEq κ] in
theorem Keyed.perm {records others : List α} (h : how.Keyed records)
    (hp : records.Perm others) : how.Keyed others where
  key r hr := h.key r (hp.mem_iff.2 hr)
  nodup := (hp.map how.key).nodup_iff.1 h.nodup

omit [DecidableEq κ] in
/-- Of a keyed set, two records with the same key are the same. -/
theorem Keyed.eq_of_key_eq {records : List α} (h : how.Keyed records) {r s : α}
    (hr : r ∈ records) (hs : s ∈ records) (hk : how.key r = how.key s) : r = s :=
  List.inj_on_of_nodup_map h.nodup hr hs hk

omit [DecidableEq κ] in
theorem Keyed.nodup_records {records : List α} (h : how.Keyed records) : records.Nodup :=
  List.Nodup.of_map how.key h.nodup

/-! ## Indexes -/

theorem mem_index_iff {side : Side} {records : List α} {entries : List (κ × α)}
    (h : how.index side records = .ok entries) {k : κ} {r : α} :
    (k, r) ∈ entries ↔ r ∈ records ∧ how.key r = .ok k := by
  obtain ⟨hsnd, hkey, -⟩ := (how.index_eq_ok_iff side records entries).1 h
  constructor
  · intro he
    exact ⟨hsnd ▸ List.mem_map.2 ⟨_, he, rfl⟩, hkey _ he⟩
  · rintro ⟨hr, hk⟩
    rw [← hsnd] at hr
    obtain ⟨⟨k', r'⟩, he, rfl⟩ := List.mem_map.1 hr
    obtain rfl : k' = k := Except.ok.inj ((hkey _ he).symm.trans hk)
    exact he

omit [DecidableEq κ] in
theorem map_key_entries {entries : List (κ × α)} (h : ∀ e ∈ entries, how.key e.2 = .ok e.1) :
    (entries.map Prod.snd).map how.key = (entries.map Prod.fst).map Except.ok := by
  rw [List.map_map, List.map_map]
  exact List.map_congr_left h

omit [DecidableEq κ] in
/-- Records that all have a key have entries, though two may have the same key. -/
theorem exists_entries {records : List α} (h : ∀ r ∈ records, ∃ k, how.key r = .ok k) :
    ∃ entries : List (κ × α), entries.map Prod.snd = records ∧
      ∀ e ∈ entries, how.key e.2 = .ok e.1 := by
  induction records with
  | nil => exact ⟨[], rfl, by simp⟩
  | cons r rest ih =>
    obtain ⟨k, hk⟩ := h r List.mem_cons_self
    obtain ⟨more, hsnd, hmore⟩ := ih fun s hs => h s (List.mem_cons_of_mem _ hs)
    exact ⟨(k, r) :: more, by rw [List.map_cons, hsnd], List.forall_mem_cons.2 ⟨hk, hmore⟩⟩

/-- A set has an index exactly when it is keyed. -/
theorem exists_index_iff {side : Side} {records : List α} :
    (∃ entries, how.index side records = .ok entries) ↔ how.Keyed records := by
  constructor
  · rintro ⟨entries, h⟩
    obtain ⟨rfl, hkey, hnodup⟩ := (how.index_eq_ok_iff side records entries).1 h
    refine ⟨fun r hr => ?_, ?_⟩
    · obtain ⟨e, he, rfl⟩ := List.mem_map.1 hr
      exact ⟨_, hkey e he⟩
    · rw [map_key_entries hkey]
      exact hnodup.map fun _ _ => Except.ok.inj
  · rintro ⟨hkeys, hnodup⟩
    obtain ⟨entries, rfl, hkey⟩ := exists_entries hkeys
    rw [map_key_entries hkey] at hnodup
    exact ⟨entries, (how.index_eq_ok_iff _ _ _).2 ⟨rfl, hkey, hnodup.of_map⟩⟩

theorem lookup_eq_none_iff {entries : List (κ × α)} {k : κ} :
    lookup entries k = none ↔ ∀ r, (k, r) ∉ entries := by
  induction entries with
  | nil => simp [lookup]
  | cons e rest ih =>
    obtain ⟨k', r'⟩ := e
    unfold lookup
    by_cases hk : k' = k
    · subst hk
      simp only [if_true, reduceCtorEq, false_iff, not_forall, not_not]
      exact ⟨r', List.mem_cons_self⟩
    · rw [if_neg hk, ih]
      refine forall_congr' fun r => not_congr ?_
      rw [List.mem_cons, Prod.mk.injEq]
      exact (or_iff_right fun h => hk h.1.symm).symm

theorem mem_of_lookup {entries : List (κ × α)} {k : κ} {r : α} (h : lookup entries k = some r) :
    (k, r) ∈ entries := by
  induction entries with
  | nil => cases h
  | cons e rest ih =>
    obtain ⟨k', r'⟩ := e
    unfold lookup at h
    split at h
    · next hk =>
      obtain rfl := Option.some.inj h
      exact hk ▸ List.mem_cons_self
    · exact List.mem_cons_of_mem _ (ih h)

/-- No record of an indexed set has the key of another one exactly when looking it up fails. -/
theorem lookup_index_eq_none_iff {side : Side} {records : List α} {entries : List (κ × α)}
    (h : how.index side records = .ok entries) {k : κ} {r : α} (hk : how.key r = .ok k) :
    lookup entries k = none ↔ ∀ s ∈ records, how.key s ≠ how.key r := by
  rw [lookup_eq_none_iff, hk]
  exact forall_congr' fun s => by rw [mem_index_iff h, not_and]

/-- The record of an indexed set with a key is what looking the key up finds. -/
theorem lookup_index_eq_some_iff {side : Side} {records : List α} {entries : List (κ × α)}
    (h : how.index side records = .ok entries) {k : κ} {r : α} :
    lookup entries k = some r ↔ r ∈ records ∧ how.key r = .ok k := by
  constructor
  · exact fun hr => (mem_index_iff h).1 (mem_of_lookup hr)
  · rintro ⟨hr, hk⟩
    cases hlook : lookup entries k with
    | none => exact absurd rfl ((lookup_index_eq_none_iff h hk).1 hlook r hr)
    | some s =>
      obtain ⟨hs, hsk⟩ := (mem_index_iff h).1 (mem_of_lookup hlook)
      rw [(exists_index_iff.1 ⟨_, h⟩).eq_of_key_eq hs hr (hsk.trans hk.symm)]

/-- Entries that are chosen by their records are those of the chosen records. -/
theorem map_snd_filter {side : Side} {records : List α} {entries : List (κ × α)}
    (h : how.index side records = .ok entries) {c : κ × α → Bool} {d : α → Bool}
    (hcd : ∀ k r, how.key r = .ok k → c (k, r) = d r) :
    (entries.filter c).map Prod.snd = records.filter d := by
  have hcongr : entries.filter c = entries.filter fun e => d e.2 := by
    refine List.filter_congr fun e he => ?_
    exact hcd e.1 e.2 ((mem_index_iff h).1 he).2
  rw [hcongr, ← ((how.index_eq_ok_iff _ _ _).1 h).1, List.filter_map]
  rfl

/-! ## The parts of a difference -/

variable [BEq α] {old new : List α} {p : Partition α}

theorem diff_eq_ok_iff : how.diff old new = .ok p ↔
    ∃ olds news, how.index .old old = .ok olds ∧ how.index .new new = .ok news ∧
      p = partition olds news := by
  unfold diff
  cases how.index .old old with
  | error fault => simp
  | ok olds =>
    cases how.index .new new with
    | error fault => simp
    | ok news => simp [eq_comm]

/-- **Two sets can be compared exactly when both are keyed.** -/
theorem exists_diff_iff : (∃ p, how.diff old new = .ok p) ↔ how.Keyed old ∧ how.Keyed new := by
  have hold : (∃ olds, how.index .old old = .ok olds) ↔ how.Keyed old := exists_index_iff
  have hnew : (∃ news, how.index .new new = .ok news) ↔ how.Keyed new := exists_index_iff
  rw [← hold, ← hnew]
  simp only [diff_eq_ok_iff]
  constructor
  · rintro ⟨p, olds, news, ho, hn, -⟩
    exact ⟨⟨olds, ho⟩, news, hn⟩
  · rintro ⟨⟨olds, ho⟩, news, hn⟩
    exact ⟨_, olds, news, ho, hn, rfl⟩

/-- **The parts of a difference**, as filters over the two sets. -/
theorem parts_eq (h : how.diff old new = .ok p) :
    p.added = new.filter (fun r => ∀ o ∈ old, how.key o ≠ how.key r) ∧
      p.modified = new.filter (fun r => ∃ o ∈ old, how.key o = how.key r ∧ (o == r) = false) ∧
      p.unchanged = new.filter (fun r => ∃ o ∈ old, how.key o = how.key r ∧ (o == r) = true) ∧
      p.deleted = old.filter (fun o => ∀ r ∈ new, how.key r ≠ how.key o) := by
  obtain ⟨olds, news, ho, hn, rfl⟩ := diff_eq_ok_iff.1 h
  -- A record that looking its key up finds is one of the old set with the key.
  have hany : ∀ {k r} (c : α → Bool), how.key r = .ok k →
      ((lookup olds k).any c = true ↔ ∃ o ∈ old, how.key o = how.key r ∧ c o = true) := by
    intro k r c hk
    rw [Option.any_eq_true, hk]
    simp only [lookup_index_eq_some_iff ho, and_assoc]
  have hnone : ∀ {side' : Side} {others : List α} {entries : List (κ × α)},
      how.index side' others = .ok entries → ∀ {k r}, how.key r = .ok k →
        (lookup entries k).isNone = decide (∀ s ∈ others, how.key s ≠ how.key r) := by
    intro side' others entries hindex k r hk
    rw [Bool.eq_iff_iff, Option.isNone_iff_eq_none, decide_eq_true_iff]
    exact lookup_index_eq_none_iff hindex hk
  refine ⟨?_, ?_, ?_, ?_⟩
  · exact map_snd_filter hn fun k r hk => hnone ho hk
  · refine map_snd_filter hn fun k r hk => ?_
    rw [Bool.eq_iff_iff, decide_eq_true_iff]
    simpa using hany (fun o => !(o == r)) hk
  · refine map_snd_filter hn fun k r hk => ?_
    rw [Bool.eq_iff_iff, decide_eq_true_iff]
    exact hany (fun o => o == r) hk
  · exact map_snd_filter ho fun k r hk => hnone hn hk

/-- **The added records**: those of the new set with a key that the old set does not have. -/
theorem mem_added_iff (h : how.diff old new = .ok p) {r : α} :
    r ∈ p.added ↔ r ∈ new ∧ ∀ o ∈ old, how.key o ≠ how.key r := by
  rw [(parts_eq h).1, List.mem_filter, decide_eq_true_iff]

/-- **The deleted records**: those of the old set with a key that the new set does not have. -/
theorem mem_deleted_iff (h : how.diff old new = .ok p) {r : α} :
    r ∈ p.deleted ↔ r ∈ old ∧ ∀ s ∈ new, how.key s ≠ how.key r := by
  rw [(parts_eq h).2.2.2, List.mem_filter, decide_eq_true_iff]

/-- **The modified records**: those of the new set that differ from the old record of their key. -/
theorem mem_modified_iff (h : how.diff old new = .ok p) {r : α} :
    r ∈ p.modified ↔ r ∈ new ∧ ∃ o ∈ old, how.key o = how.key r ∧ (o == r) = false := by
  rw [(parts_eq h).2.1, List.mem_filter, decide_eq_true_iff]

/-- **The unchanged records**: those of the new set that equal the old record of their key. -/
theorem mem_unchanged_iff (h : how.diff old new = .ok p) {r : α} :
    r ∈ p.unchanged ↔ r ∈ new ∧ ∃ o ∈ old, how.key o = how.key r ∧ (o == r) = true := by
  rw [(parts_eq h).2.2.1, List.mem_filter, decide_eq_true_iff]

/-- Against no records, all those of a keyed set are added. -/
theorem diff_nil (h : how.Keyed new) : how.diff [] new = .ok ⟨new, [], [], []⟩ := by
  obtain ⟨p, hp⟩ : ∃ p, how.diff [] new = .ok p := exists_diff_iff.2 ⟨keyed_nil, h⟩
  have hpartition : p = ⟨new, [], [], []⟩ := by
    obtain ⟨hadded, hmodified, hunchanged, hdeleted⟩ := parts_eq hp
    obtain ⟨added, deleted, modified, unchanged⟩ := p
    simp_all
  rw [hp, hpartition]

/-- Against no new records, all those of a keyed set are deleted. -/
theorem diff_nil_right (h : how.Keyed old) : how.diff old [] = .ok ⟨[], old, [], []⟩ := by
  obtain ⟨p, hp⟩ : ∃ p, how.diff old [] = .ok p := exists_diff_iff.2 ⟨h, keyed_nil⟩
  have hpartition : p = ⟨[], old, [], []⟩ := by
    obtain ⟨hadded, hmodified, hunchanged, hdeleted⟩ := parts_eq hp
    obtain ⟨added, deleted, modified, unchanged⟩ := p
    simp_all
  rw [hp, hpartition]

theorem deleted_sublist (h : how.diff old new = .ok p) : p.deleted.Sublist old := by
  rw [(parts_eq h).2.2.2]
  exact List.filter_sublist

end Keying

end Reconcile

end LoggingProvider
