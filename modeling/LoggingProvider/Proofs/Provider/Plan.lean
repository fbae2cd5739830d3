import LoggingProvider.Proofs.Endpoint.Request
import LoggingProvider.Proofs.Provider.State

/-!
# Plans and their changes

A plan can be made when the names of the records are distinct on both sides. It has no changes when
the attributes are the same and both sides have the same records, in any order. Conversely, where a
plan has no changes, each record on one side has the members of the record with its name on the
other.

## Main results

* `State.exists_changes`: when the changes between two states are defined
* `State.changes_eq_nil`: two states without changes
* `State.same_of_blockChanges_eq_nil`: the records of two states without changes
* `State.plan_spec`, `State.exists_plan`, `State.plan_eq_unchanged`: plans and changes
-/

namespace LoggingProvider

namespace State

open Endpoint Reconcile

variable {kind : ServiceKind} {before after : Json} {old new : List Json} {block : String}

/-! ## Changes of records -/

/-- The changes of the members of a modified record. -/
def memberChanges (block name : String) (previous : Json) (changed : Dict Json) : List Change :=
  changed.map fun e =>
    ⟨recordPath block name ++ "." ++ e.1, present (previous.member? e.1), present (some e.2)⟩

/-- The path of a member of a record is one of the block. -/
theorem recordPath_append (name field : String) :
    recordPath block name ++ "." ++ field = recordPath block (name ++ "." ++ field) := by
  simp only [recordPath, String.append_assoc]

theorem recordChanges_eq_ok_iff {r : Json} {l : List Change} :
    recordChanges block old r = .ok l ↔ ∃ n previous changed, nameOf r = .ok n ∧
      findNamed n old = .ok previous ∧ patch r old = .ok changed ∧
      l = memberChanges block n previous changed := by
  unfold recordChanges
  simp only [Outcome.bind_eq_ok_iff, Outcome.mapError_eq_ok_iff, Outcome.pure_eq_ok_iff]
  constructor
  · rintro ⟨n, hn, previous, hprevious, changed, hchanged, hl⟩
    exact ⟨n, previous, changed, hn, hprevious, hchanged, hl⟩
  · rintro ⟨n, previous, changed, hn, hprevious, hchanged, hl⟩
    exact ⟨n, hn, previous, hprevious, changed, hchanged, hl⟩

/-- Against a keyed set with a record of its name, the changes of a record are defined. -/
theorem exists_recordChanges (hold : byName.Keyed old) {o r : Json} (ho : o ∈ old) {n : String}
    (hon : nameOf o = .ok n) (hn : nameOf r = .ok n) :
    ∃ l, recordChanges block old r = .ok l := by
  exact ⟨_, recordChanges_eq_ok_iff.2
    ⟨n, o, _, hn, findNamed_eq hold ho hon, patch_eq hold ho hon hn, rfl⟩⟩

theorem blockChanges_eq_ok_iff {l : List Change} : blockChanges before after block = .ok l ↔
    ∃ p modified, byName.diff (records before block) (records after block) = .ok p ∧
      p.modified.mapM (recordChanges block (records before block)) = .ok modified ∧
      l = p.deleted.map (fun r => .removed (recordPath block (nameD r)) r) ++
        p.added.map (fun r => .added (recordPath block (nameD r)) r) ++ modified.flatten := by
  unfold blockChanges
  simp only [Outcome.bind_eq_ok_iff, Outcome.mapError_eq_ok_iff, Outcome.pure_eq_ok_iff]
  constructor
  · rintro ⟨p, hp, modified, hm, hl⟩
    exact ⟨p, modified, hp, hm, hl⟩
  · rintro ⟨p, modified, hp, hm, hl⟩
    exact ⟨p, hp, modified, hm, hl⟩

theorem exists_blockChanges (hold : byName.Keyed (records before block))
    (hnew : byName.Keyed (records after block)) :
    ∃ l, blockChanges before after block = .ok l := by
  obtain ⟨p, hp⟩ := Keying.exists_diff_iff.2 ⟨hold, hnew⟩
  have hall : ∀ r ∈ p.modified, ∃ l, recordChanges block (records before block) r = .ok l := by
    intro r hr
    obtain ⟨hr, o, ho, hor, -⟩ := (Keying.mem_modified_iff hp).1 hr
    obtain ⟨n, hn⟩ := hnew.key r hr
    exact exists_recordChanges hold ho (hor.trans hn) hn
  obtain ⟨modified, hm⟩ := Outcome.exists_mapM hall
  exact ⟨_, blockChanges_eq_ok_iff.2 ⟨p, modified, hp, hm, rfl⟩⟩

/-- Two sides with the same records have no changes. -/
theorem blockChanges_eq_nil (hold : byName.Keyed (records before block))
    (hp : (records before block).Perm (records after block)) :
    blockChanges before after block = .ok [] := by
  obtain ⟨p, hdiff, hdeleted, hadded, hmodified⟩ := exists_diff_of_perm hold hp
  refine blockChanges_eq_ok_iff.2 ⟨p, [], hdiff, ?_, ?_⟩
  · rw [hmodified]
    rfl
  · rw [hdeleted, hadded]
    rfl

theorem keyed_of_blockChanges {l : List Change} (h : blockChanges before after block = .ok l) :
    byName.Keyed (records before block) ∧ byName.Keyed (records after block) := by
  obtain ⟨p, -, hp, -⟩ := blockChanges_eq_ok_iff.1 h
  exact Keying.exists_diff_iff.1 ⟨p, hp⟩

/-- Without changes, a record has the members of the record with its name on the other side. -/
theorem same_of_blockChanges_eq_nil (h : blockChanges before after block = .ok [])
    {o d : Dict Json} (ho : Json.object o ∈ records before block)
    (hr : Json.object d ∈ records after block) (hor : nameOf (.object o) = nameOf (.object d))
    (hfree : (Json.object o).FloatFree) (hod : Dict.Ordered o) (hd : Dict.Ordered d) {n : String}
    {v : Json} (hv : Dict.value? d n = some v) : (Dict.value? o n).any (· == v) := by
  obtain ⟨hold, hnew⟩ := keyed_of_blockChanges h
  obtain ⟨p, modified, hp, hm, hnil⟩ := blockChanges_eq_ok_iff.1 h
  by_contra hne
  obtain ⟨m, hmr⟩ : ∃ m, nameOf (.object d) = .ok m := hnew.key _ hr
  have hmodified : Json.object d ∈ p.modified := by
    refine (Keying.mem_modified_iff hp).2 ⟨hr, _, ho, hor, ?_⟩
    rw [Bool.eq_false_iff, Ne, Json.beq_eq_true_iff hfree]
    intro heq
    obtain rfl := Json.object.inj heq
    simp [hv, Json.beq_refl] at hne
  obtain ⟨l, hl⟩ : ∃ l, recordChanges block (records before block) (.object d) = .ok l :=
    exists_recordChanges hold ho (hor.trans hmr) hmr
  obtain ⟨n', previous, changed, -, -, hpatch, rfl⟩ := recordChanges_eq_ok_iff.1 hl
  have heq : patch (.object d) (records before block) = .ok (changedMembers o d) :=
    patch_eq hold ho (hor.trans hmr) hmr
  obtain rfl := Except.ok.inj (hpatch.symm.trans heq)
  have hchanged : Dict.value? (changedMembers o d) n = some v := by
    rw [value?_changedMembers hod hd, hv]
    exact if_neg hne
  have hmem := (Outcome.mem_of_mapM hm).2 ⟨_, hmodified, hl⟩
  have hflat : modified.flatten = [] := (List.append_eq_nil_iff.1 hnil.symm).2
  have hempty := List.flatten_eq_nil_iff.1 hflat _ hmem
  rw [memberChanges, List.map_eq_nil_iff] at hempty
  rw [hempty] at hchanged
  cases hchanged

/-! ## Changes of states -/

theorem changes_eq_ok_iff {l : List Change} : changes (schemaOf kind) before after = .ok l ↔
    ∃ blocks, blockChanges before after blockName = .ok blocks ∧
      l = ["id", "service_id", "version"].filterMap (attributeChange? before after) ++ blocks := by
  unfold changes
  rw [blocks_schemaOf, names_attributes_schemaOf]
  simp only [Outcome.bind_eq_ok_iff, Outcome.pure_eq_ok_iff, Outcome.mapM_eq_ok_iff, Dict.names,
    List.map_cons, List.map_nil, List.forall₂_cons_left_iff, List.forall₂_nil_left_iff]
  constructor
  · rintro ⟨_, ⟨blocks, -, hblocks, rfl, rfl⟩, hl⟩
    exact ⟨blocks, hblocks, by simpa using hl⟩
  · rintro ⟨blocks, hblocks, hl⟩
    exact ⟨[blocks], ⟨blocks, [], hblocks, rfl, rfl⟩, by simpa using hl⟩

/-- The changes between two states are defined if the names on both sides are distinct. -/
theorem exists_changes (hold : byName.Keyed (records before blockName))
    (hnew : byName.Keyed (records after blockName)) :
    ∃ l, changes (schemaOf kind) before after = .ok l := by
  obtain ⟨blocks, hblocks⟩ := exists_blockChanges hold hnew
  exact ⟨_, changes_eq_ok_iff.2 ⟨blocks, hblocks, rfl⟩⟩

theorem attributeChange?_eq_none {n : String} (h : before.member? n = after.member? n) :
    attributeChange? before after n = none := by
  unfold attributeChange?
  rw [h]
  cases present (after.member? n) with
  | none => rfl
  | some v => simp [Json.beq_refl]

/-- **Two states without changes**: the same attributes, and the same records in any order. -/
theorem changes_eq_nil
    (hattr : ∀ n ∈ ["id", "service_id", "version"], before.member? n = after.member? n)
    (hold : byName.Keyed (records before blockName))
    (hp : (records before blockName).Perm (records after blockName)) :
    changes (schemaOf kind) before after = .ok [] := by
  refine changes_eq_ok_iff.2 ⟨[], blockChanges_eq_nil hold hp, ?_⟩
  rw [List.append_nil, eq_comm, List.filterMap_eq_nil_iff]
  exact fun n hn => attributeChange?_eq_none (hattr n hn)

/-! ## Plans -/

/-- **A plan** has the normal form of the proposed state, and the changes to it. -/
theorem plan_spec {schema : Schema} {prior proposed : Json} {p : Plan}
    (h : plan schema prior proposed = .ok p) :
    p.state = planned schema proposed ∧
      changes schema prior (planned schema proposed) = .ok p.changes := by
  unfold plan at h
  simp only [Outcome.bind_eq_ok_iff] at h
  obtain ⟨found, hfound, h⟩ := h
  split at h
  · next hempty =>
    obtain rfl := Outcome.pure_eq_ok_iff.1 h
    rw [hfound, List.isEmpty_iff.1 hempty]
    exact ⟨rfl, rfl⟩
  · obtain rfl := Outcome.pure_eq_ok_iff.1 h
    exact ⟨rfl, hfound⟩

/-- **Without changes a plan is the planned state alone.** -/
theorem plan_eq_unchanged {schema : Schema} {prior proposed : Json}
    (h : changes schema prior (planned schema proposed) = .ok []) :
    plan schema prior proposed = .ok (.unchanged (planned schema proposed)) := by
  unfold plan
  simp only [h]
  rfl

/-- A plan can be made if the changes are defined. -/
theorem exists_plan {schema : Schema} {prior proposed : Json} {l : List Change}
    (h : changes schema prior (planned schema proposed) = .ok l) :
    ∃ p, plan schema prior proposed = .ok p ∧ p.state = planned schema proposed ∧
      p.changes = l := by
  have hplan : ∃ p, plan schema prior proposed = .ok p := by
    unfold plan
    simp only [Outcome.bind_eq_ok_iff]
    by_cases hempty : l.isEmpty
    · exact ⟨_, l, h, by rw [if_pos hempty]; rfl⟩
    · exact ⟨_, l, h, by rw [if_neg hempty]; rfl⟩
  obtain ⟨p, hp⟩ := hplan
  obtain ⟨hstate, hchanges⟩ := plan_spec hp
  exact ⟨p, hp, hstate, Except.ok.inj (hchanges.symm.trans h)⟩

end State

end LoggingProvider
