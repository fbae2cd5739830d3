import LoggingProvider.Proofs.Endpoint.Storable
import LoggingProvider.Proofs.Provider.Announced
import LoggingProvider.Proofs.Reconcile.Sameness

/-!
# What a plan reports

A plan reports every difference between the prior and the planned state: an attribute that is not
the same on both sides, a record that only one side has, and each member that two records of one
name do not hold alike. It has no changes exactly when there is no difference.

Not all that is reported is a change. Attributes that are null are left out before they are
compared, but the members of records only afterwards. A member that is null in the prior record and
absent from the planned one is reported as a change from nothing to nothing.

## Main results

* `State.mem_blockChanges_iff`: the changes of records that are reported
* `Provider.plan_misses_nothing`: every difference is reported
* `Provider.plan_changes_real_iff`: when every reported change is one
* `Provider.null_member_reported`: a member that is reported and does not change
-/

namespace LoggingProvider

open Dict Endpoint Reconcile

namespace State

variable {kind : ServiceKind} {before after : Json} {block n : String} {l : List Change}
  {change : Change}

/-! ## Attributes -/

theorem present_present (v : Option Json) : present (present v) = present v := by
  unfold present
  rw [Option.filter_filter]
  simp

/-- An attribute is reported when it is not the same on both sides, where null counts as absent. -/
theorem attributeChange?_eq : attributeChange? before after n =
    if (present (before.member? n) == present (after.member? n)) = true then none
    else some ⟨n, present (before.member? n), present (after.member? n)⟩ := by
  unfold attributeChange?
  cases present (before.member? n) with
  | none => cases present (after.member? n) <;> rfl
  | some b =>
    cases present (after.member? n) with
    | none => rfl
    | some a => rw [Option.some_beq_some]

/-! ## Records -/

/-- The members of a modified record that are reported. -/
theorem mem_memberChanges_iff {o d : Dict Json} (ho : Dict.Ordered o) (hd : Dict.Ordered d) :
    change ∈ memberChanges block n (.object o) (changedMembers o d) ↔
      ∃ m, (value? o m == value? d m) = false ∧
        change = ⟨recordPath block n ++ "." ++ m, present (value? o m), present (value? d m)⟩ := by
  have hside : ∀ v : Option Json, present (some (v.getD .null)) = present v := by
    intro v
    cases v <;> rfl
  rw [memberChanges, List.mem_map]
  constructor
  · rintro ⟨⟨m, v⟩, hmem, rfl⟩
    obtain ⟨hne, rfl⟩ := (mem_changedMembers_iff ho hd).1 hmem
    refine ⟨m, hne, ?_⟩
    rw [hside]
    rfl
  · rintro ⟨m, hne, rfl⟩
    refine ⟨(m, _), (mem_changedMembers_iff ho hd).2 ⟨hne, rfl⟩, ?_⟩
    rw [hside]
    rfl

/-- The changes of one record that both sides have. -/
theorem mem_recordChanges_iff {old : List Json} (hold : byName.Keyed old) {o r : Json}
    (ho : o ∈ old) (hon : nameOf o = .ok n) (hn : nameOf r = .ok n)
    (hordered : ∀ d, o = .object d → Dict.Ordered d)
    (hordered' : ∀ d, r = .object d → Dict.Ordered d) (h : recordChanges block old r = .ok l) :
    change ∈ l ↔ ∃ m, (o.member? m == r.member? m) = false ∧
      change = ⟨recordPath block n ++ "." ++ m, present (o.member? m), present (r.member? m)⟩ := by
  obtain ⟨n', previous, changed, hn', hprevious, hpatch, rfl⟩ := recordChanges_eq_ok_iff.1 h
  obtain rfl := Except.ok.inj (hn.symm.trans hn')
  obtain rfl := Except.ok.inj ((findNamed_eq hold ho hon).symm.trans hprevious)
  obtain rfl := Except.ok.inj ((patch_eq hold ho hon hn).symm.trans hpatch)
  obtain ⟨d, rfl⟩ := exists_object_of_nameOf hon
  obtain ⟨d', rfl⟩ := exists_object_of_nameOf hn
  exact mem_memberChanges_iff (hordered d rfl) (hordered' d' rfl)

/-- The records of a part, by name: those of its side whose name no other record has. -/
theorem mem_named_iff {parts side others : List Json} {r : Json} (hside : byName.Keyed side)
    (hparts : r ∈ parts ↔ r ∈ side ∧ ∀ q ∈ others, nameOf q ≠ nameOf r) :
    (r ∈ parts ∧ nameD r = n) ↔ r ∈ side ∧ nameOf r = .ok n ∧ ∀ q ∈ others, nameOf q ≠ .ok n := by
  rw [hparts]
  constructor
  · rintro ⟨⟨hr, hfree⟩, rfl⟩
    obtain ⟨n, hn⟩ : ∃ n, nameOf r = .ok n := hside.key r hr
    rw [hn] at hfree
    rw [Provider.nameD_eq hn]
    exact ⟨hr, hn, hfree⟩
  · rintro ⟨hr, hn, hfree⟩
    exact ⟨⟨hr, hn ▸ hfree⟩, Provider.nameD_eq hn⟩

/-- The records that only one side has are reported as a whole, at the paths of their names. -/
theorem mem_map_named_iff {parts side others : List Json} {report : String → Json → Change}
    (hside : byName.Keyed side)
    (hparts : ∀ r, r ∈ parts ↔ r ∈ side ∧ ∀ q ∈ others, nameOf q ≠ nameOf r) :
    change ∈ parts.map (fun r => report (recordPath block (nameD r)) r) ↔
      ∃ r ∈ side, ∃ n, nameOf r = .ok n ∧ (∀ q ∈ others, nameOf q ≠ .ok n) ∧
        change = report (recordPath block n) r := by
  rw [List.mem_map]
  constructor
  · rintro ⟨r, hr, rfl⟩
    obtain ⟨hr, hn, hfree⟩ := (mem_named_iff hside (hparts r)).1 ⟨hr, rfl⟩
    exact ⟨r, hr, nameD r, hn, hfree, rfl⟩
  · rintro ⟨r, hr, n, hn, hfree, rfl⟩
    obtain ⟨hr, rfl⟩ := (mem_named_iff hside (hparts r)).2 ⟨hr, hn, hfree⟩
    exact ⟨r, hr, rfl⟩

/-- The members of modified records that are reported: those of the records of one name that are
not held alike. -/
theorem mem_modified_iff {old new : List Json} {p : Partition Json}
    {modified : List (List Change)} (hold : ∀ o ∈ old, ∀ d, o = .object d → Dict.Ordered d)
    (hnew : ∀ r ∈ new, ∀ d, r = .object d → Dict.Ordered d) (hp : byName.diff old new = .ok p)
    (hm : p.modified.mapM (recordChanges block old) = .ok modified) :
    change ∈ modified.flatten ↔ ∃ o ∈ old, ∃ r ∈ new, ∃ n, nameOf o = .ok n ∧ nameOf r = .ok n ∧
      ∃ m, (o.member? m == r.member? m) = false ∧
        change = ⟨recordPath block n ++ "." ++ m, present (o.member? m), present (r.member? m)⟩ := by
  obtain ⟨hkeyed, hkeyed'⟩ := Keying.exists_diff_iff.1 ⟨p, hp⟩
  rw [List.mem_flatten]
  constructor
  · rintro ⟨l, hl, hchange⟩
    obtain ⟨r, hr, hrecord⟩ := (Outcome.mem_of_mapM hm).1 hl
    obtain ⟨hr, o, ho, hor, -⟩ := (Keying.mem_modified_iff hp).1 hr
    obtain ⟨n, hn⟩ : ∃ n, nameOf r = .ok n := hkeyed'.key r hr
    have hon : nameOf o = .ok n := hor.trans hn
    have hreported :=
      (mem_recordChanges_iff hkeyed ho hon hn (hold o ho) (hnew r hr) hrecord).1 hchange
    exact ⟨o, ho, r, hr, n, hon, hn, hreported⟩
  · rintro ⟨o, ho, r, hr, n, hon, hn, m, hne, rfl⟩
    have hrecords : (o == r) = false := by
      refine Bool.eq_false_iff.2 fun hsame => ?_
      rw [Json.member?_beq hsame m] at hne
      cases hne
    have hmodified : r ∈ p.modified :=
      (Keying.mem_modified_iff hp).2 ⟨hr, o, ho, hon.trans hn.symm, hrecords⟩
    obtain ⟨l, hrecord⟩ : ∃ l, recordChanges block old r = .ok l :=
      exists_recordChanges hkeyed ho hon hn
    refine ⟨l, (Outcome.mem_of_mapM hm).2 ⟨r, hmodified, hrecord⟩, ?_⟩
    exact (mem_recordChanges_iff hkeyed ho hon hn (hold o ho) (hnew r hr) hrecord).2 ⟨m, hne, rfl⟩

/-- **The changes of records that are reported**: the records that only the prior side has, those
that only the other side has, and the members that two records of one name do not hold alike. -/
theorem mem_blockChanges_iff
    (hold : ∀ o ∈ records before block, ∀ d, o = .object d → Dict.Ordered d)
    (hnew : ∀ r ∈ records after block, ∀ d, r = .object d → Dict.Ordered d)
    (h : blockChanges before after block = .ok l) : change ∈ l ↔
      (∃ o ∈ records before block, ∃ n, nameOf o = .ok n ∧
        (∀ r ∈ records after block, nameOf r ≠ .ok n) ∧
          change = .removed (recordPath block n) o) ∨
      (∃ r ∈ records after block, ∃ n, nameOf r = .ok n ∧
        (∀ o ∈ records before block, nameOf o ≠ .ok n) ∧
          change = .added (recordPath block n) r) ∨
      ∃ o ∈ records before block, ∃ r ∈ records after block, ∃ n, nameOf o = .ok n ∧
        nameOf r = .ok n ∧ ∃ m, (o.member? m == r.member? m) = false ∧
          change =
            ⟨recordPath block n ++ "." ++ m, present (o.member? m), present (r.member? m)⟩ := by
  obtain ⟨hkeyed, hkeyed'⟩ := keyed_of_blockChanges h
  obtain ⟨p, modified, hp, hm, rfl⟩ := blockChanges_eq_ok_iff.1 h
  rw [List.mem_append, List.mem_append, or_assoc]
  refine or_congr ?_ (or_congr ?_ ?_)
  · exact mem_map_named_iff hkeyed fun o => Keying.mem_deleted_iff hp
  · exact mem_map_named_iff hkeyed' fun r => Keying.mem_added_iff hp
  · exact mem_modified_iff hold hnew hp hm

/-- What is planned for a record has no member that is null. -/
theorem member?_ne_null {c : Json} (hc : c.Canonical) {r : Json}
    (hr : r ∈ records (normalize (schemaOf kind) c) blockName) (m : String) :
    r.member? m ≠ some .null := by
  rw [records_planned hc] at hr
  obtain ⟨r₀, hr₀, rfl⟩ := List.mem_map.1 hr
  intro hnull
  cases r₀ with
  | object d =>
    rw [Endpoint.member?_normalize kind (canonical_of_mem_records hc hr₀).1] at hnull
    have hset : Json.null.isUnset = false := isUnset_of_settle_block hnull
    cases hset
  | _ => cases hnull

/-- What is not null is kept. -/
theorem present_of_ne_null {v : Option Json} (h : v ≠ some .null) : present v = v := by
  cases v with
  | none => rfl
  | some w =>
    cases w with
    | null => exact absurd rfl h
    | _ => rfl

/-- Two values that are not the same are not so without null either, unless they are null and
nothing. -/
theorem present_ne_iff {v w : Option Json} (hne : (v == w) = false) (hw : w ≠ some .null) :
    (present v == present w) = false ↔ (v = some .null → w ≠ none) := by
  rw [present_of_ne_null hw]
  by_cases hv : v = some .null
  · subst hv
    have hnull : present (some .null) = none := rfl
    rw [hnull]
    cases w with
    | none => simp
    | some w => simp
  · rw [present_of_ne_null hv]
    exact iff_of_true hne fun h => absurd h hv

end State

/-! ## Plans -/

namespace Provider

open State

variable {σ : Type} {around : Surroundings σ} {y z : Session σ} {kind : ServiceKind}
  {prior : Option Json} {proposed config : Json} {p : Plan}

theorem canonical_getD (h : ∀ v, prior = some v → v.Canonical) : (prior.getD .null).Canonical := by
  cases prior with
  | none => trivial
  | some v => exact h v rfl

/-- The records of the prior state have their members in order. -/
theorem ordered_of_mem_prior (h : ∀ v, prior = some v → v.Canonical) :
    ∀ o ∈ records (prior.getD .null) blockName, ∀ d, o = .object d → Dict.Ordered d := by
  rintro o ho d rfl
  exact (canonical_of_mem_records (canonical_getD h) ho).1

/-- The changes of a plan are those of the attributes and those of the records. -/
theorem exists_changes_of_plan (hproposed : proposed.Canonical)
    (hplan : (plugin around).plan kind.resourceType prior proposed config y = (.ok p, z)) :
    ∃ blocks, blockChanges (prior.getD .null) p.state blockName = .ok blocks ∧
      p.changes = ["id", "service_id", "version"].filterMap
        (attributeChange? (prior.getD .null) p.state) ++ blocks ∧
      (∀ r ∈ records p.state blockName, ∀ d, r = .object d → Dict.Ordered d) ∧
      ∀ r ∈ records p.state blockName, ∀ m, r.member? m ≠ some .null := by
  obtain ⟨hplanned, -⟩ := plugin_plan_eq_ok_iff.1 hplan
  obtain ⟨hstate, hchanges⟩ := plan_spec hplanned
  rw [planned_eq] at hstate hchanges
  rw [← hstate] at hchanges
  obtain ⟨blocks, hblocks, hall⟩ := changes_eq_ok_iff.1 hchanges
  refine ⟨blocks, hblocks, hall, ?_, ?_⟩
  · rw [hstate]
    rintro r hr d rfl
    exact ordered_of_mem_planned hproposed hr
  · rw [hstate]
    exact fun r hr m => member?_ne_null hproposed hr m

theorem canonical_topicals {a b c d : String} : (pair (topical a b) (topical c d)).Canonical :=
  canonical_pair (canonical_topical _ _) (canonical_topical _ _)

/-- **When every reported change is one**: when no record of the prior state has a member that is
null and that the planned record of its name lacks. -/
theorem plan_changes_real_iff (hprior : ∀ v, prior = some v → v.Canonical)
    (hproposed : proposed.Canonical)
    (hplan : (plugin around).plan kind.resourceType prior proposed config y = (.ok p, z)) :
    (∀ change ∈ p.changes, (present change.before == present change.after) = false) ↔
      ∀ o ∈ records (prior.getD .null) blockName, ∀ r ∈ records p.state blockName,
        nameOf o = nameOf r → ∀ m, o.member? m = some .null → r.member? m ≠ none := by
  obtain ⟨blocks, hblocks, hall, hnew, hset⟩ := exists_changes_of_plan hproposed hplan
  have hold := ordered_of_mem_prior hprior
  obtain ⟨hkeyed, -⟩ := keyed_of_blockChanges hblocks
  rw [hall]
  constructor
  · intro hreal o ho r hr hor m hnull hnone
    obtain ⟨n, hn⟩ : ∃ n, nameOf o = .ok n := hkeyed.key o ho
    have hne : (o.member? m == r.member? m) = false := by
      rw [hnull, hnone]
      rfl
    have hmem := (mem_blockChanges_iff hold hnew hblocks).2
      (.inr (.inr ⟨o, ho, r, hr, n, hn, hor ▸ hn, m, hne, rfl⟩))
    have hreported := hreal _ (List.mem_append_right _ hmem)
    rw [hnull, hnone] at hreported
    cases hreported
  · intro hnull change hchange
    rcases List.mem_append.1 hchange with hattr | hblock
    · obtain ⟨n, -, hn⟩ := List.mem_filterMap.1 hattr
      rw [attributeChange?_eq] at hn
      split at hn
      · cases hn
      · next hne =>
        obtain rfl := Option.some.inj hn
        simpa [present_present] using hne
    · rcases (mem_blockChanges_iff hold hnew hblocks).1 hblock with
        ⟨o, -, n, hn, -, rfl⟩ | ⟨r, -, n, hn, -, rfl⟩ | ⟨o, ho, r, hr, n, hon, hn, m, hne, rfl⟩
      · obtain ⟨d, rfl⟩ := exists_object_of_nameOf hn
        rfl
      · obtain ⟨d, rfl⟩ := exists_object_of_nameOf hn
        rfl
      · rw [present_present, present_present, present_ne_iff hne (hset r hr m)]
        exact hnull o ho r hr (hon.trans hn.symm) m

/-- A prior state without members that are null. -/
theorem plan_changes_real_iff_of_pairs : ∃ p,
    (plugin (.silent Unit)).plan ServiceKind.compute.resourceType (some olds) news .null
      ⟨none, ()⟩ = (.ok p, ⟨none, ()⟩) ∧
    ∀ change ∈ p.changes, (present change.before == present change.after) = false := by
  obtain ⟨p, hp, hstate⟩ := exists_plan_news
  have hplan : (plugin (.silent Unit)).plan ServiceKind.compute.resourceType (some olds) news
      .null ⟨none, ()⟩ = (.ok p, ⟨none, ()⟩) := plugin_plan_eq_ok_iff.2 ⟨hp, rfl⟩
  refine ⟨p, hplan, (plan_changes_real_iff (by rintro v ⟨rfl⟩; exact canonical_topicals)
    canonical_topicals hplan).2 ?_⟩
  intro o ho r _ _ m hnull
  have hmem : o ∈ [topical "a" "logs", topical "k" "old"] := ho
  have hset : ∀ name topic, (topical name topic).member? m ≠ some .null := by
    intro name topic hm
    have hentry := mem_of_value? hm
    simp [Json.ofNat] at hentry
  simp only [List.mem_cons, List.not_mem_nil, or_false] at hmem
  rcases hmem with rfl | rfl
  · exact absurd hnull (hset "a" "logs")
  · exact absurd hnull (hset "k" "old")

/-- The record of an endpoint whose user is null. -/
def userless : Json :=
  .object [("name", .string "k"), ("parse_log_keyvals", .bool false),
    ("request_max_bytes", .ofNat 0), ("topic", .string "old"), ("use_tls", .bool false),
    ("user", .null)]

/-- **A member that is null on one side and absent on the other** is reported, as the only change of
the plan. -/
theorem null_member_reported : ∃ p,
    (plugin (.silent Unit)).plan ServiceKind.compute.resourceType
      (some (pair (topical "a" "logs") userless)) (pair (topical "a" "logs") (topical "k" "old"))
      .null ⟨none, ()⟩ = (.ok p, ⟨none, ()⟩) ∧
    p.state = pair (topical "a" "logs") (topical "k" "old") ∧
    p.changes = [⟨"logging_kafka.k.user", none, none⟩] ∧
    ¬∀ change ∈ p.changes, (present change.before == present change.after) = false := by
  obtain ⟨p, hp, hstate, hchanges⟩ : ∃ p, State.plan (schemaOf .compute)
      (pair (topical "a" "logs") userless) (pair (topical "a" "logs") (topical "k" "old")) =
        .ok p ∧ p.state = pair (topical "a" "logs") (topical "k" "old") ∧
          p.changes = [⟨"logging_kafka.k.user", none, none⟩] := ⟨_, by rfl, by rfl, by rfl⟩
  refine ⟨p, plugin_plan_eq_ok_iff.2 ⟨hp, rfl⟩, hstate, hchanges, fun hreal => ?_⟩
  rw [hchanges] at hreal
  exact absurd (hreal _ List.mem_cons_self) (by decide)

end Provider

end LoggingProvider
