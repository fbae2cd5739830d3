import LoggingProvider.Proofs.Provider.Accepted

/-!
# Names that occur twice

Two endpoints of a configuration must not have one name. Names are compared in the order of the
items, and the comparison ends, without a finding, at the first item that has no name. An item that
is no object, or an object without a name, has a finding of its own. A null item has none: it stands
for an absent item to the schema, and behind it no names are compared. So a name that occurs twice
goes without an error only if the null item comes before its second occurrence.

## Main results

* `Provider.isError_of_mem_resourceFindings`: findings are errors
* `Provider.resourceFindings_eq_nil_iff`: when a name that occurs twice is passed over
* `Provider.duplicate_reported_iff`: when it is reported
* `Provider.duplicate_behind_null`: a name that occurs twice behind a null item
-/

namespace LoggingProvider

namespace Provider

open Dict Endpoint Reconcile State

variable {σ : Type} {kind : ServiceKind} {c r r' : Json} {n : String}
  {before between after : List Json}

/-- **The findings about a configuration are errors.** -/
theorem isError_of_mem_resourceFindings {finding : Diagnostic}
    (h : finding ∈ resourceFindings kind c) : finding.isError := by
  rcases List.mem_append.1 h with h | h
  · exact (schemaOf kind).block.isError_of_mem_diagnose h
  · unfold duplicateFindings at h
    split at h
    · obtain rfl := List.mem_singleton.1 h
      rfl
    · cases h

/-- The records of a configuration are the items of its block. -/
theorem records_eq {items : List Json} (h : c.member? blockName = some (.array items)) :
    records c blockName = items := by
  unfold records
  rw [h]
  rfl

/-- In a configuration that conforms, only a null item has no name. -/
theorem eq_null_of_nameOf_eq_error {fault : DiffFault} (h : (schemaOf kind).block.Conforms c)
    (hr : r ∈ records c blockName) (hfault : nameOf r = .error fault) : r = .null := by
  have hconforms := conforms_of_mem_records h hr
  cases hconforms with
  | null => rfl
  | object hattributes hblocks =>
    obtain ⟨n, hn⟩ := exists_nameOf_of_conforms (.object hattributes hblocks)
    cases hn.symm.trans hfault

/-- Names are not distinct where one occurs twice. -/
theorem not_keyed_of_repeated (hr : nameOf r = .ok n) (hr' : nameOf r' = .ok n) :
    ¬byName.Keyed (before ++ r :: (between ++ r' :: after)) := by
  intro hkeyed
  have hsub : ([r] ++ [r']).Sublist (before ++ r :: (between ++ r' :: after)) :=
    ((List.singleton_sublist.2 (by simp)).cons_cons r).trans (List.sublist_append_right before _)
  exact (hkeyed.sublist hsub).key_ne_of_concat List.mem_cons_self (hr.trans hr'.symm)

/-- A null item before the second of two items is one before or between them. -/
theorem null_mem_of_eq_append {earlier rest : List Json} (hr : nameOf r = .ok n)
    (h : before ++ r :: between = earlier ++ .null :: rest) : .null ∈ before ∨ .null ∈ between := by
  have hmem : Json.null ∈ before ++ r :: between := h ▸ by simp
  rcases List.mem_append.1 hmem with hmem | hmem
  · exact .inl hmem
  · rcases List.mem_cons.1 hmem with rfl | hmem
    · cases hr
    · exact .inr hmem

/-- The items before a null item, when their names are distinct, end before the second of two items
with one name. -/
theorem exists_eq_append_of_keyed {earlier rest : List Json} (hr : nameOf r = .ok n)
    (hr' : nameOf r' = .ok n) (hkeyed : byName.Keyed earlier)
    (h : before ++ r :: (between ++ r' :: after) = earlier ++ .null :: rest) :
    ∃ rest', before ++ r :: between = earlier ++ .null :: rest' := by
  rw [← List.cons_append, ← List.append_assoc] at h
  rcases List.append_eq_append_iff.1 h with ⟨more, rfl, hmore⟩ | ⟨more, hmore, hrest⟩
  · -- The null item would come behind both items, or be the second one.
    cases more with
    | nil =>
      obtain rfl : r' = .null := (List.cons.inj hmore).1
      cases hr'
    | cons q more =>
      obtain rfl : r' = q := (List.cons.inj hmore).1
      rw [List.append_assoc, List.cons_append] at hkeyed
      exact absurd hkeyed (not_keyed_of_repeated hr hr')
  · cases more with
    | nil =>
      obtain rfl : .null = r' := (List.cons.inj hrest).1
      cases hr'
    | cons q more =>
      obtain rfl : .null = q := (List.cons.inj hrest).1
      exact ⟨more, hmore⟩

/-- **When a name that occurs twice is passed over**: nothing else is found, and a null item comes
before its second occurrence, with distinct names before the null item. -/
theorem resourceFindings_eq_nil_iff (hr : nameOf r = .ok n) (hr' : nameOf r' = .ok n)
    (hitems : c.member? blockName = some (.array (before ++ r :: (between ++ r' :: after)))) :
    resourceFindings kind c = [] ↔ (schemaOf kind).validate c = [] ∧
      ∃ earlier rest, before ++ r :: between = earlier ++ .null :: rest ∧
        byName.Keyed earlier := by
  unfold resourceFindings
  rw [List.append_eq_nil_iff, duplicateFindings_eq_nil_iff, records_eq hitems]
  refine and_congr_right fun hvalid => ?_
  have hconforms := (schemaOf kind).block.conforms_of_diagnose c "" hvalid
  constructor
  · rintro (hkeyed | ⟨earlier, q, rest, fault, hsplit, hearlier, hq⟩)
    · exact absurd hkeyed (not_keyed_of_repeated hr hr')
    · -- The comparison ended at an item without a name, which the schema lets pass only if null.
      have hmem : q ∈ records c blockName := by
        rw [records_eq hitems, hsplit]
        exact List.mem_append_right _ List.mem_cons_self
      obtain rfl := eq_null_of_nameOf_eq_error hconforms hmem hq
      obtain ⟨rest', hrest'⟩ := exists_eq_append_of_keyed hr hr' hearlier hsplit
      exact ⟨earlier, rest', hrest', hearlier⟩
  · rintro ⟨earlier, rest, hsplit, hearlier⟩
    refine .inr ⟨earlier, .null, rest ++ r' :: after, _, ?_, hearlier, rfl⟩
    rw [← List.cons_append, ← List.append_assoc, hsplit, List.append_assoc, List.cons_append]

/-- **When a name that occurs twice is reported**: there is an error unless the configuration has no
other one and a null item comes before the second occurrence, with distinct names before it. So there
is one whenever no item before the second occurrence is null. -/
theorem duplicate_reported_iff (around : Surroundings σ) (kind : ServiceKind) (z : Session σ)
    (hitems : c.member? blockName = some (.array (before ++ r :: (between ++ r' :: after))))
    (hr : r.member? "name" = some (.string n)) (hr' : r'.member? "name" = some (.string n)) :
    ∃ findings,
      (plugin around).validateResourceConfig kind.resourceType c z = (.ok findings, z) ∧
      ((∃ finding ∈ findings, finding.isError) ↔
        ¬((schemaOf kind).validate c = [] ∧
          ∃ earlier rest, before ++ r :: between = earlier ++ .null :: rest ∧
            byName.Keyed earlier)) ∧
      (.null ∉ before → .null ∉ between → ∃ finding ∈ findings, finding.isError) := by
  rw [← nameOf_eq_ok_iff] at hr hr'
  have herror : (∃ finding ∈ resourceFindings kind c, finding.isError) ↔
      resourceFindings kind c ≠ [] := by
    constructor
    · rintro ⟨finding, hmem, -⟩
      exact List.ne_nil_of_mem hmem
    · intro hne
      obtain ⟨finding, hmem⟩ := List.exists_mem_of_ne_nil _ hne
      exact ⟨finding, hmem, isError_of_mem_resourceFindings hmem⟩
  have hiff := herror.trans (resourceFindings_eq_nil_iff hr hr' hitems).not
  refine ⟨_, plugin_validate_eq_ok_iff.2 ⟨rfl, rfl⟩, hiff, fun hbefore hbetween => hiff.2 ?_⟩
  rintro ⟨-, earlier, rest, hsplit, -⟩
  rcases null_mem_of_eq_append hr hsplit with hnull | hnull
  · exact hbefore hnull
  · exact hbetween hnull

/-! ## Two endpoints of one name -/

/-- The record of an endpoint. -/
def named (n : String) : Json :=
  .object [("brokers", .string "b"), ("name", .string n), ("topic", .string "t")]

/-- A configuration with these records. -/
def configured (items : List Json) : Json := .object
  [("logging_kafka", .array items), ("service_id", .string "svc"), ("version", .ofNat 1)]

/-- A name that occurs twice is reported when a null item comes behind both. -/
theorem duplicate_reported_iff_before_null : ∃ findings,
    (plugin (.silent Store)).validateResourceConfig ServiceKind.compute.resourceType
      (configured [named "a", named "k", named "b", named "k", .null]) emptySession =
        (.ok findings, emptySession) ∧
      ∃ finding ∈ findings, finding.isError := by
  have hitems : (configured [named "a", named "k", named "b", named "k", .null]).member?
      blockName = some (.array ([named "a"] ++ named "k" :: ([named "b"] ++ named "k" :: [.null]))) :=
    rfl
  obtain ⟨findings, hvalid, -, herror⟩ :=
    duplicate_reported_iff (n := "k") (.silent Store) .compute emptySession hitems rfl rfl
  exact ⟨findings, hvalid, herror (by simp [named]) (by simp [named])⟩

/-- **A name that occurs twice behind a null item is not reported.** -/
theorem duplicate_behind_null :
    (plugin (.silent Store)).validateResourceConfig ServiceKind.vcl.resourceType
      (configured [.null, named "k", named "k"]) emptySession = (.ok [], emptySession) := by
  refine plugin_validate_eq_ok_iff.2 ⟨(List.isEmpty_iff.1 ?_).symm, rfl⟩
  decide +kernel

end Provider

end LoggingProvider
