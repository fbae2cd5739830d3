import LoggingProvider.Proofs.Provider.Reported

/-!
# The paths of a plan

A change of a plan belongs to an attribute, to a record that only one side has, or to a member that
two records of one name do not hold alike. No such place has two changes. Its path joins the names
with dots. A name may itself have dots, so two places can share a path: a member that is edited, and
a record that goes or comes under the name of that record with the name of the member; or members of
two records, of which the one has the name of the other with a dot and more. Where no two records
have such names, a path tells the place.

## Main definitions

* `State.Place`, `State.Place.path`: where a change belongs, and the path of the place
* `State.Place.Differs`: the places where two states differ
* `State.blockPlaces`, `State.places`: the places of the changes that are reported

## Main results

* `State.map_path_changes`: the paths of a plan are those of its places
* `State.nodup_places`, `State.mem_places_iff`: the places are those where the states differ, each
  of them once
* `State.nodup_map_path_iff`: when no two places share a path
* `Provider.nodup_paths_iff`: when no two changes of a plan have the same path
* `Provider.paths_shared`: two changes with the same path
-/

namespace LoggingProvider

open Dict Endpoint Reconcile

namespace State

variable {kind : ServiceKind} {before after : Json} {p : Partition Json} {l : List Change}
  {n m : String}

/-! ## Places -/

/-- **Where a change belongs**: to an attribute, to a record as a whole, or to a member of a
record. -/
inductive Place where
  | plain (name : String)
  | record (name : String)
  | member (name field : String)

namespace Place

/-- The path of a place. -/
def path : Place → String
  | plain n => n
  | record n => recordPath blockName n
  | member n m => recordPath blockName n ++ "." ++ m

/-- **The places where two states differ**: the attributes that are not the same on both sides, the
names of records that only one side has, and the members that two records of one name do not hold
alike. -/
def Differs (before after : Json) : Place → Prop
  | plain n => n ∈ ["id", "service_id", "version"] ∧
      (present (before.member? n) == present (after.member? n)) = false
  | record n =>
      (∃ o ∈ records before blockName, nameOf o = .ok n ∧
        ∀ r ∈ records after blockName, nameOf r ≠ .ok n) ∨
      ∃ r ∈ records after blockName, nameOf r = .ok n ∧
        ∀ o ∈ records before blockName, nameOf o ≠ .ok n
  | member n m => ∃ o ∈ records before blockName, ∃ r ∈ records after blockName,
      nameOf o = .ok n ∧ nameOf r = .ok n ∧ (o.member? m == r.member? m) = false

end Place

/-- The names of the members that changed in a record, against the records of the other side. -/
def editedNames (old : List Json) (r : Json) : List String :=
  match patch r old with
  | .ok changed => names changed
  | .error _ => []

/-- **The places of the changes of records**, in the order in which they are reported. -/
def blockPlaces (old : List Json) (p : Partition Json) : List Place :=
  ((p.deleted ++ p.added).map nameD).map .record ++
    p.modified.flatMap fun r => (editedNames old r).map (.member (nameD r))

/-- **The places of the changes** between two states. -/
def places (before after : Json) (p : Partition Json) : List Place :=
  (["id", "service_id", "version"].filter fun n =>
    !(present (before.member? n) == present (after.member? n))).map .plain ++
      blockPlaces (records before blockName) p

/-! ## The paths of the changes -/

theorem map_path_attributes (l : List String) :
    (l.filterMap (attributeChange? before after)).map Change.path =
      l.filter fun n => !(present (before.member? n) == present (after.member? n)) := by
  rw [List.map_filterMap, ← List.filterMap_eq_filter]
  refine List.filterMap_congr fun n _ => ?_
  rw [attributeChange?_eq]
  split
  · next hsame => simp [Option.guard, hsame]
  · next hne => simp [Option.guard, hne]

theorem map_path_recordChanges {old : List Json} {r : Json}
    (h : recordChanges blockName old r = .ok l) :
    l.map Change.path = (editedNames old r).map fun m => (Place.member (nameD r) m).path := by
  obtain ⟨n, previous, changed, hn, -, hchanged, rfl⟩ := recordChanges_eq_ok_iff.1 h
  unfold editedNames
  rw [hchanged, Provider.nameD_eq hn]
  simp only [memberChanges, names, List.map_map]
  rfl

theorem map_path_modified {old rs : List Json} {modified : List (List Change)}
    (h : rs.mapM (recordChanges blockName old) = .ok modified) :
    modified.flatten.map Change.path =
      (rs.flatMap fun r => (editedNames old r).map (.member (nameD r))).map Place.path := by
  have hall := Outcome.mapM_eq_ok_iff.1 h
  clear h
  induction hall with
  | nil => rfl
  | cons hr _ ih =>
    rw [List.flatten_cons, List.flatMap_cons, List.map_append, List.map_append, ih,
      map_path_recordChanges hr, List.map_map]
    rfl

theorem map_path_blockChanges (h : blockChanges before after blockName = .ok l) :
    ∃ p, byName.diff (records before blockName) (records after blockName) = .ok p ∧
      l.map Change.path = (blockPlaces (records before blockName) p).map Place.path := by
  obtain ⟨p, modified, hp, hm, rfl⟩ := blockChanges_eq_ok_iff.1 h
  refine ⟨p, hp, ?_⟩
  unfold blockPlaces
  simp only [List.map_append, map_path_modified hm, List.map_map]
  rfl

/-- **The paths of the changes between two states** are those of the places, in the same order. -/
theorem map_path_changes (h : changes (schemaOf kind) before after = .ok l) :
    ∃ p, byName.diff (records before blockName) (records after blockName) = .ok p ∧
      l.map Change.path = (places before after p).map Place.path := by
  obtain ⟨blocks, hblocks, rfl⟩ := changes_eq_ok_iff.1 h
  obtain ⟨p, hp, hpaths⟩ := map_path_blockChanges hblocks
  refine ⟨p, hp, ?_⟩
  unfold places
  have hplain : Place.path ∘ Place.plain = id := rfl
  rw [List.map_append, List.map_append, hpaths, map_path_attributes, List.map_map, hplain,
    List.map_id]

/-! ## Each place once -/

/-- The names of the records that are deleted, added or modified are distinct. -/
theorem nodup_map_nameD {old new : List Json} (hp : byName.diff old new = .ok p) :
    ((p.deleted ++ p.added ++ p.modified).map nameD).Nodup := by
  obtain ⟨hold, hnew⟩ := Keying.exists_diff_iff.1 ⟨p, hp⟩
  have hsub : (p.deleted ++ p.added ++ p.modified).Sublist
      (p.deleted ++ (p.added ++ (p.modified ++ p.unchanged))) := by
    rw [← List.append_assoc, ← List.append_assoc]
    exact List.sublist_append_left _ _
  have hkeys := (Keying.nodup_keys hp).sublist (hsub.map _)
  have hnames : (p.deleted ++ p.added ++ p.modified).map nameOf =
      ((p.deleted ++ p.added ++ p.modified).map nameD).map .ok := by
    rw [List.map_map]
    refine List.map_congr_left fun r hr => ?_
    obtain ⟨n, hn⟩ : ∃ n, nameOf r = .ok n := by
      rcases List.mem_append.1 hr with hr | hr
      · rcases List.mem_append.1 hr with hr | hr
        · exact hold.key r ((Keying.mem_deleted_iff hp).1 hr).1
        · exact hnew.key r ((Keying.mem_added_iff hp).1 hr).1
      · exact hnew.key r ((Keying.mem_modified_iff hp).1 hr).1
    rw [Function.comp_apply, Provider.nameD_eq hn, hn]
  exact (hnames ▸ hkeys).of_map

theorem nodup_editedNames (old : List Json) {r : Json}
    (hr : ∀ d, r = .object d → Dict.Ordered d) : (editedNames old r).Nodup := by
  have hmembers : Dict.Ordered (r.members?.getD []) := by
    cases r with
    | object d => exact hr d rfl
    | _ => exact List.Pairwise.nil
  unfold editedNames
  split
  · next changed hchanged =>
    unfold patch at hchanged
    split at hchanged
    · cases hchanged
    · split at hchanged
      · cases hchanged
      · obtain rfl := Except.ok.inj hchanged
        exact (ordered_changedMembers hmembers).nodup_names
  · exact List.nodup_nil

theorem nodup_blockPlaces {old new : List Json} (hp : byName.diff old new = .ok p)
    (hnew : ∀ r ∈ new, ∀ d, r = .object d → Dict.Ordered d) : (blockPlaces old p).Nodup := by
  have hnames := nodup_map_nameD hp
  rw [List.map_append, List.nodup_append] at hnames
  obtain ⟨hwhole, hmodified, -⟩ := hnames
  refine (hwhole.map fun _ _ => Place.record.inj).append (List.nodup_flatMap.2 ⟨?_, ?_⟩) ?_
  · intro r hr
    have hr := ((Keying.mem_modified_iff hp).1 hr).1
    exact (nodup_editedNames old (hnew r hr)).map fun _ _ h => (Place.member.inj h).2
  · refine (List.pairwise_map.1 hmodified).imp fun hne x hx hx' => ?_
    obtain ⟨m, -, rfl⟩ := List.mem_map.1 hx
    obtain ⟨m', -, h⟩ := List.mem_map.1 hx'
    exact hne (Place.member.inj h).1.symm
  · intro x hx hx'
    obtain ⟨n, -, rfl⟩ := List.mem_map.1 hx
    obtain ⟨r, -, hr⟩ := List.mem_flatMap.1 hx'
    obtain ⟨m, -, h⟩ := List.mem_map.1 hr
    cases h

/-- **No place has two changes.** -/
theorem nodup_places
    (hp : byName.diff (records before blockName) (records after blockName) = .ok p)
    (hnew : ∀ r ∈ records after blockName, ∀ d, r = .object d → Dict.Ordered d) :
    (places before after p).Nodup := by
  have hplain : ["id", "service_id", "version"].Nodup := by decide
  refine ((hplain.filter _).map fun _ _ => Place.plain.inj).append (nodup_blockPlaces hp hnew) ?_
  intro x hx hx'
  obtain ⟨n, -, rfl⟩ := List.mem_map.1 hx
  simp [blockPlaces] at hx'

/-! ## Where two states differ -/

theorem mem_editedNames_iff {old : List Json} (hold : byName.Keyed old) {o r : Json} (ho : o ∈ old)
    (hon : nameOf o = .ok n) (hn : nameOf r = .ok n)
    (hordered : ∀ d, o = .object d → Dict.Ordered d)
    (hordered' : ∀ d, r = .object d → Dict.Ordered d) :
    m ∈ editedNames old r ↔ (o.member? m == r.member? m) = false := by
  have hpatch := patch_eq hold ho hon hn
  obtain ⟨d, rfl⟩ := exists_object_of_nameOf hon
  obtain ⟨d', rfl⟩ := exists_object_of_nameOf hn
  unfold editedNames
  rw [hpatch]
  constructor
  · intro hm
    obtain ⟨⟨_, v⟩, hmem, rfl⟩ := List.mem_map.1 hm
    exact ((mem_changedMembers_iff (hordered d rfl) (hordered' d' rfl)).1 hmem).1
  · intro hne
    exact List.mem_map_of_mem
      ((mem_changedMembers_iff (hordered d rfl) (hordered' d' rfl)).2 ⟨hne, rfl⟩)

/-- **The places of the changes** are those where the two states differ. -/
theorem mem_places_iff
    (hp : byName.diff (records before blockName) (records after blockName) = .ok p)
    (hold : ∀ o ∈ records before blockName, ∀ d, o = .object d → Dict.Ordered d)
    (hnew : ∀ r ∈ records after blockName, ∀ d, r = .object d → Dict.Ordered d) (x : Place) :
    x ∈ places before after p ↔ x.Differs before after := by
  obtain ⟨hkeyed, hkeyed'⟩ := Keying.exists_diff_iff.1 ⟨p, hp⟩
  cases x with
  | plain n => simp [places, blockPlaces, Place.Differs]
  | record n =>
    have hmem : .record n ∈ places before after p ↔
        (∃ r ∈ p.deleted, nameD r = n) ∨ ∃ r ∈ p.added, nameD r = n := by
      simp [places, blockPlaces]
    rw [hmem]
    exact or_congr
      (exists_congr fun _ => mem_named_iff hkeyed (Keying.mem_deleted_iff hp))
      (exists_congr fun _ => mem_named_iff hkeyed' (Keying.mem_added_iff hp))
  | member n m =>
    have hmem : .member n m ∈ places before after p ↔
        ∃ r ∈ p.modified, m ∈ editedNames (records before blockName) r ∧ nameD r = n := by
      simp [places, blockPlaces]
    rw [hmem]
    constructor
    · rintro ⟨r, hr, hm, rfl⟩
      obtain ⟨hr, o, ho, hor, -⟩ := (Keying.mem_modified_iff hp).1 hr
      obtain ⟨n, hn⟩ : ∃ n, nameOf r = .ok n := hkeyed'.key r hr
      have hon : nameOf o = .ok n := hor.trans hn
      rw [Provider.nameD_eq hn]
      exact ⟨o, ho, r, hr, hon, hn,
        (mem_editedNames_iff hkeyed ho hon hn (hold o ho) (hnew r hr)).1 hm⟩
    · rintro ⟨o, ho, r, hr, hon, hn, hne⟩
      refine ⟨r, (Keying.mem_modified_iff hp).2 ⟨hr, o, ho, hon.trans hn.symm, ?_⟩,
        (mem_editedNames_iff hkeyed ho hon hn (hold o ho) (hnew r hr)).2 hne, Provider.nameD_eq hn⟩
      refine Bool.eq_false_iff.2 fun hsame => ?_
      rw [Json.member?_beq hsame m] at hne
      cases hne

/-! ## Places that share a path -/

/-- The path of a record or of one of its members is not the name of an attribute. -/
theorem recordPath_ne (rest : String) :
    ∀ n ∈ ["id", "service_id", "version"], n ≠ recordPath blockName rest := by
  intro n hn h
  have hlength : n.length ≤ 10 := by
    simp only [List.mem_cons, List.not_mem_nil, or_false] at hn
    rcases hn with rfl | rfl | rfl <;> decide
  rw [h, recordPath, String.length_append, String.length_append] at hlength
  have hblock : blockName.length = 13 := rfl
  omega

theorem recordPath_inj {block : String} {x y : String} :
    recordPath block x = recordPath block y ↔ x = y :=
  String.append_right_inj _

theorem Place.path_member (n m : String) :
    (Place.member n m).path = recordPath blockName (n ++ "." ++ m) :=
  recordPath_append n m

/-- Of two names that are the same with a dot and more, the longer one goes on where the other
ends. -/
theorem eq_or_extends_of_append_dot {n n' m m' : String} (h : n ++ "." ++ m = n' ++ "." ++ m') :
    n = n' ∨ (∃ rest, n' = n ++ "." ++ rest) ∨ ∃ rest, n = n' ++ "." ++ rest := by
  have hextends : ∀ {n n' : String} {more tail tail' : List Char}, n'.toList = n.toList ++ more →
      '.' :: tail = more ++ '.' :: tail' → n = n' ∨ ∃ rest, n' = n ++ "." ++ rest := by
    intro n n' more tail tail' hn htail
    cases more with
    | nil => exact .inl (String.toList_inj.1 (by simpa using hn.symm))
    | cons c more =>
      obtain rfl : '.' = c := (List.cons.inj htail).1
      refine .inr ⟨String.ofList more, String.toList_inj.1 ?_⟩
      simp [hn]
  have hlist := congrArg String.toList h
  simp only [String.toList_append, List.append_assoc] at hlist
  rcases List.append_eq_append_iff.1 hlist with ⟨more, hn, htail⟩ | ⟨more, hn, htail⟩
  · rcases hextends hn htail with heq | hmore
    · exact .inl heq
    · exact .inr (.inl hmore)
  · rcases hextends hn htail with heq | hmore
    · exact .inl heq.symm
    · exact .inr (.inr hmore)

/-- **When the paths of places are distinct**: no member has the path of a record or of a member of
another record. -/
theorem nodup_map_path_iff {l : List Place} (hl : l.Nodup)
    (hmem : ∀ x, x ∈ l ↔ x.Differs before after) : (l.map Place.path).Nodup ↔
      ∀ n m, (Place.member n m).Differs before after →
        ¬(Place.record (n ++ "." ++ m)).Differs before after ∧
        ∀ n' m', (Place.member n' m').Differs before after → n ++ "." ++ m = n' ++ "." ++ m' →
          n = n' := by
  rw [List.nodup_map_iff_inj_on hl]
  constructor
  · intro hinj n m hm
    refine ⟨fun hr => ?_, fun n' m' hm' heq => ?_⟩
    · have hplace := hinj _ ((hmem _).2 hm) _ ((hmem _).2 hr) (Place.path_member n m)
      cases hplace
    · have hplace := hinj _ ((hmem _).2 hm) _ ((hmem _).2 hm') (by
        rw [Place.path_member, Place.path_member, heq])
      exact (Place.member.inj hplace).1
  · intro hfree x hx y hy hxy
    rw [hmem] at hx hy
    cases x with
    | plain a =>
      cases y with
      | plain b => exact congrArg Place.plain hxy
      | record b => exact absurd hxy (recordPath_ne b a hx.1)
      | member b m => exact absurd (hxy.trans (Place.path_member b m)) (recordPath_ne _ a hx.1)
    | record a =>
      cases y with
      | plain b => exact absurd hxy.symm (recordPath_ne a b hy.1)
      | record b => exact congrArg Place.record (recordPath_inj.1 hxy)
      | member b m =>
        obtain rfl := recordPath_inj.1 (hxy.trans (Place.path_member b m))
        exact absurd hx (hfree b m hy).1
    | member a m =>
      rw [Place.path_member] at hxy
      cases y with
      | plain b => exact absurd hxy.symm (recordPath_ne _ b hy.1)
      | record b =>
        obtain rfl := recordPath_inj.1 hxy.symm
        exact absurd hy (hfree a m hx).1
      | member b m' =>
        have htail := recordPath_inj.1 (hxy.trans (Place.path_member b m'))
        obtain rfl := (hfree a m hx).2 b m' hy htail
        rw [(String.append_right_inj _).1 htail]

end State

/-! ## Plans -/

namespace Provider

open State

variable {σ : Type} {around : Surroundings σ} {y z : Session σ} {kind : ServiceKind}
  {prior : Option Json} {proposed config : Json} {p : Plan}

/-- **When no two changes of a plan have the same path**: no edited member has the path of a record
that only one side has, or of an edited member of another record. So it is when no record on either
side has the name of another one with a dot and more. -/
theorem nodup_paths_iff (hprior : ∀ v, prior = some v → v.Canonical)
    (hproposed : proposed.Canonical)
    (hplan : (plugin around).plan kind.resourceType prior proposed config y = (.ok p, z)) :
    ((p.changes.map Change.path).Nodup ↔
      ∀ n m, (Place.member n m).Differs (prior.getD .null) p.state →
        ¬(Place.record (n ++ "." ++ m)).Differs (prior.getD .null) p.state ∧
        ∀ n' m', (Place.member n' m').Differs (prior.getD .null) p.state →
          n ++ "." ++ m = n' ++ "." ++ m' → n = n') ∧
    ((∀ r ∈ records (prior.getD .null) blockName ++ records p.state blockName,
      ∀ r' ∈ records (prior.getD .null) blockName ++ records p.state blockName, ∀ n rest,
        nameOf r = .ok n → nameOf r' ≠ .ok (n ++ "." ++ rest)) →
      (p.changes.map Change.path).Nodup) := by
  obtain ⟨hplanned, -⟩ := plugin_plan_eq_ok_iff.1 hplan
  obtain ⟨hstate, hchanges⟩ := plan_spec hplanned
  rw [← hstate] at hchanges
  obtain ⟨parts, hp, hpaths⟩ := map_path_changes hchanges
  obtain ⟨-, -, -, hnew, -⟩ := exists_changes_of_plan hproposed hplan
  have hiff := nodup_map_path_iff (nodup_places hp hnew)
    (mem_places_iff hp (ordered_of_mem_prior hprior) hnew)
  rw [hpaths]
  refine ⟨hiff, fun hfree => hiff.2 ?_⟩
  rintro n m ⟨o, ho, -, -, hon, -, -⟩
  have ho := List.mem_append_left (records p.state blockName) ho
  refine ⟨?_, ?_⟩
  · rintro (⟨q, hq, hqn, -⟩ | ⟨q, hq, hqn, -⟩)
    · exact hfree o ho q (List.mem_append_left _ hq) n m hon hqn
    · exact hfree o ho q (List.mem_append_right _ hq) n m hon hqn
  · rintro n' m' ⟨o', ho', -, -, hon', -, -⟩ heq
    have ho' := List.mem_append_left (records p.state blockName) ho'
    rcases eq_or_extends_of_append_dot heq with hn | ⟨rest, rfl⟩ | ⟨rest, rfl⟩
    · exact hn
    · exact absurd hon' (hfree o ho o' ho' n rest hon)
    · exact absurd hon (hfree o' ho' o ho n' rest hon')

/-- Records whose names have one letter. -/
theorem nodup_paths_iff_of_letters : ∃ p,
    (plugin (.silent Unit)).plan ServiceKind.compute.resourceType (some olds) news .null
      ⟨none, ()⟩ = (.ok p, ⟨none, ()⟩) ∧ (p.changes.map Change.path).Nodup := by
  obtain ⟨p, hp, hstate⟩ := exists_plan_news
  have hplan : (plugin (.silent Unit)).plan ServiceKind.compute.resourceType (some olds) news
      .null ⟨none, ()⟩ = (.ok p, ⟨none, ()⟩) := plugin_plan_eq_ok_iff.2 ⟨hp, rfl⟩
  have hpaths := (nodup_paths_iff (by rintro v ⟨rfl⟩; exact canonical_topicals)
    canonical_topicals hplan).2
  rw [hstate] at hpaths
  refine ⟨p, hplan, hpaths fun r hr r' hr' n rest hn hn' => ?_⟩
  have hletter : ∀ r ∈ records olds blockName ++ records news blockName, ∀ n,
      nameOf r = .ok n → n.length = 1 := by
    intro r hr n hn
    have hmem : r ∈
        [topical "a" "logs", topical "k" "old", topical "k" "new", topical "b" "logs"] := hr
    simp only [List.mem_cons, List.not_mem_nil, or_false] at hmem
    rcases hmem with rfl | rfl | rfl | rfl <;> obtain rfl := Except.ok.inj hn <;> rfl
  have hlength := hletter r' hr' _ hn'
  rw [String.length_append, String.length_append, hletter r hr n hn] at hlength
  have hdot : ".".length = 1 := rfl
  omega

/-- **Two changes with the same path**: a member of a record is edited, and a record comes that has
the name of that record with the name of the member. -/
theorem paths_shared : ∃ p,
    (plugin (.silent Unit)).plan ServiceKind.compute.resourceType (some olds)
      (pair (topical "k" "new") (topical "k.topic" "logs")) .null ⟨none, ()⟩ =
        (.ok p, ⟨none, ()⟩) ∧ ¬(p.changes.map Change.path).Nodup := by
  obtain ⟨p, hp, hpaths⟩ : ∃ p, State.plan (schemaOf .compute) olds
      (pair (topical "k" "new") (topical "k.topic" "logs")) = .ok p ∧
        p.changes.map Change.path =
          ["logging_kafka.a", "logging_kafka.k.topic", "logging_kafka.k.topic"] :=
    ⟨_, by rfl, by rfl⟩
  refine ⟨p, plugin_plan_eq_ok_iff.2 ⟨hp, rfl⟩, ?_⟩
  rw [hpaths]
  decide

end Provider

end LoggingProvider
