import LoggingProvider.Proofs.Schema.Conformance
import LoggingProvider.Proofs.Schema.Idempotence

/-!
# Validation before and after normalization

Normalization drops null and the empty text, but validation passes over null alone: to it, the empty
text is a text. So a value may be accepted though its normal form lacks a required attribute, and it
may be refused for an empty text that its normal form does not have. Nothing else tells the two
verdicts apart, if the defaults of a schema conform to it and its normalizers change free texts
only.

## Main definitions

* `Verdicts`: two verdicts, and what makes the one refuse where the other accepts
* `Block.HoldsEmpty`: the empty text in place of an attribute or of a nested block
* `Block.EmptyRequired`, `Block.EmptyRestricted`: where an empty text counts for one verdict only
* `Block.Fit`: the schemas in which defaults conform and normalizers change free texts only

## Main results

* `Attribute.verdicts`, `Nested.judged`, `Block.judged`: the verdicts on each level
* `Schema.validate_iff_validate_normalize`: when validation and normalization agree
-/

namespace LoggingProvider

open Dict

/-! ## Two verdicts -/

/-- **Two verdicts on a value**: where the value is accepted, its normal form is, unless a part is
lost; where the normal form is accepted, the value is, unless it was freed of a fault. -/
structure Verdicts (before after lost freed : Prop) : Prop where
  after_iff : before → (after ↔ ¬lost)
  before_iff : after → (before ↔ ¬freed)

namespace Verdicts

variable {before after lost freed before' after' lost' freed' : Prop}

/-- When the two verdicts agree. -/
theorem agree_iff (h : Verdicts before after lost freed) :
    (before ↔ after) ↔ (before → ¬lost) ∧ (after → ¬freed) := by
  constructor
  · intro hagree
    exact ⟨fun hb => (h.after_iff hb).1 (hagree.1 hb), fun ha => (h.before_iff ha).1 (hagree.2 ha)⟩
  · rintro ⟨hlost, hfreed⟩
    exact ⟨fun hb => (h.after_iff hb).2 (hlost hb), fun ha => (h.before_iff ha).2 (hfreed ha)⟩

theorem of_agree (hagree : before ↔ after) (hlost : ¬lost) (hfreed : ¬freed) :
    Verdicts before after lost freed :=
  ⟨fun hb => iff_of_true (hagree.1 hb) hlost, fun ha => iff_of_true (hagree.2 ha) hfreed⟩

/-- A value that is refused, and its normal form, which is accepted only if it was freed. -/
theorem of_refused (hbefore : ¬before) (hfreed : after → freed) :
    Verdicts before after lost freed :=
  ⟨fun hb => absurd hb hbefore, fun ha => iff_of_false hbefore (not_not_intro (hfreed ha))⟩

/-- Two parts of a value. -/
theorem and (h : Verdicts before after lost freed) (h' : Verdicts before' after' lost' freed') :
    Verdicts (before ∧ before') (after ∧ after') (lost ∨ lost') (freed ∨ freed') where
  after_iff := by
    rintro ⟨hb, hb'⟩
    rw [h.after_iff hb, h'.after_iff hb', not_or]
  before_iff := by
    rintro ⟨ha, ha'⟩
    rw [h.before_iff ha, h'.before_iff ha', not_or]

/-- A part of a value that is looked at under a condition. -/
theorem imp {s : Prop} (h : s → Verdicts before after lost freed) :
    Verdicts (s → before) (s → after) (s ∧ lost) (s ∧ freed) where
  after_iff hb := by
    rw [not_and]
    exact forall_congr' fun hs => (h hs).after_iff (hb hs)
  before_iff ha := by
    rw [not_and]
    exact forall_congr' fun hs => (h hs).before_iff (ha hs)

/-- All parts of a value. -/
theorem all {ι : Sort*} {p q u v : ι → Prop} (h : ∀ i, Verdicts (p i) (q i) (u i) (v i)) :
    Verdicts (∀ i, p i) (∀ i, q i) (∃ i, u i) (∃ i, v i) where
  after_iff hp := by
    rw [not_exists]
    exact forall_congr' fun i => (h i).after_iff (hp i)
  before_iff hq := by
    rw [not_exists]
    exact forall_congr' fun i => (h i).before_iff (hq i)

end Verdicts

/-! ## Empty texts -/

mutual

/-- **The empty text in a value**, in place of an attribute or of a nested block that is singled
out, on any level. -/
inductive Block.HoldsEmpty (p : Attribute → Prop) (q : Nested Block → Prop) : Block → Json → Prop
  | member {b : Block} {d : Dict Json} {e : String × Attribute} (he : e ∈ b.attributes)
    (hp : p e.2) (hv : value? d e.1 = some (.string "")) : Block.HoldsEmpty p q b (.object d)
  | nested {b : Block} {d : Dict Json} {e : String × Nested Block} (he : e ∈ b.blocks)
    (h : Nested.HoldsEmpty p q e.2 (value? d e.1)) : Block.HoldsEmpty p q b (.object d)

/-- The empty text in place of a nested block, or in the values of the block. -/
inductive Nested.HoldsEmpty (p : Attribute → Prop) (q : Nested Block → Prop) :
    Nested Block → Option Json → Prop
  | itself {n : Nested Block} (hq : q n) : Nested.HoldsEmpty p q n (some (.string ""))
  | single {n : Nested Block} (hmode : n.mode = .single) {v : Json}
    (h : Block.HoldsEmpty p q n.block v) : Nested.HoldsEmpty p q n (some v)
  | item {n : Nested Block} (hmode : n.mode ≠ .single) {items : List Json} {v : Json}
    (hv : v ∈ items) (h : Block.HoldsEmpty p q n.block v) :
    Nested.HoldsEmpty p q n (some (.array items))

end

/-- An attribute that is looked at and whose values are not all texts. -/
def Attribute.Restricted (a : Attribute) : Prop :=
  ¬a.computedOnly ∧ (a.type ≠ .string ∨ a.allowed ≠ [])

/-- **A required attribute is the empty text**, which its normal form lacks. -/
def Block.EmptyRequired : Block → Json → Prop :=
  Block.HoldsEmpty (fun a => a.flags.required) fun _ => False

/-- **An attribute that admits no empty text is one**, or a nested block is, and its normal form is
freed of it. -/
def Block.EmptyRestricted : Block → Json → Prop :=
  Block.HoldsEmpty Attribute.Restricted fun _ => True

section HoldsEmpty

variable {p : Attribute → Prop} {q : Nested Block → Prop} {b : Block} {n : Nested Block}

/-- What a value holds, it holds in place of an attribute or in a nested block. -/
theorem Block.holdsEmpty_iff {v : Json} : b.HoldsEmpty p q v ↔
    (∃ e ∈ b.attributes, p e.2 ∧ v.member? e.1 = some (.string "")) ∨
      ∃ e ∈ b.blocks, e.2.HoldsEmpty p q (v.member? e.1) := by
  constructor
  · intro h
    cases h with
    | member he hp hv => exact .inl ⟨_, he, hp, hv⟩
    | nested he h => exact .inr ⟨_, he, h⟩
  · intro h
    cases v with
    | object d =>
      rcases h with ⟨e, he, hp, hv⟩ | ⟨e, he, h⟩
      · exact .member he hp hv
      · exact .nested he h
    | _ =>
      rcases h with ⟨e, -, -, hv⟩ | ⟨e, -, h⟩
      · cases hv
      · cases h

/-- Only objects hold something. -/
theorem Block.HoldsEmpty.exists_object {v : Json} (h : b.HoldsEmpty p q v) :
    ∃ d, v = .object d := by
  cases h with
  | member => exact ⟨_, rfl⟩
  | nested => exact ⟨_, rfl⟩

theorem Nested.not_holdsEmpty_absent {v : Option Json} (hv : Json.Absent v) :
    ¬n.HoldsEmpty p q v := by
  intro h
  rcases hv with rfl | rfl
  · cases h
  · cases h with
    | single _ h => cases h

theorem Nested.holdsEmpty_single_iff (hmode : n.mode = .single) {v : Json} (hv : v ≠ .string "") :
    n.HoldsEmpty p q (some v) ↔ n.block.HoldsEmpty p q v := by
  constructor
  · intro h
    cases h with
    | itself => exact absurd rfl hv
    | single _ h => exact h
    | item hother => exact absurd hmode hother
  · exact .single hmode

/-- What a list of blocks holds, it holds as itself or in one of its items. -/
theorem Nested.holdsEmpty_items_iff (hmode : n.mode ≠ .single) {v : Option Json} :
    n.HoldsEmpty p q v ↔ (q n ∧ v = some (.string "")) ∨
      ∃ w ∈ (v.bind Json.items?).getD [], n.block.HoldsEmpty p q w := by
  constructor
  · intro h
    cases h with
    | itself hq => exact .inl ⟨hq, rfl⟩
    | single hother => exact absurd hother hmode
    | item _ hv h => exact .inr ⟨_, hv, h⟩
  · rintro (⟨hq, rfl⟩ | ⟨w, hw, h⟩)
    · exact .itself hq
    · cases v with
      | none => cases hw
      | some v =>
        cases v with
        | array items => exact .item hmode hw h
        | _ => cases hw

end HoldsEmpty

theorem Json.isUnset_eq_false {w : Json} (hnull : w ≠ .null) (hempty : w ≠ .string "") :
    w.isUnset = false := by
  cases w with
  | null => exact absurd rfl hnull
  | string s =>
    have hs : s ≠ "" := fun hs => hempty (hs ▸ rfl)
    simpa [isUnset] using hs
  | _ => rfl

/-! ## Attributes -/

/-- **An attribute that fits**: a default conforms and is not required, a normalizer changes free
texts that are not required, and the empty text is not among the allowed values. -/
structure Attribute.Fit (a : Attribute) : Prop where
  default : ∀ v, a.default = some v → a.flags.required = false ∧ a.Conforms (some v)
  normalizer : a.normalizer ≠ none →
    a.flags.required = false ∧ a.type = .string ∧ a.allowed = []
  allowed : ∀ u ∈ a.allowed, u.sameValue (.string "") = false

namespace Attribute

variable {a : Attribute} {v : Option Json}

theorem conforms_absent_iff (hv : Json.Absent v) : a.Conforms v ↔ a.flags.required = false := by
  constructor
  · intro h
    cases h with
    | computed hcomputed =>
      simp only [computedOnly, Bool.and_eq_true, Bool.not_eq_true'] at hcomputed
      exact hcomputed.2
    | absent h => exact h
    | value htype =>
      rcases hv with hv | hv
      · cases hv
      · rw [Option.some.inj hv] at htype
        exact absurd htype a.type.not_admits_null
  · exact fun h => .absent h hv

/-- What an absent value becomes conforms when it may be absent. -/
theorem conforms_default_iff (ha : a.Fit) : a.Conforms a.default ↔ a.flags.required = false := by
  cases hdefault : a.default with
  | none => exact conforms_absent_iff (.inl rfl)
  | some v =>
    obtain ⟨hrequired, hconforms⟩ := ha.default v hdefault
    exact iff_of_true hconforms hrequired

/-- Which attributes admit the empty text. -/
theorem conforms_empty_iff (ha : a.Fit) :
    a.Conforms (some (.string "")) ↔ ¬a.Restricted := by
  unfold Restricted
  by_cases hcomputed : a.computedOnly
  · exact iff_of_true (.computed hcomputed _) fun h => h.1 hcomputed
  rw [not_and, not_or, not_not, not_not]
  constructor
  · intro h _
    obtain ⟨htype, hallowed⟩ := h.admits hcomputed nofun
    refine ⟨?_, ?_⟩
    · generalize a.type = t at htype
      cases htype
      rfl
    · -- A choice admits what it allows, and it does not allow the empty text.
      by_contra hne
      obtain ⟨u, hu, hsame⟩ := hallowed hne
      rw [ha.allowed u hu] at hsame
      cases hsame
  · intro h
    obtain ⟨htype, hallowed⟩ := h hcomputed
    exact .value (htype ▸ .string "") fun hne => absurd hallowed hne

/-- A value that is set conforms exactly when what is made of it does. -/
theorem conforms_settle_iff (ha : a.Fit) {w : Json} (hw : w.isUnset = false) :
    a.Conforms (a.settle (some w)) ↔ a.Conforms (some w) := by
  by_cases hnormalizer : a.normalizer = none
  · rw [settle_of_set hnormalizer hw]
  -- A normalizer changes texts only, and all of them conform, as the absence of a text does.
  obtain ⟨hrequired, htype, hallowed⟩ := ha.normalizer hnormalizer
  have htext : ∀ s, a.Conforms (some (.string s)) := fun s =>
    .value (htype ▸ .string s) fun hne => absurd hallowed hne
  by_cases hstring : ∃ s, w = .string s
  · obtain ⟨s, rfl⟩ := hstring
    refine iff_of_true ?_ (htext s)
    obtain ⟨s', hs'⟩ : ∃ s', a.normalized (.string s) = .string s' := by
      unfold normalized
      rcases a.normalizer with _ | ⟨⟨⟩⟩
      · exact ⟨s, rfl⟩
      · exact ⟨Text.trim s, rfl⟩
    unfold settle
    rw [Option.map_some, hs', Option.filter_some]
    split
    · exact htext s'
    · exact (conforms_default_iff ha).2 hrequired
  · have hkept : a.normalized w = w := by
      unfold normalized
      rcases a.normalizer with _ | ⟨⟨⟩⟩
      · rfl
      · cases w with
        | string s => exact absurd ⟨s, rfl⟩ hstring
        | _ => rfl
    rw [← hkept] at hw
    rw [settle_of_normalized hw, hkept]

/-- **The verdicts on an attribute** come apart at the empty text alone. -/
theorem verdicts (ha : a.Fit) (v : Option Json) :
    Verdicts (a.Conforms v) (a.Conforms (a.settle v))
      (a.flags.required ∧ v = some (.string "")) (a.Restricted ∧ v = some (.string "")) := by
  by_cases hv : Json.Absent v
  · have hdefault : a.settle v = a.default := by
      rcases hv with rfl | rfl
      · rfl
      · exact settle_of_isUnset rfl
    have hne : v ≠ some (.string "") := by
      rintro rfl
      rcases hv with hv | hv <;> cases hv
    refine .of_agree ?_ (fun h => hne h.2) fun h => hne h.2
    rw [hdefault, conforms_absent_iff hv, conforms_default_iff ha]
  obtain ⟨w, rfl⟩ : ∃ w, v = some w := Option.ne_none_iff_exists'.1 fun hnone => hv (.inl hnone)
  by_cases hempty : w = .string ""
  · -- The normal form has the default, while the value itself is a text.
    subst hempty
    rw [settle_of_isUnset rfl, conforms_default_iff ha, conforms_empty_iff ha]
    constructor
    · simp
    · simp
  · have hw : w.isUnset = false :=
      Json.isUnset_eq_false (fun hnull => hv (.inr (congrArg some hnull))) hempty
    have hne : some w ≠ some (.string "") := fun h => hempty (Option.some.inj h)
    exact .of_agree (conforms_settle_iff ha hw).symm (fun h => hne h.2) fun h => hne h.2

end Attribute

/-! ## Nested blocks -/

/-- **The two verdicts on a value of a block** come apart at empty texts alone. -/
def Block.Judged (b : Block) (v : Json) : Prop :=
  ∀ path, Verdicts (b.diagnose v path = []) (b.diagnose (b.normalize v) path = [])
    (b.EmptyRequired v) (b.EmptyRestricted v)

/-- **The two verdicts on a value of a nested block** come apart at empty texts alone. -/
def Nested.Judged (n : Nested Block) (v : Option Json) : Prop :=
  ∀ path, Verdicts (n.diagnose v path = [])
    (n.diagnose (n.settle (v.filter (!·.isUnset))) path = [])
    (n.HoldsEmpty (fun a => a.flags.required) (fun _ => False) v)
    (n.HoldsEmpty Attribute.Restricted (fun _ => True) v)

namespace Nested

variable {n : Nested Block} {v : Option Json} {w : Json}

/-- A value that is absent stays so, or becomes the list without items. -/
theorem judged_absent (hv : Json.Absent v) : n.Judged v := by
  intro path
  have hunset : v.filter (!·.isUnset) = none := by
    rcases hv with rfl | rfl <;> rfl
  refine .of_agree ?_ (not_holdsEmpty_absent hv) (not_holdsEmpty_absent hv)
  rw [hunset, diagnose_absent_iff hv]
  by_cases hmode : n.mode = .single
  · rw [settle_single hmode, Option.map_none, diagnose_absent_iff (.inl rfl)]
  · -- To have no items is what an absent list is refused for, if it must have some.
    rw [settle_none hmode, diagnose_array_iff hmode]
    simp [← UInt32.toNat_inj]

/-- The empty text is neither a block nor a list of blocks. -/
theorem judged_empty : n.Judged (some (.string "")) := by
  intro path
  refine .of_refused ?_ fun _ => .itself trivial
  by_cases hmode : n.mode = .single
  · rw [diagnose_single hmode Json.noConfusion]
    simp [Block.diagnose]
  · rw [diagnose_of_not_array hmode Json.noConfusion fun items => Json.noConfusion]
    exact List.cons_ne_nil _ _

/-- A single block is judged as the block. -/
theorem judged_single (hmode : n.mode = .single) (hnull : w ≠ .null) (hempty : w ≠ .string "")
    (ih : n.block.Judged w) : n.Judged (some w) := by
  intro path
  -- Null would pass for an absent block, but no value that is not null becomes null.
  have hnormal : n.block.normalize w ≠ .null := by
    by_cases hobject : ∃ d, w = .object d
    · obtain ⟨d, rfl⟩ := hobject
      rw [Block.normalize_object]
      exact Json.noConfusion
    · rwa [n.block.normalize_of_ne_object fun d hd => hobject ⟨d, hd⟩]
  rw [Option.filter_some, if_pos (by simp [Json.isUnset_eq_false hnull hempty]),
    settle_single hmode, Option.map_some, diagnose_single hmode hnull,
    diagnose_single hmode hnormal, holdsEmpty_single_iff hmode hempty,
    holdsEmpty_single_iff hmode hempty]
  exact ih path

/-- A list of blocks is judged item by item. -/
theorem judged_array (hmode : n.mode ≠ .single) {items : List Json}
    (ih : ∀ w ∈ items, n.block.Judged w) : n.Judged (some (.array items)) := by
  intro path
  have hmem : ∀ P : Json → Prop, (∃ v ∈ items, P v) ↔
      ∃ (i : Nat) (v : Json), items[i]? = some v ∧ P v := by
    intro P
    simp only [List.mem_iff_getElem?]
    exact ⟨fun ⟨v, ⟨i, hi⟩, hP⟩ => ⟨i, v, hi, hP⟩, fun ⟨i, v, hi, hP⟩ => ⟨v, ⟨i, hi⟩, hP⟩⟩
  have hset : (some (Json.array items)).filter (!·.isUnset) = some (.array items) := rfl
  have hitems : ∀ (p : Attribute → Prop) (q : Nested Block → Prop),
      n.HoldsEmpty p q (some (.array items)) ↔ ∃ v ∈ items, n.block.HoldsEmpty p q v := by
    intro p q
    rw [holdsEmpty_items_iff hmode, or_iff_right (by simp)]
    rfl
  rw [hset, settle_array hmode, diagnose_array_iff hmode, diagnose_array_iff hmode,
    List.length_map, hitems, hitems, hmem, hmem]
  simp only [List.getElem?_map, Option.map_eq_some_iff, forall_exists_index, and_imp,
    forall_apply_eq_imp_iff₂]
  have hverdicts := Verdicts.all fun i : Nat => Verdicts.all fun w => Verdicts.imp
    fun hi : items[i]? = some w => ih w (List.mem_of_getElem? hi) (Schema.itemPath path i)
  simpa only [false_or, Block.EmptyRequired, Block.EmptyRestricted] using
    (Verdicts.of_agree Iff.rfl not_false not_false).and hverdicts

/-- **A nested block is judged** as the block itself. -/
theorem judged (ih : ∀ w : Json, w.Canonical → n.block.Judged w)
    (hv : ∀ w, v = some w → w.Canonical) : n.Judged v := by
  by_cases habsent : Json.Absent v
  · exact judged_absent habsent
  obtain ⟨w, rfl⟩ : ∃ w, v = some w :=
    Option.ne_none_iff_exists'.1 fun hnone => habsent (.inl hnone)
  have hnull : w ≠ .null := fun hnull => habsent (.inr (congrArg some hnull))
  by_cases hempty : w = .string ""
  · rw [hempty]
    exact judged_empty
  by_cases hmode : n.mode = .single
  · exact judged_single hmode hnull hempty (ih w (hv w rfl))
  by_cases harray : ∃ items, w = .array items
  · obtain ⟨items, rfl⟩ := harray
    exact judged_array hmode fun w hw => ih w (Json.CanonicalItems.canonical (hv _ rfl) hw)
  · intro path
    have hrefused : n.diagnose (some w) path ≠ [] := by
      rw [diagnose_of_not_array hmode hnull (not_exists.1 harray)]
      exact List.cons_ne_nil _ _
    rw [Option.filter_some, if_pos (by simp [Json.isUnset_eq_false hnull hempty]),
      settle_of_not_array hmode (not_exists.1 harray)]
    exact .of_refused hrefused fun h => absurd h hrefused

end Nested

/-! ## Blocks -/

/-- A block whose names are in order and each that of one thing, and whose attributes fit. -/
structure Block.FitHere (b : Block) : Prop where
  ordered : b.Ordered
  apart : ∀ e ∈ b.attributes, value? b.blocks e.1 = none
  attributes : ∀ e ∈ b.attributes, e.2.Fit

/-- **A block that fits**, on every level. -/
def Block.Fit : Block → Prop :=
  Block.Throughout Block.FitHere

namespace Block

variable {b : Block}

theorem FitHere.settle_attribute (hb : b.FitHere) {e : String × Attribute}
    (he : e ∈ b.attributes) (v : Option Json) : b.settle e.1 v = e.2.settle v := by
  unfold settle settleNested settleAttribute
  rw [hb.apart e he, value?_of_mem hb.ordered.attributes.nodup_names he]
  exact e.2.settle_filter v

theorem FitHere.settle_nested (hb : b.FitHere) {e : String × Nested Block}
    (he : e ∈ b.blocks) (v : Option Json) :
    b.settle e.1 v = e.2.settle (v.filter (!·.isUnset)) := by
  have hnested : value? b.blocks e.1 = some e.2 := value?_of_mem hb.ordered.blocks.nodup_names he
  have hattribute : value? b.attributes e.1 = none := by
    refine Option.eq_none_iff_forall_ne_some.2 fun a ha => ?_
    rw [hb.apart _ (mem_of_value? ha)] at hnested
    cases hnested
  unfold settle settleNested settleAttribute
  rw [hattribute, hnested]

/-- **The verdict on a normal form**, member by member. -/
theorem FitHere.diagnose_normalize_iff (hb : b.FitHere) {d : Dict Json} (hd : Dict.Ordered d)
    {path : String} : b.diagnose (b.normalize (.object d)) path = [] ↔
      (∀ e ∈ b.attributes, e.2.Conforms (e.2.settle (value? d e.1))) ∧
        ∀ e ∈ b.blocks, e.2.diagnose (e.2.settle ((value? d e.1).filter (!·.isUnset)))
          (Schema.joinPath path e.1) = [] := by
  rw [normalize_object, diagnose_object_eq_nil_iff]
  refine and_congr (forall₂_congr fun e he => ?_) (forall₂_congr fun e he => ?_)
  · rw [value?_settled hb.ordered hd, hb.settle_attribute he]
  · rw [value?_settled hb.ordered hd, hb.settle_nested he]

/-- **A block that fits is judged**: the two verdicts come apart at empty texts alone. -/
theorem judged (b : Block) (hb : b.Fit) {v : Json} (hv : v.Canonical) : b.Judged v := by
  -- Induction on the nesting; on each level a value is judged member by member.
  induction b using Block.induction generalizing v with
  | step b ih =>
    obtain ⟨hhere, hnested⟩ := hb
    intro path
    by_cases hobject : ∃ d, v = .object d
    · obtain ⟨d, rfl⟩ := hobject
      obtain ⟨hd, hmembers⟩ := hv
      have hattributes := Verdicts.all fun e => Verdicts.imp fun he : e ∈ b.attributes =>
        Attribute.verdicts (hhere.attributes e he) (value? d e.1)
      have hblocks := Verdicts.all fun e => Verdicts.imp fun he : e ∈ b.blocks =>
        Nested.judged (v := value? d e.1) (fun w hw => ih e he (hnested e he) hw)
          (fun w hw => hmembers.canonical (mem_of_value? hw)) (Schema.joinPath path e.1)
      unfold EmptyRequired EmptyRestricted
      rw [diagnose_object_eq_nil_iff, hhere.diagnose_normalize_iff hd, holdsEmpty_iff,
        holdsEmpty_iff]
      exact hattributes.and hblocks
    · rw [b.normalize_of_ne_object fun d hd => hobject ⟨d, hd⟩]
      exact .of_agree Iff.rfl (fun h => hobject h.exists_object) fun h => hobject h.exists_object

end Block

/-! ## Schemas -/

/-- **Validation and normalization agree** on a value exactly when no empty text tells the verdicts
apart: an accepted value has none in place of a required attribute, and a value with an accepted
normal form has none where texts are restricted. -/
theorem Schema.validate_iff_validate_normalize (s : Schema) (hs : s.block.Fit) {v : Json}
    (hv : v.Canonical) : (s.validate v = [] ↔ s.validate (s.normalize v) = []) ↔
      (s.validate v = [] → ¬s.block.EmptyRequired v) ∧
        (s.validate (s.normalize v) = [] → ¬s.block.EmptyRestricted v) :=
  (Block.judged s.block hs hv "").agree_iff

end LoggingProvider
