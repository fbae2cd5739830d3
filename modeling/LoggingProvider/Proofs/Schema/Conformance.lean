import LoggingProvider.Proofs.Dict
import LoggingProvider.Proofs.Schema.Integer

/-!
# Values that conform to a schema

Which values conform to a schema is told without paths and findings: by the kind of each value, by
what may be absent, and by the number of items. Where an integer is wanted, a number must denote one
of a range, whose upper end is left open: a few numbers pass for integers of 64 bits that are none.

With the range that passes, a value without faults conforms, and a value that conforms has no faults
as long as the number of items in an array fits the 32 bits in which they are counted. Members
without a name in the schema are not looked at, on any level.

## Main definitions

* `AttributeType.AdmitsUpTo`, `Attribute.ConformsUpTo`, `Block.ConformsUpTo`, `Nested.ConformsUpTo`:
  the values that conform, with integers up to a given one
* `AttributeType.Admits`, `Attribute.Conforms`, `Block.Conforms`, `Nested.Conforms`: the values that
  conform, with the integers that pass
* `Json.ShortArrays`: the number of items in every array fits 32 bits
* `Block.Alike`: two values differ only in members without a name in a block

## Main results

* `Block.conforms_of_diagnose`, `Block.diagnose_of_conforms`: values without faults conform, and
  conversely
* `Block.isError_of_mem_diagnose`: every fault is an error
* `Block.diagnose_eq_of_alike`: members without a name do not count
-/

namespace LoggingProvider

open Dict

/-! ## Attributes -/

/-- **The values of a type**, where the integers are those from the least one of 64 bits to
`most`. -/
inductive AttributeType.AdmitsUpTo (most : ℤ) : AttributeType → Json → Prop
  | string (s : String) : AdmitsUpTo most .string (.string s)
  | int64 {n : Number} (h : n.Within (-2 ^ 63) most) : AdmitsUpTo most .int64 (.number n)
  | bool (b : Bool) : AdmitsUpTo most .bool (.bool b)
  | list {element : AttributeType} {items : List Json}
    (h : ∀ v ∈ items, element.AdmitsUpTo most v) : AdmitsUpTo most (.list element) (.array items)

/-- **The values that pass for those of a type**: 1024 integers more than those of 64 bits do. -/
abbrev AttributeType.Admits : AttributeType → Json → Prop :=
  AdmitsUpTo (2 ^ 63 + 1024)

theorem AttributeType.not_admits_null (t : AttributeType) {most : ℤ} : ¬t.AdmitsUpTo most .null :=
  nofun

/-- A member that is missing or null. -/
def Json.Absent (v : Option Json) : Prop :=
  v = none ∨ v = some .null

/-- **The values that conform to an attribute**, or their absence, with integers up to `most`. -/
inductive Attribute.ConformsUpTo (most : ℤ) (a : Attribute) : Option Json → Prop
  | computed (h : a.computedOnly) (v : Option Json) : ConformsUpTo most a v
  | absent (h : a.flags.required = false) {v : Option Json} (hv : Json.Absent v) :
    ConformsUpTo most a v
  | value {v : Json} (htype : a.type.AdmitsUpTo most v)
    (hallowed : a.allowed ≠ [] → ∃ u ∈ a.allowed, u.sameValue v) : ConformsUpTo most a (some v)

/-- The values that conform to an attribute, with the integers that pass. -/
abbrev Attribute.Conforms : Attribute → Option Json → Prop :=
  ConformsUpTo (2 ^ 63 + 1024)

/-- Nothing is found in the items of a list exactly when nothing is found in any of them. -/
theorem flatMap_zipIdx_eq_nil_iff {α β : Type} (l : List α) (find : α → Nat → List β) :
    (l.zipIdx.flatMap fun e => find e.1 e.2) = [] ↔ ∀ i a, l[i]? = some a → find a i = [] := by
  rw [List.flatMap_eq_nil_iff]
  constructor
  · intro hall i a hi
    exact hall (a, i) (List.mem_zipIdx_iff_getElem?.2 hi)
  · rintro hall ⟨a, i⟩ he
    exact hall i a (List.mem_zipIdx_iff_getElem?.1 he)

theorem AttributeType.diagnose_eq_nil_iff (t : AttributeType) (v : Json) (path : String) :
    t.diagnose v path = [] ↔ t.Admits v := by
  induction t generalizing v path with
  | string =>
    cases v with
    | string s => exact iff_of_true rfl (.string s)
    | _ => exact iff_of_false (List.cons_ne_nil _ _) nofun
  | int64 =>
    cases v with
    | number n =>
      simp only [diagnose, ite_eq_left_iff, List.cons_ne_nil, imp_false, not_not,
        Number.isInt64_iff]
      exact ⟨.int64, fun | .int64 h => h⟩
    | _ => exact iff_of_false (List.cons_ne_nil _ _) nofun
  | bool =>
    cases v with
    | bool b => exact iff_of_true rfl (.bool b)
    | _ => exact iff_of_false (List.cons_ne_nil _ _) nofun
  | list element ih =>
    cases v with
    | array items =>
      have hitems : (AttributeType.list element).diagnose (.array items) path = [] ↔
          ∀ i v, items[i]? = some v → element.diagnose v (Schema.itemPath path i) = [] :=
        flatMap_zipIdx_eq_nil_iff items fun v i => element.diagnose v (Schema.itemPath path i)
      simp only [hitems, ih]
      constructor
      · intro h
        refine .list fun v hv => ?_
        obtain ⟨i, hi⟩ := List.mem_iff_getElem?.1 hv
        exact h i v hi
      · intro h i v hi
        cases h with
        | list h => exact h v (List.mem_of_getElem? hi)
    | _ => exact iff_of_false (List.cons_ne_nil _ _) nofun

theorem Attribute.diagnoseAllowed_eq_nil_iff (a : Attribute) (v : Json) (path : String) :
    a.diagnoseAllowed v path = [] ↔ (a.allowed ≠ [] → ∃ u ∈ a.allowed, u.sameValue v) := by
  unfold diagnoseAllowed
  simp [imp_iff_not_or]

theorem Attribute.diagnoseValue_eq_nil_iff (a : Attribute) (v : Json) (path : String) :
    a.diagnoseValue v path = [] ↔
      a.type.Admits v ∧ (a.allowed ≠ [] → ∃ u ∈ a.allowed, u.sameValue v) := by
  rw [← a.type.diagnose_eq_nil_iff v path, ← a.diagnoseAllowed_eq_nil_iff v path]
  unfold diagnoseValue
  cases a.type.diagnose v path <;> simp

/-- A value that conforms and is looked at is of the type and among the allowed values. -/
theorem Attribute.ConformsUpTo.admits {most : ℤ} {a : Attribute} {v : Json}
    (h : a.ConformsUpTo most (some v)) (hcomputed : ¬a.computedOnly) (hnull : v ≠ .null) :
    a.type.AdmitsUpTo most v ∧ (a.allowed ≠ [] → ∃ u ∈ a.allowed, u.sameValue v) := by
  rcases h with h | ⟨-, hv⟩ | ⟨htype, hallowed⟩
  · exact absurd h hcomputed
  · rcases hv with hv | hv
    · cases hv
    · exact absurd (Option.some.inj hv) hnull
  · exact ⟨htype, hallowed⟩

/-- What is required and looked at is there, and of the type. -/
theorem Attribute.ConformsUpTo.exists_value {most : ℤ} {a : Attribute} {v : Option Json}
    (h : a.ConformsUpTo most v) (hcomputed : ¬a.computedOnly) (hrequired : a.flags.required) :
    ∃ w, v = some w ∧ a.type.AdmitsUpTo most w := by
  cases h with
  | computed h => exact absurd h hcomputed
  | absent h => rw [h] at hrequired; cases hrequired
  | @value w htype => exact ⟨w, rfl, htype⟩

/-- **An attribute has no faults** exactly when its value conforms. -/
theorem Attribute.diagnose_eq_nil_iff (a : Attribute) (v : Option Json) (path : String) :
    a.diagnose v path = [] ↔ a.Conforms v := by
  unfold diagnose
  by_cases hcomputed : a.computedOnly
  · exact iff_of_true (if_pos hcomputed) (.computed hcomputed v)
  rw [if_neg hcomputed]
  have habsent : ∀ {v}, Json.Absent v →
      ((if a.flags.required then [missing path] else []) = [] ↔ a.Conforms v) := by
    intro v hv
    simp only [ite_eq_right_iff, List.cons_ne_nil, imp_false, Bool.not_eq_true]
    refine ⟨fun h => .absent h hv, fun h => ?_⟩
    rcases h with h | ⟨h, -⟩ | ⟨htype, -⟩
    · exact absurd h hcomputed
    · exact h
    · obtain rfl : _ = Json.null := by simpa [Json.Absent] using hv
      exact absurd htype a.type.not_admits_null
  split
  · exact habsent (.inl rfl)
  · exact habsent (.inr rfl)
  · next v hnull =>
    rw [diagnoseValue_eq_nil_iff]
    exact ⟨fun ⟨htype, hallowed⟩ => .value htype hallowed, fun h => h.admits hcomputed hnull⟩

/-! ## Blocks -/

mutual

/-- **The values that conform to a block**: null, and the objects whose members conform, with
integers up to `most`. -/
inductive Block.ConformsUpTo (most : ℤ) : Block → Json → Prop
  | null (b : Block) : Block.ConformsUpTo most b .null
  | object {b : Block} {d : Dict Json}
    (hattributes : ∀ e ∈ b.attributes, e.2.ConformsUpTo most (value? d e.1))
    (hblocks : ∀ e ∈ b.blocks, Nested.ConformsUpTo most e.2 (value? d e.1)) :
    Block.ConformsUpTo most b (.object d)

/-- **The values that conform to a nested block**, or their absence, which is no item, with integers
up to `most`. -/
inductive Nested.ConformsUpTo (most : ℤ) : Nested Block → Option Json → Prop
  | absent {n : Nested Block} (hcount : n.minItems = 0) {v : Option Json} (hv : Json.Absent v) :
    Nested.ConformsUpTo most n v
  | single {n : Nested Block} (hmode : n.mode = .single) {v : Json} (hnull : v ≠ .null)
    (hv : Block.ConformsUpTo most n.block v) : Nested.ConformsUpTo most n (some v)
  | items {n : Nested Block} (hmode : n.mode ≠ .single) {items : List Json}
    (hcount : n.minItems.toNat ≤ items.length)
    (hitems : ∀ v ∈ items, Block.ConformsUpTo most n.block v) :
    Nested.ConformsUpTo most n (some (.array items))

end

/-- The values that conform to a block, with the integers that pass. -/
abbrev Block.Conforms : Block → Json → Prop :=
  ConformsUpTo (2 ^ 63 + 1024)

/-- The values that conform to a nested block, with the integers that pass. -/
abbrev Nested.Conforms : Nested Block → Option Json → Prop :=
  ConformsUpTo (2 ^ 63 + 1024)

/-- The faults of a nested block. -/
def Nested.diagnose (n : Nested Block) (v : Option Json) (path : String) : List Diagnostic :=
  match n.mode, v with
  | .single, none | .single, some .null => if 0 < n.minItems then [missing path] else []
  | .single, some v => n.block.diagnose v path
  | _, none | _, some .null => diagnoseCount n.minItems [] path
  | _, some (.array items) => diagnoseCount n.minItems items path ++
      items.zipIdx.flatMap fun e => n.block.diagnose e.1 (Schema.itemPath path e.2)
  | _, some v => [notList path v]

theorem Block.diagnoseBlocks_eq (blocks : List (String × Nested Block)) (d : Dict Json)
    (path : String) : diagnoseBlocks blocks d path =
      blocks.flatMap fun e => e.2.diagnose (value? d e.1) (Schema.joinPath path e.1) := by
  induction blocks with
  | nil => rfl
  | cons e rest ih =>
    obtain ⟨name, block, mode, least, most⟩ := e
    rw [List.flatMap_cons, ← ih]
    rfl

theorem Block.diagnose_object (b : Block) (d : Dict Json) (path : String) :
    b.diagnose (.object d) path =
      (b.attributes.flatMap fun e =>
        e.2.diagnose (value? d e.1) (Schema.joinPath path e.1)) ++
      b.blocks.flatMap fun e => e.2.diagnose (value? d e.1) (Schema.joinPath path e.1) := by
  obtain ⟨attributes, blocks, description⟩ := b
  rw [← diagnoseBlocks_eq, diagnose]

/-- **The number of items in every array fits 32 bits.** -/
inductive Json.ShortArrays : Json → Prop
  | null : ShortArrays .null
  | bool (b : Bool) : ShortArrays (.bool b)
  | number (n : Number) : ShortArrays (.number n)
  | string (s : String) : ShortArrays (.string s)
  | array {items : List Json} (hlength : items.length < UInt32.size)
    (hitems : ∀ v ∈ items, ShortArrays v) : ShortArrays (.array items)
  | object {d : Dict Json} (hmembers : ∀ e ∈ d, ShortArrays e.2) : ShortArrays (.object d)

theorem Json.shortArrays_array_iff {items : List Json} : (Json.array items).ShortArrays ↔
    items.length < UInt32.size ∧ ∀ v ∈ items, v.ShortArrays :=
  ⟨fun | .array hlength hitems => ⟨hlength, hitems⟩, fun h => .array h.1 h.2⟩

theorem Json.shortArrays_object_iff {d : Dict Json} :
    (Json.object d).ShortArrays ↔ ∀ e ∈ d, e.2.ShortArrays :=
  ⟨fun | .object hmembers => hmembers, .object⟩

namespace Nested

variable {n : Nested Block} {v : Option Json} {w : Json} {path : String}

/-! ### Which faults a nested block has -/

theorem diagnoseCount_eq_nil_iff {least : UInt32} {items : List Json} :
    diagnoseCount least items path = [] ↔ least.toNat ≤ items.length % UInt32.size := by
  unfold diagnoseCount
  simp [UInt32.lt_iff_toNat_lt]

theorem diagnoseCount_nil_eq_nil_iff {least : UInt32} :
    diagnoseCount least [] path = [] ↔ least = 0 := by
  rw [diagnoseCount_eq_nil_iff, ← UInt32.toNat_inj]
  simp

theorem diagnose_absent_iff (hv : Json.Absent v) : n.diagnose v path = [] ↔ n.minItems = 0 := by
  have hsingle : (if 0 < n.minItems then [missing path] else []) = [] ↔ n.minItems = 0 := by
    simp
  unfold diagnose
  rcases hv with rfl | rfl <;> cases n.mode
  · exact hsingle
  · exact diagnoseCount_nil_eq_nil_iff
  · exact diagnoseCount_nil_eq_nil_iff
  · exact hsingle
  · exact diagnoseCount_nil_eq_nil_iff
  · exact diagnoseCount_nil_eq_nil_iff

theorem diagnose_single (hmode : n.mode = .single) (hnull : w ≠ .null) :
    n.diagnose (some w) path = n.block.diagnose w path := by
  unfold diagnose
  rw [hmode]
  cases w with
  | null => exact absurd rfl hnull
  | _ => rfl

theorem diagnose_array_iff (hmode : n.mode ≠ .single) {items : List Json} :
    n.diagnose (some (.array items)) path = [] ↔
      n.minItems.toNat ≤ items.length % UInt32.size ∧
        ∀ i v, items[i]? = some v → n.block.diagnose v (Schema.itemPath path i) = [] := by
  have hitems := flatMap_zipIdx_eq_nil_iff items fun v i =>
    n.block.diagnose v (Schema.itemPath path i)
  unfold diagnose
  cases hn : n.mode with
  | single => exact absurd hn hmode
  | _ => simp only [List.append_eq_nil_iff, diagnoseCount_eq_nil_iff, hitems]

theorem diagnose_of_not_array (hmode : n.mode ≠ .single) (hnull : w ≠ .null)
    (harray : ∀ items, w ≠ .array items) : n.diagnose (some w) path = [notList path w] := by
  unfold diagnose
  cases hn : n.mode with
  | single => exact absurd hn hmode
  | _ =>
    cases w with
    | null => exact absurd rfl hnull
    | array items => exact absurd rfl (harray items)
    | _ => rfl

/-! ### Faults and conformity -/

/-- **A nested block without faults conforms**, if that is so of the block itself. -/
theorem conforms_of_diagnose (h : n.diagnose v path = [])
    (ih : ∀ w path, n.block.diagnose w path = [] → n.block.Conforms w) : n.Conforms v := by
  by_cases hv : Json.Absent v
  · exact .absent ((diagnose_absent_iff hv).1 h) hv
  obtain ⟨w, rfl⟩ : ∃ w, v = some w := Option.ne_none_iff_exists'.1 fun hnone => hv (.inl hnone)
  have hnull : w ≠ .null := fun hnull => hv (.inr (congrArg some hnull))
  by_cases hmode : n.mode = .single
  · rw [diagnose_single hmode hnull] at h
    exact .single hmode hnull (ih w path h)
  by_cases harray : ∃ items, w = .array items
  · obtain ⟨items, rfl⟩ := harray
    obtain ⟨hcount, hitems⟩ := (diagnose_array_iff hmode).1 h
    refine .items hmode (Nat.le_trans hcount (Nat.mod_le _ _)) fun v hv => ?_
    obtain ⟨i, hi⟩ := List.mem_iff_getElem?.1 hv
    exact ih v _ (hitems i v hi)
  · rw [diagnose_of_not_array hmode hnull (not_exists.1 harray)] at h
    cases h

/-- **A nested block that conforms has no faults** if its items can be counted and that is so of the
block itself. -/
theorem diagnose_of_conforms (h : n.Conforms v) (hv : ∀ w, v = some w → w.ShortArrays)
    (ih : ∀ w path, w.ShortArrays → n.block.Conforms w → n.block.diagnose w path = []) :
    n.diagnose v path = [] := by
  cases h with
  | absent hcount habsent => exact (diagnose_absent_iff habsent).2 hcount
  | single hmode hnull h =>
    rw [diagnose_single hmode hnull]
    exact ih _ path (hv _ rfl) h
  | items hmode hcount hitems =>
    obtain ⟨hlength, hshort⟩ := Json.shortArrays_array_iff.1 (hv _ rfl)
    refine (diagnose_array_iff hmode).2 ⟨?_, fun i v hi => ?_⟩
    · rwa [Nat.mod_eq_of_lt hlength]
    · have hmem := List.mem_of_getElem? hi
      exact ih v _ (hshort v hmem) (hitems v hmem)

end Nested

namespace Block

theorem diagnose_object_eq_nil_iff (b : Block) (d : Dict Json) (path : String) :
    b.diagnose (.object d) path = [] ↔
      (∀ e ∈ b.attributes, e.2.Conforms (value? d e.1)) ∧
        ∀ e ∈ b.blocks, e.2.diagnose (value? d e.1) (Schema.joinPath path e.1) = [] := by
  simp only [diagnose_object, List.append_eq_nil_iff, List.flatMap_eq_nil_iff,
    Attribute.diagnose_eq_nil_iff]

/-- **A value without faults conforms** to the block, however many items it has. -/
theorem conforms_of_diagnose (b : Block) (v : Json) (path : String)
    (h : b.diagnose v path = []) : b.Conforms v := by
  induction b using Block.induction generalizing v path with
  | step b ih =>
    cases v with
    | null => exact .null b
    | object d =>
      obtain ⟨hattributes, hblocks⟩ := (b.diagnose_object_eq_nil_iff d path).1 h
      exact .object hattributes fun e he => Nested.conforms_of_diagnose (hblocks e he) (ih e he)
    | _ => simp [diagnose] at h

/-- **A value that conforms has no faults** if its items can be counted. -/
theorem diagnose_of_conforms (b : Block) (v : Json) (path : String) (hv : v.ShortArrays)
    (h : b.Conforms v) : b.diagnose v path = [] := by
  induction b using Block.induction generalizing v path with
  | step b ih =>
    cases h with
    | null => simp [diagnose]
    | object hattributes hblocks =>
      have hmembers := Json.shortArrays_object_iff.1 hv
      refine (b.diagnose_object_eq_nil_iff _ path).2 ⟨hattributes, fun e he => ?_⟩
      refine Nested.diagnose_of_conforms (hblocks e he) (fun w hw => ?_) (ih e he)
      exact hmembers _ (mem_of_value? hw)

/-- **A value has no faults** against a block exactly when it conforms. -/
theorem diagnose_eq_nil_iff (b : Block) (v : Json) (path : String) (hv : v.ShortArrays) :
    b.diagnose v path = [] ↔ b.Conforms v :=
  ⟨b.conforms_of_diagnose v path, b.diagnose_of_conforms v path hv⟩

end Block

/-! ## Severity -/

/-- What is found under a condition is an error if the one finding is. -/
theorem Diagnostic.isError_of_mem_ite {p : Prop} [Decidable p] {d finding : Diagnostic}
    (hd : d.isError) (h : finding ∈ if p then [d] else []) : finding.isError := by
  obtain rfl := List.mem_singleton.1 (List.mem_ite_nil_right.1 h).2
  exact hd

theorem AttributeType.isError_of_mem_diagnose (t : AttributeType) {v : Json} {path : String}
    {finding : Diagnostic} (h : finding ∈ t.diagnose v path) : finding.isError := by
  induction t generalizing v path with
  | string =>
    cases v with
    | string s => cases h
    | _ => obtain rfl := List.mem_singleton.1 h; rfl
  | int64 =>
    cases v with
    | number n =>
      obtain rfl : finding = _ := List.mem_singleton.1 (List.mem_ite_nil_left.1 h).2
      rfl
    | _ => obtain rfl := List.mem_singleton.1 h; rfl
  | bool =>
    cases v with
    | bool b => cases h
    | _ => obtain rfl := List.mem_singleton.1 h; rfl
  | list element ih =>
    cases v with
    | array items =>
      obtain ⟨e, -, he⟩ := List.mem_flatMap.1 h
      exact ih he
    | _ => obtain rfl := List.mem_singleton.1 h; rfl

theorem Attribute.isError_of_mem_diagnose {a : Attribute} {v : Option Json} {path : String}
    {finding : Diagnostic} (h : finding ∈ a.diagnose v path) : finding.isError := by
  unfold diagnose at h
  replace h := (List.mem_ite_nil_left.1 h).2
  split at h
  · exact Diagnostic.isError_of_mem_ite rfl h
  · exact Diagnostic.isError_of_mem_ite rfl h
  · unfold diagnoseValue at h
    split at h
    · obtain rfl := List.mem_singleton.1 (List.mem_ite_nil_left.1 h).2
      rfl
    · exact a.type.isError_of_mem_diagnose h

theorem Nested.isError_of_mem_diagnose {n : Nested Block} {v : Option Json} {path : String}
    {finding : Diagnostic} (h : finding ∈ n.diagnose v path)
    (ih : ∀ {w path}, finding ∈ n.block.diagnose w path → finding.isError) :
    finding.isError := by
  unfold diagnose at h
  split at h
  · exact Diagnostic.isError_of_mem_ite rfl h
  · exact Diagnostic.isError_of_mem_ite rfl h
  · exact ih h
  · exact Diagnostic.isError_of_mem_ite rfl h
  · exact Diagnostic.isError_of_mem_ite rfl h
  · rcases List.mem_append.1 h with hcount | hitems
    · exact Diagnostic.isError_of_mem_ite rfl hcount
    · obtain ⟨e, -, he⟩ := List.mem_flatMap.1 hitems
      exact ih he
  · obtain rfl := List.mem_singleton.1 h
    rfl

theorem Block.isError_notObject (v : Json) (path : String) : (notObject v path).isError := by
  unfold notObject
  split <;> rfl

/-- **Every finding about a value is an error.** -/
theorem Block.isError_of_mem_diagnose (b : Block) {v : Json} {path : String}
    {finding : Diagnostic} (h : finding ∈ b.diagnose v path) : finding.isError := by
  induction b using Block.induction generalizing v path with
  | step b ih =>
    cases v with
    | null => simp [diagnose] at h
    | object d =>
      rw [diagnose_object] at h
      rcases List.mem_append.1 h with hattribute | hnested
      · obtain ⟨e, -, he⟩ := List.mem_flatMap.1 hattribute
        exact Attribute.isError_of_mem_diagnose he
      · obtain ⟨e, he, hfinding⟩ := List.mem_flatMap.1 hnested
        exact Nested.isError_of_mem_diagnose hfinding (ih e he)
    | _ =>
      simp only [diagnose] at h
      obtain rfl := List.mem_singleton.1 h
      exact isError_notObject _ path

/-! ## Members without a name -/

mutual

/-- **Two values that differ only in members without a name** in a block, or in what is nested in
it. -/
inductive Block.Alike : Block → Json → Json → Prop
  | same (b : Block) (v : Json) : Block.Alike b v v
  | object {b : Block} {d d' : Dict Json}
    (hattributes : ∀ e ∈ b.attributes, value? d e.1 = value? d' e.1)
    (hblocks : ∀ e ∈ b.blocks, Nested.Alike e.2 (value? d e.1) (value? d' e.1)) :
    Block.Alike b (.object d) (.object d')

/-- Two values of a nested block that differ only in members without a name. -/
inductive Nested.Alike : Nested Block → Option Json → Option Json → Prop
  | same (n : Nested Block) (v : Option Json) : Nested.Alike n v v
  | single {n : Nested Block} (hmode : n.mode = .single) {v w : Json}
    (h : Block.Alike n.block v w) : Nested.Alike n (some v) (some w)
  | items {n : Nested Block} (hmode : n.mode ≠ .single) {vs ws : List Json}
    (hlength : vs.length = ws.length) (h : ∀ e ∈ vs.zip ws, Block.Alike n.block e.1 e.2) :
    Nested.Alike n (some (.array vs)) (some (.array ws))

end

/-- What is found in the items of two lists is the same if it is the same in items at one place. -/
theorem flatMap_zipIdx_congr {α β : Type} {r : α → α → Prop} {find : α → Nat → List β}
    {l l' : List α} (h : List.Forall₂ r l l') (hfind : ∀ a b, r a b → ∀ i, find a i = find b i)
    (k : Nat) :
    ((l.zipIdx k).flatMap fun e => find e.1 e.2) = (l'.zipIdx k).flatMap fun e => find e.1 e.2 := by
  induction h generalizing k with
  | nil => rfl
  | cons hab _ ih =>
    rw [List.zipIdx_cons, List.zipIdx_cons, List.flatMap_cons, List.flatMap_cons, ih, hfind _ _ hab]

/-- Only the number of items is counted. -/
theorem Nested.diagnoseCount_congr (least : UInt32) {vs ws : List Json}
    (h : vs.length = ws.length) (path : String) :
    diagnoseCount least vs path = diagnoseCount least ws path := by
  unfold diagnoseCount
  rw [h]

theorem Nested.diagnose_eq_of_alike {n : Nested Block} {v w : Option Json} (h : n.Alike v w)
    (ih : ∀ {v w}, n.block.Alike v w → ∀ path, n.block.diagnose v path = n.block.diagnose w path)
    (path : String) : n.diagnose v path = n.diagnose w path := by
  cases h with
  | same => rfl
  | single hmode h =>
    have hnested := ih h path
    cases h with
    | same => rfl
    | object => simpa only [diagnose, hmode] using hnested
  | @items _ hmode vs ws hlength h =>
    have halike : List.Forall₂ n.block.Alike vs ws :=
      List.forall₂_iff_zip.2 ⟨hlength, fun he => h _ he⟩
    have hcount := diagnoseCount_congr n.minItems hlength path
    have hitems :=
      flatMap_zipIdx_congr halike (fun _ _ h i => ih h (Schema.itemPath path i)) 0
    cases hn : n.mode with
    | single => exact absurd hn hmode
    | _ => simp only [diagnose, hn, hcount, hitems]

/-- **Members without a name do not count**: values that differ only in them have the same
faults. -/
theorem Block.diagnose_eq_of_alike (b : Block) {v w : Json} (h : b.Alike v w) (path : String) :
    b.diagnose v path = b.diagnose w path := by
  induction b using Block.induction generalizing v w path with
  | step b ih =>
    cases h with
    | same => rfl
    | object hattributes hblocks =>
      rw [diagnose_object, diagnose_object]
      refine congrArg₂ _ (List.flatMap_congr fun e he => ?_) (List.flatMap_congr fun e he => ?_)
      · rw [hattributes e he]
      · exact Nested.diagnose_eq_of_alike (hblocks e he) (ih e he) _

end LoggingProvider
