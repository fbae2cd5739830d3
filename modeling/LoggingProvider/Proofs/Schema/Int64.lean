import LoggingProvider.Proofs.Schema.Conformance

/-!
# Integers of 64 bits

The numbers that are judged are those in place of an integer, alone or in a list on any depth, in
an attribute of the block or of a block that is nested in it. Those of attributes that the provider
computes are not looked at. A number that is judged is reported unless it counts as an integer of 64
bits, and a few that are none count as such.

## Main definitions

* `AttributeType.Judges`, `Block.Judges`: the numbers that are judged, each with its path
* `AttributeType.notInt64`: the finding about a number that is no integer of 64 bits

## Main results

* `Block.mem_diagnose_iff`: the findings about numbers are those about the ones that are judged
* `Schema.int64_reported_iff`: which numbers are reported
* `Schema.int64_bound_accepted`: a number that is not reported
-/

namespace LoggingProvider

open Dict

/-! ## Which numbers are judged -/

/-- **The numbers that are judged** in a value of a type, each with its path: those in place of an
integer, alone or in a list on any depth. -/
inductive AttributeType.Judges : AttributeType → Json → String → Number → String → Prop
  /-- The value itself. -/
  | here (n : Number) (path : String) : Judges .int64 (.number n) path n path
  /-- A number in an item of a list. -/
  | item {element : AttributeType} {items : List Json} {i : Nat} {v : Json}
    (hi : items[i]? = some v) {path q : String} {n : Number}
    (h : Judges element v (Schema.itemPath path i) n q) :
    Judges (.list element) (.array items) path n q

/-- **The numbers that are judged** in a value of a block, each with its path: those of attributes
that are not computed, in the block and in what is nested in it. -/
inductive Block.Judges : Block → Json → String → Number → String → Prop
  /-- A number in an attribute. -/
  | inAttribute {b : Block} {e : String × Attribute} (he : e ∈ b.attributes)
    (hcomputed : ¬e.2.computedOnly) {d : Dict Json} {v : Json} (hv : value? d e.1 = some v)
    {path q : String} {n : Number} (h : e.2.type.Judges v (Schema.joinPath path e.1) n q) :
    Judges b (.object d) path n q
  /-- A number in a single block. -/
  | inSingle {b : Block} {e : String × Nested Block} (he : e ∈ b.blocks)
    (hmode : e.2.mode = .single) {d : Dict Json} {v : Json} (hv : value? d e.1 = some v)
    {path q : String} {n : Number} (h : Judges e.2.block v (Schema.joinPath path e.1) n q) :
    Judges b (.object d) path n q
  /-- A number in an item of a list or a set. -/
  | inItem {b : Block} {e : String × Nested Block} (he : e ∈ b.blocks) (hmode : e.2.mode ≠ .single)
    {d : Dict Json} {items : List Json} (hitems : value? d e.1 = some (.array items)) {i : Nat}
    {v : Json} (hi : items[i]? = some v) {path q : String} {n : Number}
    (h : Judges e.2.block v (Schema.itemPath (Schema.joinPath path e.1) i) n q) :
    Judges b (.object d) path n q

/-! ## Findings -/

/-- What is found in the items of a list is found in one of them. -/
theorem mem_flatMap_zipIdx_iff {α β : Type} (l : List α) (find : α → Nat → List β) {x : β} :
    (x ∈ l.zipIdx.flatMap fun e => find e.1 e.2) ↔ ∃ i a, l[i]? = some a ∧ x ∈ find a i := by
  rw [List.mem_flatMap]
  constructor
  · rintro ⟨⟨a, i⟩, he, hx⟩
    exact ⟨i, a, List.mem_zipIdx_iff_getElem?.1 he, hx⟩
  · rintro ⟨i, a, hi, hx⟩
    exact ⟨(a, i), List.mem_zipIdx_iff_getElem?.2 hi, hx⟩

namespace AttributeType

variable {path q : String} {v : Json}

/-- No number is judged in a text. -/
theorem not_judges_string (n : Number) : ¬AttributeType.string.Judges v path n q := nofun

/-- No number is judged in a truth value. -/
theorem not_judges_bool (n : Number) : ¬AttributeType.bool.Judges v path n q := nofun

/-- In place of an integer the number itself is judged. -/
theorem judges_int64_iff {n : Number} :
    AttributeType.int64.Judges v path n q ↔ v = .number n ∧ q = path := by
  constructor
  · intro h
    cases h
    exact ⟨rfl, rfl⟩
  · rintro ⟨rfl, rfl⟩
    exact .here n q

/-- In a list the numbers in its items are judged. -/
theorem judges_list_iff {element : AttributeType} {n : Number} :
    (AttributeType.list element).Judges v path n q ↔ ∃ items, v = .array items ∧
      ∃ i w, items[i]? = some w ∧ element.Judges w (Schema.itemPath path i) n q := by
  constructor
  · intro h
    cases h with
    | item hi h => exact ⟨_, rfl, _, _, hi, h⟩
  · rintro ⟨items, rfl, i, w, hi, h⟩
    exact .item hi h

theorem not_judges_null (t : AttributeType) (n : Number) : ¬t.Judges .null path n q := nofun

/-- **The finding about a number** that is no integer of 64 bits. -/
def notInt64 (path : String) : Diagnostic :=
  ((Diagnostic.error ("Invalid type for attribute '" ++ path ++ "'")).withDetail
    "Expected int64, got number").withPath path

/-- The finding tells its path. -/
theorem notInt64_inj (h : notInt64 q = notInt64 path) : q = path :=
  Option.some.inj (congrArg Diagnostic.path h)

/-- A finding about anything else has another detail. -/
theorem notInt64_ne {finding : Diagnostic}
    (h : finding.detail ≠ some "Expected int64, got number") : notInt64 q ≠ finding := by
  rintro rfl
  exact h rfl

theorem notInt64_not_mem_ite {c : Prop} [Decidable c] {finding : Diagnostic}
    (h : finding.detail ≠ some "Expected int64, got number") :
    notInt64 q ∉ if c then [finding] else [] := by
  intro hmem
  exact notInt64_ne h (List.mem_singleton.1 (List.mem_ite_nil_right.1 hmem).2)

theorem notInt64_not_mem_fault {expected : String}
    (h : "Expected " ++ expected ++ ", got " ++ v.kindName ≠ "Expected int64, got number") :
    notInt64 q ∉ [fault expected path v] := by
  rw [List.mem_singleton]
  exact notInt64_ne fun hdetail => h (Option.some.inj hdetail)

/-- **The findings about numbers** in a value of a type are those about the ones that are judged. -/
theorem mem_diagnose_iff (t : AttributeType) (v : Json) (path : String) :
    notInt64 q ∈ t.diagnose v path ↔ ∃ n, t.Judges v path n q ∧ ¬n.isInt64 := by
  induction t generalizing v path with
  | string =>
    simp only [not_judges_string, false_and, exists_false, iff_false]
    cases v with
    | string s => exact List.not_mem_nil
    | _ => exact notInt64_not_mem_fault (by simp only [Json.kindName]; decide)
  | int64 =>
    simp only [judges_int64_iff]
    cases v with
    | number n =>
      have hfault : fault "int64" path (.number n) = notInt64 path := rfl
      rw [diagnose, List.mem_ite_nil_left, List.mem_singleton, hfault]
      constructor
      · rintro ⟨hn, heq⟩
        exact ⟨n, ⟨rfl, notInt64_inj heq⟩, hn⟩
      · rintro ⟨n, ⟨hn', rfl⟩, hn⟩
        obtain rfl := Json.number.inj hn'
        exact ⟨hn, rfl⟩
    | _ =>
      simp only [reduceCtorEq, false_and, exists_false, iff_false]
      exact notInt64_not_mem_fault (by simp only [Json.kindName]; decide)
  | bool =>
    simp only [not_judges_bool, false_and, exists_false, iff_false]
    cases v with
    | bool b => exact List.not_mem_nil
    | _ => exact notInt64_not_mem_fault (by simp only [Json.kindName]; decide)
  | list element ih =>
    simp only [judges_list_iff]
    cases v with
    | array items =>
      refine (mem_flatMap_zipIdx_iff items fun v i =>
        element.diagnose v (Schema.itemPath path i)).trans ?_
      constructor
      · rintro ⟨i, v, hi, hfinding⟩
        obtain ⟨n, h, hn⟩ := (ih v _).1 hfinding
        exact ⟨n, ⟨items, rfl, i, v, hi, h⟩, hn⟩
      · rintro ⟨n, ⟨items', hitems, i, v, hi, h⟩, hn⟩
        obtain rfl := Json.array.inj hitems
        exact ⟨i, v, hi, (ih v _).2 ⟨n, h, hn⟩⟩
    | _ =>
      simp only [reduceCtorEq, false_and, exists_false, iff_false]
      exact notInt64_not_mem_fault (by simp only [Json.kindName]; decide)

end AttributeType

open AttributeType

section Findings

variable {path q : String}

theorem Attribute.notInt64_not_mem_diagnoseAllowed (a : Attribute) (v : Json) :
    notInt64 q ∉ a.diagnoseAllowed v path := by
  intro h
  refine notInt64_ne ?_ (List.mem_singleton.1 (List.mem_ite_nil_left.1 h).2)
  intro hdetail
  -- The two details come apart at the tenth character.
  have hstart := congrArg (fun s => s.toList.take 10) (Option.some.inj hdetail)
  simp at hstart

theorem Attribute.mem_diagnoseValue_iff (a : Attribute) (v : Json) :
    notInt64 q ∈ a.diagnoseValue v path ↔ ∃ n, a.type.Judges v path n q ∧ ¬n.isInt64 := by
  rw [← a.type.mem_diagnose_iff]
  unfold diagnoseValue
  split
  · next hnone =>
    rw [hnone]
    exact iff_of_false (a.notInt64_not_mem_diagnoseAllowed v) List.not_mem_nil
  · rfl

/-- The findings about numbers of an attribute that is not computed. -/
theorem Attribute.mem_diagnose_iff (a : Attribute) (v : Option Json) :
    notInt64 q ∈ a.diagnose v path ↔
      ¬a.computedOnly ∧ ∃ w, v = some w ∧ ∃ n, a.type.Judges w path n q ∧ ¬n.isInt64 := by
  have hmissing : notInt64 q ∉ if a.flags.required then [missing path] else [] :=
    notInt64_not_mem_ite fun hdetail => absurd (Option.some.inj hdetail) (by decide)
  unfold diagnose
  rw [List.mem_ite_nil_left]
  refine and_congr_right fun _ => ?_
  split
  · exact iff_of_false hmissing nofun
  · refine iff_of_false hmissing ?_
    rintro ⟨w, hw, n, h, -⟩
    obtain rfl := Option.some.inj hw
    exact a.type.not_judges_null n h
  · next w _ =>
    rw [mem_diagnoseValue_iff]
    simp

theorem Nested.notInt64_not_mem_diagnoseCount (least : UInt32) (items : List Json) :
    notInt64 q ∉ diagnoseCount least items path :=
  notInt64_not_mem_ite fun hdetail => Option.some_ne_none _ hdetail.symm

theorem Nested.notInt64_ne_notList (v : Json) : notInt64 q ≠ notList path v := by
  refine notInt64_ne fun hdetail => ?_
  have htext := Option.some.inj hdetail
  cases v <;> exact absurd htext (by simp only [Json.kindName]; decide)

/-- The findings about numbers of a single block are those of the block. -/
theorem Nested.mem_diagnose_single_iff {n : Nested Block} (hmode : n.mode = .single)
    (v : Option Json) : notInt64 q ∈ n.diagnose v path ↔
      ∃ w, v = some w ∧ notInt64 q ∈ n.block.diagnose w path := by
  have hmissing : notInt64 q ∉ if 0 < n.minItems then [missing path] else [] :=
    notInt64_not_mem_ite fun hdetail => absurd (Option.some.inj hdetail) (by decide)
  unfold diagnose
  rw [hmode]
  cases v with
  | none => exact iff_of_false hmissing nofun
  | some w =>
    cases w with
    | null => exact iff_of_false hmissing (by simp [Block.diagnose])
    | _ => simp

/-- The findings about numbers of a list or a set are those of the block in its items. -/
theorem Nested.mem_diagnose_items_iff {n : Nested Block} (hmode : n.mode ≠ .single)
    (v : Option Json) : notInt64 q ∈ n.diagnose v path ↔
      ∃ items, v = some (.array items) ∧
        ∃ i w, items[i]? = some w ∧ notInt64 q ∈ n.block.diagnose w (Schema.itemPath path i) := by
  have hcount : ∀ items, notInt64 q ∉ diagnoseCount n.minItems items path :=
    notInt64_not_mem_diagnoseCount n.minItems
  by_cases harray : ∃ items, v = some (.array items)
  · obtain ⟨items, rfl⟩ := harray
    have hitems := mem_flatMap_zipIdx_iff (x := notInt64 q) items fun w i =>
      n.block.diagnose w (Schema.itemPath path i)
    unfold diagnose
    cases hn : n.mode with
    | single => exact absurd hn hmode
    | _ => simp [hcount, hitems]
  · refine iff_of_false ?_ fun ⟨items, hv, _⟩ => harray ⟨items, hv⟩
    unfold diagnose
    cases hn : n.mode with
    | single => exact absurd hn hmode
    | _ =>
      cases v with
      | none => exact hcount []
      | some w =>
        cases w with
        | null => exact hcount []
        | array items => exact absurd ⟨items, rfl⟩ harray
        | _ => exact fun h => notInt64_ne_notList _ (List.mem_singleton.1 h)

theorem Block.notInt64_ne_notObject (v : Json) : notInt64 q ≠ notObject v path := by
  refine notInt64_ne fun hdetail => ?_
  have hgot : (notObject v path).detail = some ("Got " ++ v.kindName) := by
    unfold notObject
    split <;> rfl
  have htext := Option.some.inj (hgot.symm.trans hdetail)
  cases v <;> exact absurd htext (by simp only [Json.kindName]; decide)

end Findings

namespace Block

variable {path q : String} {n : Number}

theorem not_judges (b : Block) {v : Json} (h : ∀ d, v ≠ .object d) : ¬b.Judges v path n q := by
  rintro (⟨-, -, -, -⟩ | ⟨-, -, -, -⟩ | ⟨-, -, -, -, -⟩) <;> exact absurd rfl (h _)

/-- **The findings about numbers** in a value of a block are those about the ones that are
judged. -/
theorem mem_diagnose_iff (b : Block) (v : Json) (path : String) :
    notInt64 q ∈ b.diagnose v path ↔ ∃ n, b.Judges v path n q ∧ ¬n.isInt64 := by
  induction b using Block.induction generalizing v path with
  | step b ih =>
    cases v with
    | null =>
      refine iff_of_false (by simp [diagnose]) ?_
      rintro ⟨n, h, -⟩
      exact b.not_judges (by simp) h
    | object d =>
      rw [diagnose_object, List.mem_append, List.mem_flatMap, List.mem_flatMap]
      constructor
      · rintro (⟨e, he, h⟩ | ⟨e, he, h⟩)
        · obtain ⟨hcomputed, v, hv, n, h, hn⟩ := (e.2.mem_diagnose_iff _).1 h
          exact ⟨n, .inAttribute he hcomputed hv h, hn⟩
        · by_cases hmode : e.2.mode = .single
          · obtain ⟨v, hv, h⟩ := (Nested.mem_diagnose_single_iff hmode _).1 h
            obtain ⟨n, h, hn⟩ := (ih e he v _).1 h
            exact ⟨n, .inSingle he hmode hv h, hn⟩
          · obtain ⟨items, hitems, i, v, hi, h⟩ := (Nested.mem_diagnose_items_iff hmode _).1 h
            obtain ⟨n, h, hn⟩ := (ih e he v _).1 h
            exact ⟨n, .inItem he hmode hitems hi h, hn⟩
      · rintro ⟨n, h, hn⟩
        cases h with
        | inAttribute he hcomputed hv h =>
          exact .inl ⟨_, he, (Attribute.mem_diagnose_iff _ _).2 ⟨hcomputed, _, hv, n, h, hn⟩⟩
        | inSingle he hmode hv h =>
          exact .inr ⟨_, he, (Nested.mem_diagnose_single_iff hmode _).2
            ⟨_, hv, (ih _ he _ _).2 ⟨n, h, hn⟩⟩⟩
        | inItem he hmode hitems hi h =>
          exact .inr ⟨_, he, (Nested.mem_diagnose_items_iff hmode _).2
            ⟨_, hitems, _, _, hi, (ih _ he _ _).2 ⟨n, h, hn⟩⟩⟩
    | _ =>
      refine iff_of_false ?_ ?_
      · simp only [diagnose, List.mem_singleton]
        exact notInt64_ne_notObject _
      · rintro ⟨n, h, -⟩
        exact b.not_judges (by simp) h

end Block

/-! ## Schemas -/

/-- **Which numbers are reported**: those that are judged and are no integer of 64 bits, unless they
denote an integer from the bound to 1024 more. -/
theorem Schema.int64_reported_iff (s : Schema) (v : Json) (q : String) :
    notInt64 q ∈ s.validate v ↔ ∃ n, s.block.Judges v "" n q ∧
      ¬n.Within (-2 ^ 63) (2 ^ 63 - 1) ∧ ¬n.Within (2 ^ 63) (2 ^ 63 + 1024) := by
  rw [validate, Block.mem_diagnose_iff]
  refine exists_congr fun n => and_congr_right fun _ => ?_
  rw [Number.isInt64_iff, Number.within_iff_or (2 ^ 63) (by decide) (by decide), not_or]

/-- A schema of a number. -/
def Schema.digit : Schema :=
  (Schema.empty 0).withAttribute "digit" .requiredInt64

/-- The bound itself is not reported, though it is no integer of 64 bits. -/
theorem Schema.int64_bound_accepted :
    let v := Json.object [("digit", .number (.natural 9223372036854775808))]
    digit.validate v = [] ∧ digit.block.Judges v "" (.natural 9223372036854775808) "digit" ∧
      ¬Number.Within (-2 ^ 63) (2 ^ 63 - 1) (.natural 9223372036854775808) := by
  refine ⟨List.isEmpty_iff.1 (by decide +kernel), ?_, ?_⟩
  · exact .inAttribute (e := ("digit", .requiredInt64)) (List.mem_singleton.2 rfl) (by decide) rfl
      (.here _ _)
  · rw [Number.within_natural_iff]
    decide

end LoggingProvider
