import LoggingProvider.Proofs.Dict
import LoggingProvider.Schema.Normalize
import Mathlib.Data.List.TakeWhile

/-!
# Normal forms member by member

The normal form of an object has, under each name, a value that depends only on the value which the
object has under that name: it is settled by the attribute of the name and then by the nested block
of the name. Facts about normal forms are facts about settled values.

## Main definitions

* `Attribute.settle`: the value of an attribute in a normal form
* `Nested.settle`: the value of a nested block in a normal form
* `Block.settle`: the value under a name in a normal form
* `Block.settled`: the members of a normal form

## Main results

* `Nested.settle_single`, `Nested.settle_array`: what is made of a single block and of a list
* `Block.value?_settled`: the normal form of an object, member by member
* `Attribute.isUnset_normalized_iff`: the values that an attribute counts as unset
* `Attribute.settle_settle`: an attribute without a normalizer or without a default settles once
-/

namespace LoggingProvider

open Dict

/-- The value of an attribute in a normal form. -/
def Attribute.settle (a : Attribute) (v : Option Json) : Option Json :=
  ((v.map a.normalized).filter (!·.isUnset)).or a.default

/-- The value of a nested block in a normal form. -/
def Nested.settle (n : Nested Block) (v : Option Json) : Option Json :=
  match n.mode, v with
  | .single, some v => some (n.block.normalize v)
  | .single, none => none
  | _, some (.array items) => some (.array (items.map n.block.normalize))
  | _, some v => some v
  | _, none => some (.array [])

namespace Nested

variable {n : Nested Block} {w : Json}

theorem settle_single (hmode : n.mode = .single) (v : Option Json) :
    n.settle v = v.map n.block.normalize := by
  unfold settle
  rw [hmode]
  cases v <;> rfl

theorem settle_none (hmode : n.mode ≠ .single) : n.settle none = some (.array []) := by
  unfold settle
  cases hn : n.mode with
  | single => exact absurd hn hmode
  | _ => rfl

theorem settle_array (hmode : n.mode ≠ .single) (items : List Json) :
    n.settle (some (.array items)) = some (.array (items.map n.block.normalize)) := by
  unfold settle
  cases hn : n.mode with
  | single => exact absurd hn hmode
  | _ => rfl

theorem settle_of_not_array (hmode : n.mode ≠ .single) (harray : ∀ items, w ≠ .array items) :
    n.settle (some w) = some w := by
  unfold settle
  cases hn : n.mode with
  | single => exact absurd hn hmode
  | _ =>
    cases w with
    | array items => exact absurd rfl (harray items)
    | _ => rfl

end Nested

namespace Block

/-- What a block makes of the value of a name, of which it may have an attribute. -/
def settleAttribute (b : Block) (name : String) (v : Option Json) : Option Json :=
  match value? b.attributes name with
  | some a => a.settle v
  | none => v

/-- What a block makes of the value of a name, of which it may have a nested block. -/
def settleNested (b : Block) (name : String) (v : Option Json) : Option Json :=
  match value? b.blocks name with
  | some n => n.settle v
  | none => v

/-- **The value under a name in a normal form.** -/
def settle (b : Block) (name : String) (v : Option Json) : Option Json :=
  b.settleNested name (b.settleAttribute name (v.filter (!·.isUnset)))

/-- The members of the normal form of an object. -/
def settled (b : Block) (d : Dict Json) : Dict Json :=
  normalizeBlocks b.blocks (b.attributes.foldl (fun d e => e.2.normalizeMember e.1 d)
    (Json.setMembers d))

/-- The attributes and the nested blocks are in name order. -/
structure Ordered (b : Block) : Prop where
  attributes : Dict.Ordered b.attributes
  blocks : Dict.Ordered b.blocks

theorem normalize_of_ne_object (b : Block) {v : Json} (h : ∀ d, v ≠ .object d) :
    b.normalize v = v := by
  obtain ⟨attributes, blocks, description⟩ := b
  cases v with
  | object d => exact absurd rfl (h d)
  | _ => simp [normalize]

theorem exists_object_of_normalize {b : Block} {v : Json} {d : Dict Json}
    (h : b.normalize v = .object d) : ∃ d₀, v = .object d₀ := by
  by_contra hobject
  rw [b.normalize_of_ne_object fun d₀ hd₀ => hobject ⟨d₀, hd₀⟩] at h
  exact hobject ⟨d, h⟩

theorem normalize_object (b : Block) (d : Dict Json) :
    b.normalize (.object d) = .object (b.settled d) := by
  obtain ⟨attributes, blocks, description⟩ := b
  rw [normalize]
  rfl

/-! ## One member -/

theorem value?_normalizeMember (name : String) (a : Attribute) (d : Dict Json) (other : String) :
    value? (a.normalizeMember name d) other =
      if name = other then a.settle (value? d name) else value? d other := by
  unfold Attribute.normalizeMember Attribute.settle
  cases hv : ((value? d name).map a.normalized).filter (!·.isUnset) with
  | some v => rw [value?_put, Option.some_or]
  | none =>
    cases hdef : a.default with
    | some v => rw [value?_put, Option.none_or]
    | none => rw [value?_remove, Option.none_or]

theorem ordered_normalizeMember (name : String) (a : Attribute) {d : Dict Json}
    (hd : Dict.Ordered d) : Dict.Ordered (a.normalizeMember name d) := by
  unfold Attribute.normalizeMember
  split
  · exact ordered_put hd _ _
  · split
    · exact ordered_put hd _ _
    · exact ordered_remove hd _

/-! ## All attributes -/

theorem value?_foldl_normalizeMember (attributes : List (String × Attribute))
    (ha : (names attributes).Nodup) (d : Dict Json) (name : String) :
    value? (attributes.foldl (fun d e => e.2.normalizeMember e.1 d) d) name =
      match value? attributes name with
      | some a => a.settle (value? d name)
      | none => value? d name := by
  induction attributes generalizing d with
  | nil => rfl
  | cons e rest ih =>
    obtain ⟨n, a⟩ := e
    obtain ⟨hn, hrest⟩ := List.nodup_cons.1 ha
    rw [List.foldl_cons, ih hrest, value?_normalizeMember, value?_cons]
    by_cases h : n = name
    · subst h
      have hnone : value? rest n = none :=
        value?_eq_none_iff.2 fun e he hen => hn (List.mem_map.2 ⟨e, he, hen⟩)
      simp [hnone]
    · simp [h]

theorem ordered_foldl_normalizeMember (attributes : List (String × Attribute)) {d : Dict Json}
    (hd : Dict.Ordered d) :
    Dict.Ordered (attributes.foldl (fun d e => e.2.normalizeMember e.1 d) d) := by
  induction attributes generalizing d with
  | nil => exact hd
  | cons e rest ih => exact ih (ordered_normalizeMember _ _ hd)

/-! ## All nested blocks -/

/-- The members of an object with one nested block normalized. -/
def normalizeNested (name : String) (n : Nested Block) (d : Dict Json) : Dict Json :=
  match n.mode, value? d name with
  | .single, some v => put name (n.block.normalize v) d
  | .single, none => d
  | _, some (.array items) => put name (.array (items.map n.block.normalize)) d
  | _, some _ => d
  | _, none => put name (.array []) d

theorem normalizeBlocks_cons (name : String) (n : Nested Block)
    (rest : List (String × Nested Block)) (d : Dict Json) :
    normalizeBlocks ((name, n) :: rest) d = normalizeBlocks rest (normalizeNested name n d) := by
  obtain ⟨block, mode, least, most⟩ := n
  conv_lhs => unfold normalizeBlocks
  rfl

theorem value?_normalizeNested (name : String) (n : Nested Block) (d : Dict Json)
    (other : String) :
    value? (normalizeNested name n d) other =
      if name = other then n.settle (value? d name) else value? d other := by
  unfold normalizeNested Nested.settle
  by_cases h : name = other
  · subst h
    cases n.mode <;> rcases hv : value? d name with _ | (_ | _ | _ | _ | _ | _) <;>
      simp [value?_put, hv]
  · rw [if_neg h]
    split <;> simp [value?_put, h]

theorem ordered_normalizeNested (name : String) (n : Nested Block) {d : Dict Json}
    (hd : Dict.Ordered d) : Dict.Ordered (normalizeNested name n d) := by
  unfold normalizeNested
  split
  · exact ordered_put hd _ _
  · exact hd
  · exact ordered_put hd _ _
  · exact hd
  · exact ordered_put hd _ _

theorem value?_normalizeBlocks (blocks : List (String × Nested Block))
    (hb : (names blocks).Nodup) (d : Dict Json) (name : String) :
    value? (normalizeBlocks blocks d) name =
      match value? blocks name with
      | some n => n.settle (value? d name)
      | none => value? d name := by
  induction blocks generalizing d with
  | nil => rw [normalizeBlocks]; rfl
  | cons e rest ih =>
    obtain ⟨n, nested⟩ := e
    obtain ⟨hn, hrest⟩ := List.nodup_cons.1 hb
    rw [normalizeBlocks_cons, ih hrest, value?_normalizeNested, value?_cons]
    by_cases h : n = name
    · subst h
      have hnone : value? rest n = none :=
        value?_eq_none_iff.2 fun e he hen => hn (List.mem_map.2 ⟨e, he, hen⟩)
      simp [hnone]
    · simp [h]

theorem ordered_normalizeBlocks (blocks : List (String × Nested Block)) {d : Dict Json}
    (hd : Dict.Ordered d) : Dict.Ordered (normalizeBlocks blocks d) := by
  induction blocks generalizing d with
  | nil => rw [normalizeBlocks]; exact hd
  | cons e rest ih =>
    rw [normalizeBlocks_cons]
    exact ih (ordered_normalizeNested _ _ hd)

/-! ## The normal form of an object -/

/-- **The normal form of an object, member by member.** -/
theorem value?_settled {b : Block} (hb : b.Ordered) {d : Dict Json} (hd : Dict.Ordered d)
    (name : String) : value? (b.settled d) name = b.settle name (value? d name) := by
  unfold settled settle settleNested settleAttribute Json.setMembers
  rw [value?_normalizeBlocks _ hb.blocks.nodup_names,
    value?_foldl_normalizeMember _ hb.attributes.nodup_names, value?_filter hd]

theorem ordered_settled (b : Block) {d : Dict Json} (hd : Dict.Ordered d) :
    Dict.Ordered (b.settled d) :=
  ordered_normalizeBlocks _ (ordered_foldl_normalizeMember _ (hd.filter _))

end Block

/-! ## Unset values -/

/-- A text is trimmed to nothing exactly when all of it is blank. -/
theorem Text.trim_eq_empty_iff {s : String} : trim s = "" ↔ ∀ c ∈ s.toList, isBlank c := by
  have hempty : trim s = "" ↔ trimList s.toList = [] := by
    rw [trim, ← String.toList_inj, String.toList_ofList]
    rfl
  rw [hempty, trimList, List.reverse_eq_nil_iff, List.dropWhile_eq_nil_iff]
  simp only [List.mem_reverse]
  constructor
  · intro h
    refine List.dropWhile_eq_nil_iff.1 (List.eq_nil_of_length_eq_zero ?_)
    by_contra hlength
    have hpos := Nat.pos_of_ne_zero hlength
    exact List.dropWhile_get_zero_not isBlank s.toList hpos (h _ (List.get_mem _ _))
  · exact fun h c hc => h c ((List.dropWhile_sublist isBlank).mem hc)

namespace Attribute

variable {a : Attribute} {v : Json}

/-- **The values that an attribute counts as unset**: null and the empty text, and a blank text if
the blanks around it are dropped. -/
theorem isUnset_normalized_iff : (a.normalized v).isUnset ↔ v.isUnset ∨
    a.normalizer = some .trimSpace ∧ ∃ s, v = .string s ∧ ∀ c ∈ s.toList, Text.isBlank c := by
  unfold normalized
  cases a.normalizer with
  | none => simp
  | some n =>
    cases n
    cases v with
    | string s =>
      simp only [Normalizer.apply, Json.isUnset, String.isEmpty_iff, true_and, Json.string.injEq,
        exists_eq_left', ← Text.trim_eq_empty_iff]
      refine (or_iff_right_of_imp ?_).symm
      rintro rfl
      rfl
    | _ => simp [Normalizer.apply]

theorem normalized_of_isUnset (a : Attribute) (hv : v.isUnset) : (a.normalized v).isUnset :=
  isUnset_normalized_iff.2 (.inl hv)

/-- In place of an unset value there is the default. -/
theorem settle_of_isUnset_normalized (h : (a.normalized v).isUnset) :
    a.settle (some v) = a.default := by
  unfold settle
  rw [Option.map_some, Option.filter_some, if_neg (by simp [h]), Option.none_or]

theorem settle_of_isUnset (hv : v.isUnset) : a.settle (some v) = a.default :=
  settle_of_isUnset_normalized (a.normalized_of_isUnset hv)

/-- A value that is set after its normalizer takes precedence over the default. -/
theorem settle_of_normalized (h : (a.normalized v).isUnset = false) :
    a.settle (some v) = some (a.normalized v) := by
  unfold settle
  rw [Option.map_some, Option.filter_some, if_pos (by simp [h]), Option.some_or]

/-- A value that is set stays as it is without a normalizer. -/
theorem settle_of_set (ha : a.normalizer = none) (hv : v.isUnset = false) :
    a.settle (some v) = some v := by
  have hsame : a.normalized v = v := by
    unfold normalized
    rw [ha]
  rw [← hsame] at hv
  rw [settle_of_normalized hv, hsame]

/-! ## Settling twice -/

theorem normalized_normalized (a : Attribute) (v : Json) :
    a.normalized (a.normalized v) = a.normalized v := by
  unfold normalized
  cases a.normalizer with
  | none => rfl
  | some n =>
    cases n
    cases v <;> simp [Normalizer.apply, Text.trim_trim]

/-- An unset value settles as an absent one. -/
theorem settle_filter (a : Attribute) (v : Option Json) :
    a.settle (v.filter (!·.isUnset)) = a.settle v := by
  cases v with
  | none => rfl
  | some w =>
    by_cases hw : w.isUnset
    · rw [settle_of_isUnset hw, Option.filter_some, if_neg (by simp [hw])]
      rfl
    · simp [Option.filter, hw]

/-- **An attribute without a normalizer or without a default settles once**: a value that the
normalizer has changed is kept by it, and a default is given again. -/
theorem settle_settle {a : Attribute} (ha : a.normalizer = none ∨ a.default = none)
    (v : Option Json) : a.settle (a.settle v) = a.settle v := by
  unfold settle
  cases h : (v.map a.normalized).filter (!·.isUnset) with
  | some w =>
    obtain ⟨hmap, hset⟩ := Option.filter_eq_some_iff.1 h
    obtain ⟨u, -, rfl⟩ := Option.map_eq_some_iff.1 hmap
    have hkept : ((some (a.normalized u)).map a.normalized).filter (!·.isUnset) =
        some (a.normalized u) := by
      rw [Option.map_some, normalized_normalized]
      simpa [Option.filter] using hset
    rw [Option.some_or, hkept, Option.some_or]
  | none =>
    rw [Option.none_or]
    cases hdef : a.default with
    | none => rfl
    | some w =>
      -- Without a normalizer the default passes unchanged, or is given again if it is unset.
      have hn : a.normalizer = none := ha.resolve_right (by simp [hdef])
      by_cases hw : w.isUnset
      · simp [Option.filter, normalized, hn, hw]
      · simp [Option.filter, normalized, hn, hw]

end Attribute

end LoggingProvider
