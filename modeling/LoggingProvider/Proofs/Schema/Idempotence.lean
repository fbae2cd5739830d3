import LoggingProvider.Proofs.Schema.Settled

/-!
# Normal forms are settled once

Normalizing a value twice is normalizing it once, if no attribute has both a normalizer and a
default. The one thing in the way is that the value of a name passes through its attribute and then
through its nested block, which may turn what the attribute left into a list or an object. Neither
the normalizer nor the default of an attribute touches a list or an object, so in the second pass
the attribute leaves alone what the nested block made.

## Main definitions

* `Block.Throughout`: a property of a block and of the blocks nested in it
* `Block.Canonical`: the maps of a block are in name order, and its defaults are canonical
* `Block.Separate`: no attribute has both a normalizer and a default

## Main results

* `Block.settle_settle`: the value under a name settles once
* `Block.normalize_normalize`: a value is normalized once
-/

namespace LoggingProvider

open Dict

/-! ## Attributes -/

namespace Attribute

/-- An attribute keeps a list. -/
theorem settle_array (a : Attribute) (items : List Json) :
    a.settle (some (.array items)) = some (.array items) := by
  unfold settle normalized
  rcases a.normalizer with _ | ⟨⟨⟩⟩ <;> rfl

/-- An attribute keeps an object. -/
theorem settle_object (a : Attribute) (d : Dict Json) :
    a.settle (some (.object d)) = some (.object d) := by
  unfold settle normalized
  rcases a.normalizer with _ | ⟨⟨⟩⟩ <;> rfl

theorem canonical_normalized (a : Attribute) {v : Json} (hv : v.Canonical) :
    (a.normalized v).Canonical := by
  unfold normalized
  rcases a.normalizer with _ | ⟨⟨⟩⟩
  · exact hv
  · cases v <;> exact hv

theorem canonical_settle {a : Attribute} (ha : ∀ w, a.default = some w → w.Canonical)
    {v : Option Json} (hv : ∀ w, v = some w → w.Canonical) {w : Json} (h : a.settle v = some w) :
    w.Canonical := by
  rcases Option.or_eq_some_iff.1 h with h | ⟨-, h⟩
  · obtain ⟨u, hu, rfl⟩ := Option.map_eq_some_iff.1 (Option.filter_eq_some_iff.1 h).1
    exact a.canonical_normalized (hv u hu)
  · exact ha w h

end Attribute

/-! ## Nested blocks -/

namespace Nested

variable {n : Nested Block}

/-- A nested block keeps a value, or makes a list or an object of it. -/
theorem settle_eq_self_or (n : Nested Block) (v : Option Json) : n.settle v = v ∨
    (∃ items, n.settle v = some (.array items)) ∨ ∃ d, n.settle v = some (.object d) := by
  unfold settle
  split
  · next v _ =>
    by_cases hobject : ∃ d, v = .object d
    · obtain ⟨d, rfl⟩ := hobject
      exact .inr (.inr ⟨_, congrArg some (n.block.normalize_object d)⟩)
    · exact .inl (congrArg some (n.block.normalize_of_ne_object fun d h => hobject ⟨d, h⟩))
  · exact .inl rfl
  · exact .inr (.inl ⟨_, rfl⟩)
  · exact .inl rfl
  · exact .inr (.inl ⟨_, rfl⟩)

/-- **A nested block settles once** the values that the block itself normalizes once. -/
theorem settle_settle (hn : ∀ w : Json, w.Canonical →
      n.block.normalize (n.block.normalize w) = n.block.normalize w)
    {v : Option Json} (hv : ∀ w, v = some w → w.Canonical) :
    n.settle (n.settle v) = n.settle v := by
  cases hmode : n.mode with
  | single =>
    cases v with
    | none => simp [settle, hmode]
    | some w => simp [settle, hmode, hn w (hv w rfl)]
  | _ =>
    rcases v with _ | (_ | _ | _ | _ | items | _) <;> simp only [settle, hmode, List.map_nil]
    have hitems : ∀ w ∈ items, n.block.normalize (n.block.normalize w) = n.block.normalize w :=
      fun w hw => hn w (Json.CanonicalItems.canonical (hv _ rfl) hw)
    rw [List.map_map]
    exact congrArg (some ∘ Json.array) (List.map_congr_left hitems)

end Nested

namespace Block

variable {b : Block} {name : String}

/-! ## The value under a name -/

theorem settleAttribute_array (b : Block) (name : String) (items : List Json) :
    b.settleAttribute name (some (.array items)) = some (.array items) := by
  unfold settleAttribute
  split
  · exact Attribute.settle_array _ _
  · rfl

theorem settleAttribute_object (b : Block) (name : String) (d : Dict Json) :
    b.settleAttribute name (some (.object d)) = some (.object d) := by
  unfold settleAttribute
  split
  · exact Attribute.settle_object _ _
  · rfl

theorem canonical_settleAttribute
    (hb : ∀ e ∈ b.attributes, ∀ w, e.2.default = some w → w.Canonical)
    {v : Option Json} (hv : ∀ w, v = some w → w.Canonical) {w : Json}
    (h : b.settleAttribute name v = some w) : w.Canonical := by
  unfold settleAttribute at h
  split at h
  · next a ha => exact Attribute.canonical_settle (hb _ (mem_of_value? ha)) hv h
  · exact hv w h

section Settle

variable (hseparate : ∀ a, value? b.attributes name = some a →
  a.normalizer = none ∨ a.default = none)

include hseparate

/-- What the attribute of a name leaves, it leaves again. -/
theorem settleAttribute_settleAttribute (v : Option Json) :
    b.settleAttribute name ((b.settleAttribute name (v.filter (!·.isUnset))).filter
      (!·.isUnset)) = b.settleAttribute name (v.filter (!·.isUnset)) := by
  unfold settleAttribute
  cases ha : value? b.attributes name with
  | none => simp only [Option.filter_filter, Bool.and_self]
  | some a => simp only [Attribute.settle_filter, Attribute.settle_settle (hseparate a ha)]

/-- **The value under a name settles once** if the nested block of the name settles once what the
attribute leaves. -/
theorem settle_settle {v : Option Json}
    (hnested : ∀ n, value? b.blocks name = some n →
      n.settle (n.settle (b.settleAttribute name (v.filter (!·.isUnset)))) =
        n.settle (b.settleAttribute name (v.filter (!·.isUnset)))) :
    b.settle name (b.settle name v) = b.settle name v := by
  have hattribute := settleAttribute_settleAttribute hseparate v
  unfold settle settleNested
  cases hn : value? b.blocks name with
  | none => exact hattribute
  | some n =>
    have honce := hnested n hn
    simp only
    -- The nested block keeps what the attribute leaves, or makes something that the attribute keeps.
    rcases n.settle_eq_self_or (b.settleAttribute name (v.filter (!·.isUnset))) with
      h | ⟨items, h⟩ | ⟨d, h⟩
    · rw [h, hattribute, h]
    · rw [h] at honce ⊢
      exact (congrArg n.settle (b.settleAttribute_array name items)).trans honce
    · rw [h] at honce ⊢
      exact (congrArg n.settle (b.settleAttribute_object name d)).trans honce

end Settle

/-! ## Whole values -/

/-- **A property of a block and of the blocks nested in it**, to any depth. -/
inductive Throughout (p : Block → Prop) : Block → Prop
  | intro {b : Block} (here : p b) (nested : ∀ e ∈ b.blocks, Throughout p e.2.block) :
    Throughout p b

/-- The maps of a block are in name order and its defaults are canonical, on every level. -/
def Canonical : Block → Prop :=
  Throughout fun b => b.Ordered ∧ ∀ e ∈ b.attributes, ∀ v, e.2.default = some v → v.Canonical

/-- **No attribute has both a normalizer and a default**, on any level. -/
def Separate : Block → Prop :=
  Throughout fun b => ∀ e ∈ b.attributes, e.2.normalizer = none ∨ e.2.default = none

/-- The value under a name settles once if the nested blocks normalize values once. -/
theorem settle_settle_of_nested
    (hdefaults : ∀ e ∈ b.attributes, ∀ w, e.2.default = some w → w.Canonical)
    (hseparate : ∀ e ∈ b.attributes, e.2.normalizer = none ∨ e.2.default = none)
    (hnested : ∀ e ∈ b.blocks, ∀ w : Json, w.Canonical →
      e.2.block.normalize (e.2.block.normalize w) = e.2.block.normalize w)
    {v : Option Json} (hv : ∀ w, v = some w → w.Canonical) (name : String) :
    b.settle name (b.settle name v) = b.settle name v := by
  refine settle_settle (fun a ha => hseparate _ (mem_of_value? ha)) fun n hn => ?_
  have hset : ∀ w, v.filter (!·.isUnset) = some w → w.Canonical := fun w hw =>
    hv w (Option.filter_eq_some_iff.1 hw).1
  exact Nested.settle_settle (hnested _ (mem_of_value? hn))
    fun w => canonical_settleAttribute hdefaults hset

/-- **A value is normalized once.** -/
theorem normalize_normalize (b : Block) (hb : b.Canonical) (hseparate : b.Separate) {v : Json}
    (hv : v.Canonical) : b.normalize (b.normalize v) = b.normalize v := by
  induction b using Block.induction generalizing v with
  | step b ih =>
    obtain ⟨⟨hordered, hdefaults⟩, hnested⟩ := hb
    obtain ⟨hattributes, hseparated⟩ := hseparate
    by_cases hobject : ∃ d, v = .object d
    · obtain ⟨d, rfl⟩ := hobject
      obtain ⟨hd, hmembers⟩ := hv
      have hs := ordered_settled b hd
      rw [normalize_object, normalize_object]
      refine congrArg Json.object ((ordered_settled b hs).ext hs fun name => ?_)
      rw [value?_settled hordered hs, value?_settled hordered hd]
      exact settle_settle_of_nested hdefaults hattributes
        (fun e he w => ih e he (hnested e he) (hseparated e he))
        (fun w hw => hmembers.canonical (mem_of_value? hw)) name
    · have hkeep : b.normalize v = v := b.normalize_of_ne_object fun d h => hobject ⟨d, h⟩
      rw [hkeep, hkeep]

/-- The value under a name settles once. -/
theorem Canonical.settle_settle (hb : b.Canonical) (hseparate : b.Separate) {v : Option Json}
    (hv : ∀ w, v = some w → w.Canonical) (name : String) :
    b.settle name (b.settle name v) = b.settle name v := by
  obtain ⟨⟨-, hdefaults⟩, hnested⟩ := hb
  obtain ⟨hattributes, hseparated⟩ := hseparate
  exact settle_settle_of_nested hdefaults hattributes
    (fun e he _ => normalize_normalize _ (hnested e he) (hseparated e he)) hv name

end Block

end LoggingProvider
