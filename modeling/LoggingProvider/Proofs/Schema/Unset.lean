import LoggingProvider.Proofs.Schema.Idempotence

/-!
# Spellings of what is unset

A member that is not configured may be absent, null or the empty text, and also a blank text if the
blanks around the attribute are dropped. The normal form does not tell these spellings apart, on any
depth. It keeps what is configured: an object that a block describes stays at its place, with each
member that is neither changed by a normalizer nor a nested block, also one without a name in the
block.

## Main definitions

* `Block.Unset`: the spellings of a member that is not configured
* `Block.Respelled`: values that differ in such spellings alone
* `Block.Describes`: the objects in a value that a block describes, each with its place
* `Block.Keeps`: the names whose values are kept

## Main results

* `Block.normalize_eq_of_respelled`: the normal form of values that differ in spellings alone
* `Block.Describes.normalize`: the objects in a normal form
* `Schema.normalize_unset`: what a normal form forgets and what it keeps
-/

namespace LoggingProvider

open Dict

/-! ## Spellings -/

/-- **The spellings of a member that is not configured**: it is absent, null or the empty text, or
it is blank and the blanks around it are dropped. -/
inductive Block.Unset (b : Block) (name : String) : Option Json → Prop
  | absent : Unset b name none
  | null : Unset b name (some .null)
  | empty : Unset b name (some (.string ""))
  | blank {a : Attribute} (ha : value? b.attributes name = some a)
    (htrim : a.normalizer = some .trimSpace) {s : String} (hs : ∀ c ∈ s.toList, Text.isBlank c) :
    Unset b name (some (.string s))

mutual

/-- **Two values that differ only in the spellings of what is unset**, in objects that the block
describes: in the value itself, and in what is nested in it. -/
inductive Block.Respelled : Block → Json → Json → Prop
  | same (b : Block) (v : Json) : Block.Respelled b v v
  | object {b : Block} {d d' : Dict Json}
    (h : ∀ name, Block.RespelledMember b name (value? d name) (value? d' name)) :
    Block.Respelled b (.object d) (.object d')

/-- Two values under a name of an object that differ only so. -/
inductive Block.RespelledMember : Block → String → Option Json → Option Json → Prop
  | same (b : Block) (name : String) (v : Option Json) : Block.RespelledMember b name v v
  | unset {b : Block} {name : String} {v w : Option Json} (hv : b.Unset name v)
    (hw : b.Unset name w) : Block.RespelledMember b name v w
  | single {b : Block} {name : String} {n : Nested Block} (hn : value? b.blocks name = some n)
    (hmode : n.mode = .single) {v w : Json} (h : Block.Respelled n.block v w) :
    Block.RespelledMember b name (some v) (some w)
  | items {b : Block} {name : String} {n : Nested Block} (hn : value? b.blocks name = some n)
    (hmode : n.mode ≠ .single) {vs ws : List Json} (hlength : vs.length = ws.length)
    (h : ∀ e ∈ vs.zip ws, Block.Respelled n.block e.1 e.2) :
    Block.RespelledMember b name (some (.array vs)) (some (.array ws))

end

namespace Block

variable {b c : Block} {name : String} {n : Nested Block} {v : Json}
  {place : List (String × Option Nat)}

/-! ## The value under a name -/

theorem settleNested_of_some (hn : value? b.blocks name = some n) (v : Option Json) :
    b.settleNested name v = n.settle v := by
  unfold settleNested
  rw [hn]

/-- An object in place of a single block is normalized against it, whatever the attribute of the
name is. -/
theorem settle_object (hn : value? b.blocks name = some n) (hmode : n.mode = .single)
    (d : Dict Json) : b.settle name (some (.object d)) = some (n.block.normalize (.object d)) := by
  have hattribute : b.settle name (some (.object d)) = b.settleNested name (some (.object d)) :=
    congrArg (b.settleNested name) (b.settleAttribute_object name d)
  rw [hattribute, settleNested_of_some hn, Nested.settle_single hmode, Option.map_some]

/-- The items in place of a list or a set of blocks are normalized. -/
theorem settle_array (hn : value? b.blocks name = some n) (hmode : n.mode ≠ .single)
    (items : List Json) :
    b.settle name (some (.array items)) = some (.array (items.map n.block.normalize)) := by
  have hattribute : b.settle name (some (.array items)) =
      b.settleNested name (some (.array items)) :=
    congrArg (b.settleNested name) (b.settleAttribute_array name items)
  rw [hattribute, settleNested_of_some hn, Nested.settle_array hmode]

/-- **All spellings of a member that is not configured settle alike**: as an absent member does. -/
theorem Unset.settle {v : Option Json} (h : b.Unset name v) :
    b.settle name v = b.settle name none := by
  cases h with
  | absent => rfl
  | null => rfl
  | empty => rfl
  | @blank a ha htrim s hs =>
    have hunset : (a.normalized (.string s)).isUnset :=
      Attribute.isUnset_normalized_iff.2 (.inr ⟨htrim, s, rfl, hs⟩)
    unfold Block.settle settleAttribute
    rw [ha]
    simp only [Attribute.settle_filter]
    rw [Attribute.settle_of_isUnset_normalized hunset]
    rfl

/-- What differs in spellings alone settles alike, if the nested blocks do not tell it apart. -/
theorem settle_eq_of_respelled {v w : Option Json} (h : b.RespelledMember name v w)
    (hv : ∀ u, v = some u → u.Canonical) (hw : ∀ u, w = some u → u.Canonical)
    (ih : ∀ n, value? b.blocks name = some n → ∀ {u u' : Json}, u.Canonical → u'.Canonical →
      n.block.Respelled u u' → n.block.normalize u = n.block.normalize u') :
    b.settle name v = b.settle name w := by
  cases h with
  | same => rfl
  | unset hv hw => rw [hv.settle, hw.settle]
  | single hn hmode h =>
    have hnormal := ih _ hn (hv _ rfl) (hw _ rfl) h
    cases h with
    | same => rfl
    | object => rw [settle_object hn hmode, settle_object hn hmode, hnormal]
  | @items _ _ n hn hmode vs ws hlength h =>
    rw [settle_array hn hmode, settle_array hn hmode]
    have hitems : List.Forall₂ (· = ·) (vs.map n.block.normalize) (ws.map n.block.normalize) := by
      rw [List.forall₂_map_left_iff, List.forall₂_map_right_iff, List.forall₂_iff_zip]
      refine ⟨hlength, fun {u u'} he => ?_⟩
      obtain ⟨hu, hu'⟩ := List.of_mem_zip he
      exact ih n hn (Json.CanonicalItems.canonical (hv _ rfl) hu)
        (Json.CanonicalItems.canonical (hw _ rfl) hu') (h _ he)
    rw [List.forall₂_eq_eq_eq] at hitems
    rw [hitems]

/-- **Values that differ in the spellings of what is unset have the same normal form.** -/
theorem normalize_eq_of_respelled (b : Block) (hb : b.Throughout Ordered) {v w : Json}
    (hv : v.Canonical) (hw : w.Canonical) (h : b.Respelled v w) :
    b.normalize v = b.normalize w := by
  induction b using Block.induction generalizing v w with
  | step b ih =>
    obtain ⟨hordered, hnested⟩ := hb
    cases h with
    | same => rfl
    | object h =>
      obtain ⟨hd, hmembers⟩ := hv
      obtain ⟨hd', hmembers'⟩ := hw
      rw [normalize_object, normalize_object]
      have hs' := ordered_settled b hd'
      refine congrArg Json.object ((ordered_settled b hd).ext hs' fun name => ?_)
      rw [value?_settled hordered hd, value?_settled hordered hd']
      refine settle_eq_of_respelled (h name) (fun u hu => hmembers.canonical (mem_of_value? hu))
        (fun u hu => hmembers'.canonical (mem_of_value? hu)) fun n hn => ?_
      exact ih _ (mem_of_value? hn) (hnested _ (mem_of_value? hn))

/-! ## What is kept -/

/-- **The objects in a value that a block describes**: the value itself, and what is nested in it on
any depth. Each has the block that describes it and a place, which tells the names on the way to it
and the positions in lists and sets. -/
inductive Describes : Block → Json → List (String × Option Nat) → Block → Dict Json → Prop
  /-- The value itself. -/
  | here (b : Block) (d : Dict Json) : Describes b (.object d) [] b d
  /-- An object inside a single block. -/
  | single {b : Block} {name : String} {n : Nested Block} (hn : value? b.blocks name = some n)
    (hmode : n.mode = .single) {d : Dict Json} {v : Json} (hv : value? d name = some v)
    {place : List (String × Option Nat)} {c : Block} {e : Dict Json}
    (h : Describes n.block v place c e) : Describes b (.object d) ((name, none) :: place) c e
  /-- An object inside an item of a list or a set. -/
  | item {b : Block} {name : String} {n : Nested Block} (hn : value? b.blocks name = some n)
    (hmode : n.mode ≠ .single) {d : Dict Json} {items : List Json}
    (hitems : value? d name = some (.array items)) {i : Nat} {v : Json} (hi : items[i]? = some v)
    {place : List (String × Option Nat)} {c : Block} {e : Dict Json}
    (h : Describes n.block v place c e) : Describes b (.object d) ((name, some i) :: place) c e

/-- **The names whose values are kept**: no nested block and no normalizer changes them. -/
structure Keeps (b : Block) (name : String) : Prop where
  /-- There is no nested block of the name. -/
  unnested : value? b.blocks name = none
  /-- The attribute of the name, if there is one, has no normalizer. -/
  plain : ∀ a, value? b.attributes name = some a → a.normalizer = none

theorem settle_of_keeps (h : b.Keeps name) (hv : v.isUnset = false) :
    b.settle name (some v) = some v := by
  have hset : (some v).filter (!·.isUnset) = some v := by simp [hv]
  unfold settle settleNested settleAttribute
  rw [hset, h.unnested]
  cases ha : value? b.attributes name with
  | none => rfl
  | some a => exact Attribute.settle_of_set (h.plain a ha) hv

namespace Describes

variable {e : Dict Json}

theorem throughout {p : Block → Prop} (h : b.Describes v place c e) (hb : b.Throughout p) :
    c.Throughout p := by
  induction h with
  | here => exact hb
  | single hn _ _ _ ih =>
    obtain ⟨-, hnested⟩ := hb
    exact ih (hnested _ (mem_of_value? hn))
  | item hn _ _ _ _ ih =>
    obtain ⟨-, hnested⟩ := hb
    exact ih (hnested _ (mem_of_value? hn))

theorem canonical (h : b.Describes v place c e) (hv : v.Canonical) : (Json.object e).Canonical := by
  induction h with
  | here => exact hv
  | single _ _ hvalue _ ih => exact ih (hv.2.canonical (mem_of_value? hvalue))
  | item _ _ hitems hi _ ih =>
    have harray : (Json.array _).Canonical := hv.2.canonical (mem_of_value? hitems)
    exact ih (Json.CanonicalItems.canonical harray (List.mem_of_getElem? hi))

theorem exists_object (h : b.Describes v place c e) : ∃ d, v = .object d := by
  cases h <;> exact ⟨_, rfl⟩

/-- **What is described stays at its place**, and is itself normalized. -/
theorem normalize (h : b.Describes v place c e) (hb : b.Throughout Ordered) (hv : v.Canonical) :
    b.Describes (b.normalize v) place c (c.settled e) := by
  induction h with
  | here b d =>
    rw [normalize_object]
    exact .here b _
  | @single b name n hn hmode d v hvalue place c e h ih =>
    obtain ⟨hordered, hnested⟩ := hb
    obtain ⟨hd, hmembers⟩ := hv
    obtain ⟨d', rfl⟩ := h.exists_object
    have hsettled : value? (b.settled d) name = some (n.block.normalize (.object d')) := by
      rw [value?_settled hordered hd, hvalue, settle_object hn hmode]
    rw [normalize_object]
    exact .single hn hmode hsettled
      (ih (hnested _ (mem_of_value? hn)) (hmembers.canonical (mem_of_value? hvalue)))
  | @item b name n hn hmode d items hitems i v hi place c e h ih =>
    obtain ⟨hordered, hnested⟩ := hb
    obtain ⟨hd, hmembers⟩ := hv
    have hsettled : value? (b.settled d) name = some (.array (items.map n.block.normalize)) := by
      rw [value?_settled hordered hd, hitems, settle_array hn hmode]
    have hitem : (items.map n.block.normalize)[i]? = some (n.block.normalize v) := by
      rw [List.getElem?_map, hi, Option.map_some]
    have harray : (Json.array items).Canonical := hmembers.canonical (mem_of_value? hitems)
    rw [normalize_object]
    exact .item hn hmode hsettled hitem (ih (hnested _ (mem_of_value? hn))
      (Json.CanonicalItems.canonical harray (List.mem_of_getElem? hi)))

end Describes

end Block

/-! ## Schemas -/

/-- **Spellings of unset are forgotten, and what is set is kept.** Values that differ only in how it
is spelled that members are unset have the same normal form. Each object that the schema describes
is found at its place in the normal form, where every member that is set has its value, unless it is
a nested block or has a normalizer. -/
theorem Schema.normalize_unset {s : Schema} (hs : s.block.Throughout Block.Ordered) :
    (∀ v w : Json, v.Canonical → w.Canonical → s.block.Respelled v w →
      s.normalize v = s.normalize w) ∧
    ∀ (v : Json) (place : List (String × Option Nat)) (c : Block) (d : Dict Json), v.Canonical →
      s.block.Describes v place c d → ∃ e, s.block.Describes (s.normalize v) place c e ∧
        ∀ name u, value? d name = some u → u.isUnset = false → c.Keeps name →
          value? e name = some u := by
  constructor
  · intro v w hv hw h
    exact s.block.normalize_eq_of_respelled hs hv hw h
  · intro v place c d hv h
    refine ⟨c.settled d, h.normalize hs hv, fun name u hu hset hkeeps => ?_⟩
    obtain ⟨hordered, -⟩ := h.throughout hs
    obtain ⟨hd, -⟩ := h.canonical hv
    rw [Block.value?_settled hordered hd, hu, Block.settle_of_keeps hkeeps hset]

/-- A schema of letters. Each one may have a text, of which the blanks around it are dropped, and a
stamp with a color. -/
def Schema.letters : Schema :=
  let stamp := Block.empty.withAttribute "color"
    (Attribute.optionalString.withDefault (.string "red"))
  let letter := (Block.empty.withAttribute "text"
    (Attribute.optionalString.withNormalizer .trimSpace)).withBlock "stamp" (Nested.single stamp)
  (Schema.empty 0).withBlock "letters" (Nested.list letter)

/-- A letter with a blank text and an empty color, and a sender. -/
def Json.blankLetter : Json := .object
  [("date", .null), ("letters", .array [.object [("sender", .string "a"),
    ("stamp", .object [("color", .string "")]), ("text", .string "\n ")]])]

/-- The letter without what is unset. -/
def Json.bareLetter : Json := .object
  [("letters", .array [.object [("sender", .string "a"), ("stamp", .object [])]])]

theorem Schema.respelled_letter : letters.block.Respelled .blankLetter .bareLetter := by
  refine .object fun name => ?_
  by_cases hletters : name = "letters"
  · subst hletters
    refine .items rfl (by decide) rfl fun e he => ?_
    obtain rfl := List.mem_singleton.1 he
    refine .object fun name => ?_
    by_cases hstamp : name = "stamp"
    · subst hstamp
      refine .single rfl rfl (.object fun name => ?_)
      by_cases hcolor : name = "color"
      · subst hcolor
        exact .unset .empty .absent
      · simp only [value?_cons, Ne.symm hcolor, if_false]
        exact .same _ _ _
    · by_cases htext : name = "text"
      · subst htext
        exact .unset (.blank rfl rfl (List.all_eq_true.1 (by decide))) .absent
      · simp only [value?_cons, Ne.symm hstamp, Ne.symm htext, if_false]
        exact .same _ _ _
  · by_cases hdate : name = "date"
    · subst hdate
      exact .unset .null .absent
    · simp only [value?_cons, Ne.symm hletters, Ne.symm hdate, if_false]
      exact .same _ _ _

theorem Schema.ordered_letters : letters.block.Throughout Block.Ordered := by
  refine .intro ⟨ordered_nil, List.pairwise_singleton _ _⟩ fun e he => ?_
  obtain rfl := List.mem_singleton.1 he
  refine .intro ⟨List.pairwise_singleton _ _, List.pairwise_singleton _ _⟩ fun e he => ?_
  obtain rfl := List.mem_singleton.1 he
  exact .intro ⟨List.pairwise_singleton _ _, ordered_nil⟩ nofun

theorem Json.canonical_blankLetter : blankLetter.Canonical := by
  have hletter : (Json.object [("sender", .string "a"), ("stamp", .object [("color", .string "")]),
      ("text", .string "\n ")]).Canonical :=
    ⟨ordered_of_names ["sender", "stamp", "text"] rfl (by decide), trivial,
      ⟨List.pairwise_singleton _ _, trivial, trivial⟩, trivial, trivial⟩
  exact ⟨ordered_of_names ["date", "letters"] rfl (by decide), trivial, ⟨hletter, trivial⟩, trivial⟩

theorem Json.canonical_bareLetter : bareLetter.Canonical := by
  have hletter : (Json.object [("sender", .string "a"), ("stamp", .object [])]).Canonical :=
    ⟨ordered_of_names ["sender", "stamp"] rfl (by decide), trivial, ⟨ordered_nil, trivial⟩, trivial⟩
  exact ⟨List.pairwise_singleton _ _, ⟨hletter, trivial⟩, trivial⟩

/-- Both have the same normal form, in which the letter has its sender. -/
theorem Schema.normalize_unset_of_letter :
    letters.block.Respelled .blankLetter .bareLetter ∧
    letters.normalize .blankLetter = letters.normalize .bareLetter ∧
    ∃ c e, letters.block.Describes (letters.normalize .blankLetter) [("letters", some 0)] c e ∧
      value? e "sender" = some (.string "a") := by
  obtain ⟨hforget, hkeep⟩ := normalize_unset ordered_letters
  have hdescribes : letters.block.Describes .blankLetter [("letters", some 0)] _ _ :=
    .item rfl (by decide) rfl rfl (.here _ _)
  obtain ⟨e, he, hmembers⟩ := hkeep _ _ _ _ Json.canonical_blankLetter hdescribes
  exact ⟨respelled_letter,
    hforget _ _ Json.canonical_blankLetter Json.canonical_bareLetter respelled_letter, _, e, he,
    hmembers "sender" _ rfl rfl ⟨rfl, nofun⟩⟩

end LoggingProvider
