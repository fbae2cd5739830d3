import LoggingProvider.Proofs.Schema.Conformance

/-!
# Limits on the number of items

A nested block limits the number of its items from below and from above. In a value without faults
the lower limit holds on every depth, wherever a list or a set is reached. The upper limit is never
looked at: without it a schema finds the same faults. An item that is null counts as one, although
it has none of the required attributes.

## Main definitions

* `Block.Reaches`: the nested blocks that are reached in a value, on every depth
* `Block.Complete`: an object with all required attributes
* `Nested.Bounded`: as many items as the limits ask for, all of them complete
* `Schema.unlimited`: a schema without its upper limits

## Main results

* `Block.Conforms.reaches`: what is reached in a value that conforms does so too
* `Block.diagnose_unlimited`: the upper limits are not looked at
* `Schema.bounded_iff`: when the items of a value without faults keep to the limits
* `Schema.limit_ignored`: items that do not
-/

namespace LoggingProvider

open Dict

/-! ## What is reached -/

/-- **The nested blocks that are reached in a value**, on every depth, each with what the object
around it has under its name. -/
inductive Block.Reaches : Block → Json → Nested Block → Option Json → Prop
  /-- A nested block of the block itself. -/
  | here {b : Block} {e : String × Nested Block} (he : e ∈ b.blocks) (d : Dict Json) :
    Reaches b (.object d) e.2 (value? d e.1)
  /-- A nested block that is reached inside a single block. -/
  | single {b : Block} {e : String × Nested Block} (he : e ∈ b.blocks) (hmode : e.2.mode = .single)
    {d : Dict Json} {v : Json} (hv : value? d e.1 = some v) {n : Nested Block} {w : Option Json}
    (h : Reaches e.2.block v n w) : Reaches b (.object d) n w
  /-- A nested block that is reached inside an item. -/
  | item {b : Block} {e : String × Nested Block} (he : e ∈ b.blocks) (hmode : e.2.mode ≠ .single)
    {d : Dict Json} {items : List Json} (hitems : value? d e.1 = some (.array items)) {v : Json}
    (hv : v ∈ items) {n : Nested Block} {w : Option Json} (h : Reaches e.2.block v n w) :
    Reaches b (.object d) n w

/-- The items of a list or a set, none when it is absent. -/
def Json.itemsOf (w : Option Json) : List Json :=
  (w.bind Json.items?).getD []

/-- **An object with all required attributes**, none of which is null. -/
inductive Block.Complete (b : Block) : Json → Prop
  | object {d : Dict Json} (h : ∀ e ∈ b.attributes, e.2.flags.required →
    ∃ v, value? d e.1 = some v ∧ v ≠ .null) : Complete b (.object d)

/-- **As many items as the limits ask for**, all of them complete. -/
structure Nested.Bounded (n : Nested Block) (items : List Json) : Prop where
  /-- There are at least so many. -/
  least : n.minItems.toNat ≤ items.length
  /-- There are at most so many, if there is a limit. -/
  most : n.maxItems ≠ 0 → items.length ≤ n.maxItems.toNat
  /-- Each one is complete. -/
  complete : ∀ item ∈ items, n.block.Complete item

section Reached

variable {b : Block} {v : Json} {n : Nested Block} {w : Option Json}

theorem Block.Conforms.nested {d : Dict Json} (h : b.Conforms (.object d))
    {e : String × Nested Block} (he : e ∈ b.blocks) : e.2.Conforms (value? d e.1) := by
  cases h with
  | object _ hblocks => exact hblocks e he

/-- **What is reached in a value that conforms does so too.** -/
theorem Block.Conforms.reaches (h : b.Conforms v) (hreaches : b.Reaches v n w) : n.Conforms w := by
  -- Induction on the way to the nested block; each step enters an object that conforms.
  induction hreaches with
  | here he d => exact h.nested he
  | single he hmode hv _ ih =>
    have hnested := h.nested he
    rw [hv] at hnested
    cases hnested with
    | absent _ habsent =>
      obtain rfl : _ = Json.null := by simpa [Json.Absent] using habsent
      exact ih (.null _)
    | single _ _ hblock => exact ih hblock
    | items hnot => exact absurd hmode hnot
  | item he hmode hitems hv _ ih =>
    have hnested := h.nested he
    rw [hitems] at hnested
    cases hnested with
    | absent _ habsent => simp [Json.Absent] at habsent
    | single hsingle => exact absurd hsingle hmode
    | items _ _ hall => exact ih (hall _ hv)

/-- A value that conforms is null or complete. -/
theorem Block.Conforms.complete (h : b.Conforms v) : v = .null ∨ b.Complete v := by
  cases h with
  | null => exact .inl rfl
  | object hattributes _ =>
    refine .inr (.object fun e he hrequired => ?_)
    have hcomputed : ¬e.2.computedOnly := by simp [Attribute.computedOnly, hrequired]
    obtain ⟨u, hu, htype⟩ := (hattributes e he).exists_value hcomputed hrequired
    refine ⟨u, hu, ?_⟩
    rintro rfl
    exact e.2.type.not_admits_null htype

theorem Block.not_complete_null : ¬b.Complete .null := nofun

/-- What conforms to a list or a set is an array, or absent, with enough items. -/
theorem Nested.Conforms.items_conform (h : n.Conforms w) (hmode : n.mode ≠ .single) :
    (Json.Absent w ∨ w = some (.array (Json.itemsOf w))) ∧
      n.minItems.toNat ≤ (Json.itemsOf w).length ∧
      ∀ item ∈ Json.itemsOf w, n.block.Conforms item := by
  cases h with
  | absent hcount habsent =>
    have hnone : Json.itemsOf w = [] := by rcases habsent with rfl | rfl <;> rfl
    rw [hnone, hcount]
    exact ⟨.inl habsent, Nat.zero_le _, nofun⟩
  | single hsingle => exact absurd hsingle hmode
  | items _ hcount hitems => exact ⟨.inr rfl, hcount, hitems⟩

/-- Items that conform keep to the limits if there are not too many and none is null. -/
theorem Nested.bounded_iff_of_conforms {items : List Json}
    (hcount : n.minItems.toNat ≤ items.length) (hitems : ∀ item ∈ items, n.block.Conforms item) :
    n.Bounded items ↔ (n.maxItems ≠ 0 → items.length ≤ n.maxItems.toNat) ∧ .null ∉ items := by
  constructor
  · intro h
    exact ⟨h.most, fun hnull => Block.not_complete_null (h.complete _ hnull)⟩
  · rintro ⟨hmost, hnull⟩
    refine ⟨hcount, hmost, fun item hitem => ?_⟩
    refine (hitems item hitem).complete.resolve_left ?_
    rintro rfl
    exact hnull hitem

end Reached

/-! ## Upper limits -/

mutual

/-- **The block without upper limits**, on every depth. -/
def Block.unlimited : Block → Block
  | ⟨attributes, blocks, description⟩ => ⟨attributes, Block.unlimitedBlocks blocks, description⟩

/-- Nested blocks without upper limits. -/
def Block.unlimitedBlocks : List (String × Nested Block) → List (String × Nested Block)
  | [] => []
  | (name, ⟨block, mode, minItems, _⟩) :: rest =>
    (name, ⟨block.unlimited, mode, minItems, 0⟩) :: Block.unlimitedBlocks rest

end

/-- The schema without upper limits. -/
def Schema.unlimited (s : Schema) : Schema := { s with block := s.block.unlimited }

theorem Block.attributes_unlimited (b : Block) : b.unlimited.attributes = b.attributes := by
  obtain ⟨attributes, blocks, description⟩ := b
  rw [unlimited]

theorem Block.unlimitedBlocks_eq (blocks : List (String × Nested Block)) :
    unlimitedBlocks blocks =
      blocks.map fun e => (e.1, ⟨e.2.block.unlimited, e.2.mode, e.2.minItems, 0⟩) := by
  induction blocks with
  | nil => rfl
  | cons e rest ih =>
    obtain ⟨name, block, mode, least, most⟩ := e
    rw [unlimitedBlocks, ih, List.map_cons]

theorem Block.blocks_unlimited (b : Block) : b.unlimited.blocks =
    b.blocks.map fun e => (e.1, ⟨e.2.block.unlimited, e.2.mode, e.2.minItems, 0⟩) := by
  obtain ⟨attributes, blocks, description⟩ := b
  rw [unlimited, unlimitedBlocks_eq]

/-- The faults of a nested block depend on its mode, its lower limit and the faults of the block. -/
theorem Nested.diagnose_congr {n m : Nested Block} (hmode : n.mode = m.mode)
    (hleast : n.minItems = m.minItems)
    (h : ∀ v path, n.block.diagnose v path = m.block.diagnose v path) (v : Option Json)
    (path : String) : n.diagnose v path = m.diagnose v path := by
  unfold diagnose
  simp only [hmode, hleast, h]

/-- **The upper limits are not looked at**: without them the same faults are found. -/
theorem Block.diagnose_unlimited (b : Block) (v : Json) (path : String) :
    b.unlimited.diagnose v path = b.diagnose v path := by
  induction b using Block.induction generalizing v path with
  | step b ih =>
    cases v with
    | object d =>
      rw [diagnose_object, diagnose_object, attributes_unlimited, blocks_unlimited,
        List.flatMap_map]
      refine congrArg₂ _ rfl (List.flatMap_congr fun e he => ?_)
      exact Nested.diagnose_congr (n := ⟨e.2.block.unlimited, e.2.mode, e.2.minItems, 0⟩)
        (m := e.2) rfl rfl (ih e he) _ _
    | _ => simp [diagnose]

/-! ## Values without faults -/

/-- **When the items of a value without faults keep to the limits.** On every depth, a list or a set
that is reached is an array or absent, it has enough items, and each of them is null or complete. So
it keeps to its limits exactly when it has not too many items and none of them is null. Neither is
looked at: the faults are those of the schema without upper limits. -/
theorem Schema.bounded_iff (s : Schema) (v : Json) :
    (s.validate v = [] → ∀ n w, s.block.Reaches v n w → n.mode ≠ .single →
      (Json.Absent w ∨ w = some (.array (Json.itemsOf w))) ∧
      n.minItems.toNat ≤ (Json.itemsOf w).length ∧
      (∀ item ∈ Json.itemsOf w, item = .null ∨ n.block.Complete item) ∧
      (n.Bounded (Json.itemsOf w) ↔
        (n.maxItems ≠ 0 → (Json.itemsOf w).length ≤ n.maxItems.toNat) ∧
          .null ∉ Json.itemsOf w)) ∧
    s.unlimited.validate v = s.validate v := by
  refine ⟨fun hvalid n w hreaches hmode => ?_, s.block.diagnose_unlimited v ""⟩
  have hconforms := (s.block.conforms_of_diagnose v "" hvalid).reaches hreaches
  obtain ⟨harray, hcount, hitems⟩ := hconforms.items_conform hmode
  exact ⟨harray, hcount, fun item hitem => (hitems item hitem).complete,
    Nested.bounded_iff_of_conforms hcount hitems⟩

/-- A block with a required text. -/
def Block.titled : Block := Block.empty.withAttribute "title" .requiredString

/-- A schema of one or two shelves with one or two books each. -/
def Schema.shelves : Schema :=
  let shelf := Block.empty.withBlock "books" ⟨.titled, .set, 1, 2⟩
  (Schema.empty 0).withBlock "shelves" ⟨shelf, .list, 1, 2⟩

/-- A value with one shelf of books. -/
def Json.shelf (books : List Json) : Json :=
  .object [("shelves", .array [.object [("books", .array books)]])]

/-- The books are reached on their shelf. -/
theorem Schema.reaches_books (books : List Json) : shelves.block.Reaches (.shelf books)
    ⟨.titled, .set, 1, 2⟩ (some (.array books)) :=
  .item (e := ("shelves", _)) List.mem_cons_self (by decide) rfl List.mem_cons_self
    (.here (e := ("books", _)) List.mem_cons_self _)

/-- A book on its shelf keeps to the limits. -/
theorem Schema.bounded_iff_shelf : Nested.Bounded ⟨.titled, .set, 1, 2⟩
    [.object [("title", .string "a")]] := by
  have hvalid : shelves.validate (.shelf [.object [("title", .string "a")]]) = [] :=
    List.isEmpty_iff.1 (by decide +kernel)
  obtain ⟨-, -, -, hiff⟩ := (shelves.bounded_iff _).1 hvalid _ _ (reaches_books _) (by decide)
  exact hiff.2 ⟨fun _ => by decide, by simp [Json.itemsOf, Json.items?]⟩

/-- **Limits that are not kept** by values without faults: three books where there may be two, and a
book that is null. -/
theorem Schema.limit_ignored :
    (∃ books, shelves.validate (.shelf books) = [] ∧
      shelves.block.Reaches (.shelf books) ⟨.titled, .set, 1, 2⟩ (some (.array books)) ∧
      (⟨.titled, .set, 1, 2⟩ : Nested Block).maxItems.toNat < books.length) ∧
    shelves.validate (.shelf [.null]) = [] ∧
      shelves.block.Reaches (.shelf [.null]) ⟨.titled, .set, 1, 2⟩ (some (.array [.null])) ∧
      ¬Block.titled.Complete .null := by
  refine ⟨⟨List.replicate 3 (.object [("title", .string "a")]), ?_, reaches_books _, by decide⟩,
    ?_, reaches_books _, Block.not_complete_null⟩
  · exact List.isEmpty_iff.1 (by decide +kernel)
  · exact List.isEmpty_iff.1 (by decide +kernel)

end LoggingProvider
