import LoggingProvider.Proofs.Schema.Int64

/-!
# Values that are accepted

A schema accepts the values that conform to it, and besides those some with a number from the bound
of 64 bits to 1024 more in place of an integer. Every number that is judged in a value that conforms
is an integer of the range, and conversely a value that conforms with one range does so with any
other in which these numbers are. So an accepted value conforms exactly if no number that is judged
in it is beyond the integers of 64 bits.

## Main results

* `Block.ConformsUpTo.within_of_judges`: the numbers that are judged are in the range
* `Block.ConformsUpTo.of_judges`: a value conforms with any range in which these are
* `Schema.validate_sound_complete`: which values are accepted, and which of them conform
* `Schema.overlarge_integer_accepted`: a value that is accepted and does not conform
-/

namespace LoggingProvider

open Dict

variable {most most' : ℤ} {path q : String} {n : Number}

/-! ## The numbers in values that conform -/

namespace AttributeType

variable {t : AttributeType} {v : Json}

/-- The numbers that are judged in a value of a type are integers of the range. -/
theorem AdmitsUpTo.within_of_judges (h : t.AdmitsUpTo most v) (hn : t.Judges v path n q) :
    n.Within (-2 ^ 63) most := by
  induction hn with
  | here n path =>
    cases h with
    | int64 h => exact h
  | item hi _ ih =>
    cases h with
    | list h => exact ih (h _ (List.mem_of_getElem? hi))

/-- A value of a type is one with any range in which the numbers are that are judged. -/
theorem AdmitsUpTo.of_judges (h : t.AdmitsUpTo most v)
    (hn : ∀ n q, t.Judges v path n q → n.Within (-2 ^ 63) most') : t.AdmitsUpTo most' v := by
  induction h generalizing path with
  | string s => exact .string s
  | int64 _ => exact .int64 (hn _ _ (.here _ path))
  | bool b => exact .bool b
  | list _ ih =>
    refine .list fun w hw => ?_
    obtain ⟨i, hi⟩ := List.mem_iff_getElem?.1 hw
    exact ih w hw fun n q h => hn n q (.item hi h)

end AttributeType

/-- The value of an attribute conforms with any range in which the numbers are that are judged. -/
theorem Attribute.ConformsUpTo.of_judges {a : Attribute} {v : Option Json}
    (h : a.ConformsUpTo most v) (hn : ¬a.computedOnly → ∀ w, v = some w → ∀ n q,
      a.type.Judges w path n q → n.Within (-2 ^ 63) most') : a.ConformsUpTo most' v := by
  by_cases hcomputed : a.computedOnly
  · exact .computed hcomputed v
  cases h with
  | computed h => exact absurd h hcomputed
  | absent h hv => exact .absent h hv
  | value htype hallowed => exact .value (htype.of_judges (hn hcomputed _ rfl)) hallowed

namespace Block

variable {b : Block} {v : Json}

/-- **The numbers that are judged** in a value that conforms are integers of the range. -/
theorem ConformsUpTo.within_of_judges (h : b.ConformsUpTo most v) (hn : b.Judges v path n q) :
    n.Within (-2 ^ 63) most := by
  induction hn with
  | @inAttribute _ e he hcomputed _ w hv _ _ _ hn =>
    cases h with
    | object hattributes _ =>
      have hvalue := hattributes e he
      rw [hv] at hvalue
      have hnull : w ≠ .null := by
        rintro rfl
        exact e.2.type.not_judges_null _ hn
      exact (hvalue.admits hcomputed hnull).1.within_of_judges hn
  | inSingle he hmode hv hn ih =>
    cases h with
    | object _ hblocks =>
      have hvalue := hblocks _ he
      rw [hv] at hvalue
      cases hvalue with
      | absent _ hv =>
        rcases hv with hv | hv
        · cases hv
        · obtain rfl := Option.some.inj hv
          exact absurd hn (not_judges _ nofun)
      | single _ _ hvalue => exact ih hvalue
      | items hmode' => exact absurd hmode hmode'
  | inItem he hmode hitems hi _ ih =>
    cases h with
    | object _ hblocks =>
      have hvalue := hblocks _ he
      rw [hitems] at hvalue
      cases hvalue with
      | absent _ hv => rcases hv with hv | hv <;> cases hv
      | single hmode' => exact absurd hmode' hmode
      | items _ _ hconforms => exact ih (hconforms _ (List.mem_of_getElem? hi))

/-- **A value that conforms** does so with any range in which the numbers are that are judged. -/
theorem ConformsUpTo.of_judges (path : String) (h : b.ConformsUpTo most v)
    (hn : ∀ n q, b.Judges v path n q → n.Within (-2 ^ 63) most') : b.ConformsUpTo most' v := by
  induction b using Block.induction generalizing v path with
  | step b ih =>
    cases h with
    | null => exact .null b
    | @object _ d hattributes hblocks =>
      refine .object (fun e he => ?_) fun e he => ?_
      · exact (hattributes e he).of_judges fun hcomputed w hw n q h =>
          hn n q (.inAttribute he hcomputed hw h)
      · have hnested := hblocks e he
        generalize hw : value? d e.1 = w at hnested
        cases hnested with
        | absent hcount hv => exact .absent hcount hv
        | single hmode hnull h =>
          exact .single hmode hnull (ih e he _ h fun n q h => hn n q (.inSingle he hmode hw h))
        | items hmode hcount hitems =>
          refine .items hmode hcount fun item hitem => ?_
          obtain ⟨i, hi⟩ := List.mem_iff_getElem?.1 hitem
          exact ih e he _ (hitems item hitem) fun n q h => hn n q (.inItem he hmode hw hi h)

end Block

/-! ## Schemas -/

/-- **Which values are accepted.** A value whose arrays are short has no faults exactly when it
conforms with the integers that pass, so also when it conforms with those of 64 bits. An accepted
value conforms with these exactly when no number that is judged is from the bound to 1024 more. And
values that differ only in members without a name have the same faults. -/
theorem Schema.validate_sound_complete (s : Schema) :
    (∀ v : Json, v.ShortArrays → (s.validate v = [] ↔ s.block.Conforms v)) ∧
      (∀ v : Json, v.ShortArrays → s.block.ConformsUpTo (2 ^ 63 - 1) v → s.validate v = []) ∧
      (∀ v : Json, s.validate v = [] → (s.block.ConformsUpTo (2 ^ 63 - 1) v ↔
        ∀ n q, s.block.Judges v "" n q → ¬n.Within (2 ^ 63) (2 ^ 63 + 1024))) ∧
      ∀ v w : Json, s.block.Alike v w → s.validate v = s.validate w := by
  refine ⟨fun v hv => ?_, fun v hv h => ?_, fun v hvalid => ⟨fun h n q hn => ?_, fun h => ?_⟩,
    fun v w h => ?_⟩
  · exact s.block.diagnose_eq_nil_iff v "" hv
  · have hconforms : s.block.Conforms v := h.of_judges "" fun n q hn =>
      (h.within_of_judges hn).mono (by decide)
    exact s.block.diagnose_of_conforms v "" hv hconforms
  · exact (h.within_of_judges hn).not_within (by decide)
  · have hconforms : s.block.Conforms v := s.block.conforms_of_diagnose v "" hvalid
    refine hconforms.of_judges "" fun n q hn => ?_
    rcases (Number.within_iff_or (2 ^ 63) (by decide) (by decide)).1
      (hconforms.within_of_judges hn) with hwithin | hbeyond
    · exact hwithin
    · exact absurd hbeyond (h n q hn)
  · exact s.block.diagnose_eq_of_alike h ""

/-- A schema of rows, at least one, each of which has a digit and may have a note. -/
def Schema.rows : Schema :=
  let note := Block.empty.withAttribute "text" .optionalString
  let row := (Block.empty.withAttribute "digit"
    (Attribute.requiredInt64.withAllowed [.ofNat 1, .ofNat 2])).withBlock "note" (Nested.single note)
  (Schema.empty 0).withBlock "rows" ((Nested.list row).withMinItems 1)

/-- A value with one row, to whose note more members may be added. -/
def Json.oneRow (more : List (String × Json)) : Json := .object
  [("rows", .array [.object
    [("digit", .ofNat 2), ("note", .object (("text", .string "a") :: more))]])]

theorem Json.shortArrays_oneRow : (oneRow []).ShortArrays := by
  refine .object fun e he => ?_
  obtain rfl := List.mem_singleton.1 he
  refine .array (by decide) fun row hrow => ?_
  obtain rfl := List.mem_singleton.1 hrow
  refine .object fun e he => ?_
  rcases List.mem_pair.1 he with rfl | rfl
  · exact .number _
  · refine .object fun e he => ?_
    obtain rfl := List.mem_singleton.1 he
    exact .string "a"

/-- A member without a name in the note of the row does not count. -/
theorem Schema.alike_oneRow (more : List (String × Json)) :
    rows.block.Alike (.oneRow []) (.oneRow more) := by
  refine .object nofun fun e he => ?_
  obtain rfl := List.mem_singleton.1 he
  refine .items (by decide) rfl fun e he => ?_
  obtain rfl := List.mem_singleton.1 he
  refine .object (fun e he => ?_) fun e he => ?_
  · obtain rfl := List.mem_singleton.1 he
    rfl
  · obtain rfl := List.mem_singleton.1 he
    refine .single rfl (.object (fun e he => ?_) nofun)
    obtain rfl := List.mem_singleton.1 he
    rfl

theorem Schema.conforms_oneRow : rows.block.ConformsUpTo (2 ^ 63 - 1) (.oneRow []) := by
  refine .object nofun fun e he => ?_
  obtain rfl := List.mem_singleton.1 he
  refine .items (by decide) (by decide) fun row hrow => ?_
  obtain rfl := List.mem_singleton.1 hrow
  refine .object (fun e he => ?_) fun e he => ?_
  · obtain rfl := List.mem_singleton.1 he
    refine .value (.int64 (Number.within_natural_iff.2 (by decide))) fun _ => ?_
    exact ⟨.ofNat 2, List.mem_cons_of_mem _ List.mem_cons_self, by decide +kernel⟩
  · obtain rfl := List.mem_singleton.1 he
    refine .single rfl nofun (.object (fun e he => ?_) nofun)
    obtain rfl := List.mem_singleton.1 he
    exact .value (.string "a") fun hne => absurd rfl hne

/-- A row with a note conforms, so it is without faults, also with one more member in the note. -/
theorem Schema.validate_sound_complete_oneRow :
    rows.block.ConformsUpTo (2 ^ 63 - 1) (.oneRow []) ∧ rows.validate (.oneRow []) = [] ∧
      rows.validate (.oneRow [("title", .null)]) = [] := by
  obtain ⟨-, hcomplete, -, hnamed⟩ := rows.validate_sound_complete
  have hnone : rows.validate (.oneRow []) = [] :=
    hcomplete _ Json.shortArrays_oneRow conforms_oneRow
  exact ⟨conforms_oneRow, hnone, (hnamed _ _ (alike_oneRow _)).symm.trans hnone⟩

/-- **A value that is accepted and does not conform**: its number is the bound itself, which is no
integer of 64 bits. -/
theorem Schema.overlarge_integer_accepted :
    let v := Json.object [("digit", .number (.natural 9223372036854775808))]
    v.ShortArrays ∧ digit.validate v = [] ∧ ¬digit.block.ConformsUpTo (2 ^ 63 - 1) v := by
  refine ⟨.object fun e he => ?_, List.isEmpty_iff.1 (by decide +kernel), fun h => ?_⟩
  · obtain rfl := List.mem_singleton.1 he
    exact .number _
  · have hjudged : digit.block.Judges (.object [("digit", .number (.natural 9223372036854775808))])
        "" (.natural 9223372036854775808) "digit" :=
      .inAttribute (e := ("digit", .requiredInt64)) (List.mem_singleton.2 rfl) (by decide) rfl
        (.here _ _)
    have hwithin := Number.within_natural_iff.1 (h.within_of_judges hjudged)
    exact absurd hwithin.2 (by decide)

end LoggingProvider
