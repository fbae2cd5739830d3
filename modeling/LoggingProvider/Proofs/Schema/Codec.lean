import LoggingProvider.Proofs.Outcome
import LoggingProvider.Proofs.Schema.Idempotence
import LoggingProvider.Schema.Codec

/-!
# Schemas survive their documents

A schema is read back from its document as it was written, unless a default in it is null: the
document cannot tell a default that is null from a default that is missing. A schema that was read
from a document has no such default, so it is written and read back unchanged.

## Main definitions

* `Block.DefaultsSet`: no default is null, on any level

## Main results

* `Attribute.ofJson_toJson`: an attribute is read back from its document
* `Block.ofMembers_members`: a block is read back from its members, whatever stands beside them
* `Schema.documented`: a schema is read back from its document
-/

namespace LoggingProvider

open Dict

/-- The entries of two lists: what the first one finds counts before what the second one finds. -/
@[simp] theorem Dict.value?_append {α : Type} (d e : Dict α) (name : String) :
    value? (d ++ e) name = (value? d name).or (value? e name) := by
  induction d with
  | nil => rfl
  | cons f rest ih =>
    rw [List.cons_append, value?_cons, value?_cons, ih]
    split <;> rfl

namespace Json

variable {α : Type}

theorem asOptional_of_ne_null {read : Json → Except DecodeFault α} {v : Json} (h : v ≠ .null) :
    asOptional read v = (read v).map some := by
  cases v with
  | null => exact absurd rfl h
  | bool | number | string | array | object => rfl

/-- A field that was left out or written is read back. -/
theorem optional_asOptional {d : Dict Json} {name : String} {x : Option α} {write : α → Json}
    {read : Json → Except DecodeFault α} (h : value? d name = x.map write)
    (hread : ∀ y, read (write y) = .ok y) (hnull : ∀ y, write y ≠ .null) :
    optional d name none (asOptional read) = .ok x := by
  unfold optional
  rw [h]
  cases x with
  | none => rfl
  | some y =>
    change asOptional read (write y) = .ok (some y)
    rw [asOptional_of_ne_null (hnull y), hread y]
    rfl

theorem bind_asOptionalValue {v : Option Json} (h : v ≠ some .null) :
    v.bind asOptionalValue = v := by
  rcases v with _ | (_ | _ | _ | _ | _ | _)
  case some.null => exact absurd rfl h
  all_goals rfl

theorem asUInt32_ofNat (n : UInt32) : asUInt32 (.ofNat n.toNat) = .ok n := by
  have hlt : n.toNat < 4294967296 := n.toNat_lt
  have hnat : (UInt64.ofNat n.toNat).toNat = n.toNat :=
    UInt64.toNat_ofNat_of_lt' (Nat.lt_trans hlt (by decide))
  change (if (UInt64.ofNat n.toNat).toNat < 4294967296 then _ else _) = Except.ok n
  rw [hnat, if_pos hlt, UInt32.ofNat_toNat]

end Json

namespace Schema

variable (n : String)

@[simp] theorem value?_optionalMember (v : Option Json) (name : String) :
    value? (optionalMember n v) name = if n = name then v else none := by
  cases v with
  | none => exact (ite_self none).symm
  | some v => rfl

@[simp] theorem value?_listMember (vs : List Json) (name : String) :
    value? (listMember n vs) name =
      if n = name ∧ vs ≠ [] then some (.array vs) else none := by
  cases vs with
  | nil => simp [listMember]
  | cons v rest => simp [listMember, value?_cons]

theorem forall_mem_optionalMember {p : String × Json → Prop} (v : Option Json) :
    (∀ e ∈ optionalMember n v, p e) ↔ ∀ w, v = some w → p (n, w) := by
  cases v <;> simp [optionalMember]

theorem forall_mem_listMember {p : String × Json → Prop} (vs : List Json) :
    (∀ e ∈ listMember n vs, p e) ↔ (vs ≠ [] → p (n, .array vs)) := by
  cases vs <;> simp [listMember]

theorem name_of_mem_optionalMember {n : String} {v : Option Json} {e : String × Json}
    (he : e ∈ optionalMember n v) : e.1 = n := by
  cases v with
  | none => cases he
  | some => rw [List.mem_singleton.1 he]

theorem name_of_mem_dictMember {n : String} {d : Dict Json} {e : String × Json}
    (he : e ∈ dictMember n d) : e.1 = n := by
  cases d with
  | nil => cases he
  | cons => rw [List.mem_singleton.1 he]

end Schema

/-! ## Attributes -/

theorem AttributeType.ofJson_toJson (lenient : Bool) (t : AttributeType) :
    ofJson lenient t.toJson = .ok t := by
  induction t with
  | string | int64 | bool => rfl
  | list element ih => simp [toJson, ofJson, ih, Except.map]

theorem Normalizer.ofJson_name (lenient : Bool) (n : Normalizer) :
    ofJson lenient (.string n.name) = .ok n := by
  cases n
  rfl

theorem NestingMode.ofJson_name (lenient : Bool) (mode : NestingMode) :
    ofJson lenient (.string mode.name) = .ok mode := by
  cases mode <;> rfl

namespace Attribute

variable (a : Attribute)

/-- The members of an attribute's document. -/
def members : List (String × Json) :=
  Schema.listMember "allowed_values" a.allowed
    ++ [("computed", .bool a.flags.computed)]
    ++ Schema.optionalMember "default" a.default
    ++ Schema.optionalMember "description" (a.description.map .string)
    ++ [("force_new", .bool a.forceNew)]
    ++ Schema.optionalMember "normalizer" (a.normalizer.map fun n => .string n.name)
    ++ [("optional", .bool a.flags.optional), ("required", .bool a.flags.required),
      ("sensitive", .bool a.flags.sensitive), ("type", a.type.toJson)]

theorem toJson_eq : a.toJson = .object a.members := rfl

/-- What the members of an attribute's document are. -/
theorem forall_mem_members {p : String × Json → Prop} :
    (∀ e ∈ a.members, p e) ↔
      (a.allowed ≠ [] → p ("allowed_values", .array a.allowed)) ∧
      p ("computed", .bool a.flags.computed) ∧
      (∀ w, a.default = some w → p ("default", w)) ∧
      (∀ text, a.description = some text → p ("description", .string text)) ∧
      p ("force_new", .bool a.forceNew) ∧
      (∀ n, a.normalizer = some n → p ("normalizer", .string n.name)) ∧
      p ("optional", .bool a.flags.optional) ∧ p ("required", .bool a.flags.required) ∧
      p ("sensitive", .bool a.flags.sensitive) ∧ p ("type", a.type.toJson) := by
  simp only [members, List.forall_mem_append, Schema.forall_mem_listMember,
    Schema.forall_mem_optionalMember, List.forall_mem_cons, Option.map_eq_some_iff,
    forall_exists_index, and_imp, forall_apply_eq_imp_iff₂, and_assoc, List.not_mem_nil,
    false_implies, implies_true, and_true]

/-- The members of an attribute's document pass the checks made before reading. -/
theorem checkMembers_members (lenient : Bool) :
    Json.checkMembers a.members (checkMember lenient) = .ok () ∧
      Json.checkMembers a.members Flags.checkMember = .ok () := by
  simp only [Json.checkMembers, Outcome.forM_eq_ok_iff, forall_mem_members]
  constructor
  · refine ⟨fun _ => rfl, rfl, fun _ _ => rfl, fun _ _ => rfl, rfl, fun n _ => ?_, rfl, rfl, rfl,
      ?_⟩
    · cases n
      rfl
    · exact congrArg (·.map fun _ => ()) (a.type.ofJson_toJson lenient)
  · exact ⟨fun _ => rfl, rfl, fun _ _ => rfl, fun _ _ => rfl, rfl, fun _ _ => rfl, rfl, rfl, rfl,
      rfl⟩

/-- The flags are read back from an attribute's document. -/
theorem flags_members : Flags.ofMembers a.members = .ok a.flags := by
  have hrequired : value? a.members "required" = some (.bool a.flags.required) := by
    simp [members, value?_cons]
  have hoptional : value? a.members "optional" = some (.bool a.flags.optional) := by
    simp [members, value?_cons]
  have hcomputed : value? a.members "computed" = some (.bool a.flags.computed) := by
    simp [members, value?_cons]
  have hsensitive : value? a.members "sensitive" = some (.bool a.flags.sensitive) := by
    simp [members, value?_cons]
  simp only [Flags.ofMembers, (a.checkMembers_members true).2, Json.required, hrequired, hoptional,
    hcomputed, hsensitive]
  rfl

/-- **An attribute is read back from its document**, unless its default is null. -/
theorem ofJson_toJson (lenient : Bool) (h : a.default ≠ some .null) :
    ofJson lenient a.toJson = .ok a := by
  have hchecks := (a.checkMembers_members lenient).1
  have htype : Json.required a.members "type" (AttributeType.ofJson lenient) = .ok a.type := by
    have hvalue : value? a.members "type" = some a.type.toJson := by simp [members, value?_cons]
    rw [Json.required, hvalue]
    exact a.type.ofJson_toJson lenient
  have hdescription : Json.optional a.members "description" none (Json.asOptional Json.asText) =
      .ok a.description := by
    have hvalue : value? a.members "description" = a.description.map .string := by
      simp [members, value?_cons]
    exact Json.optional_asOptional hvalue (fun _ => rfl) fun _ => Json.noConfusion
  have hforce : Json.optional a.members "force_new" false Json.asBool = .ok a.forceNew := by
    have hvalue : value? a.members "force_new" = some (.bool a.forceNew) := by
      simp [members, value?_cons]
    rw [Json.optional, hvalue]
    rfl
  have hdefault : (value? a.members "default").bind Json.asOptionalValue = a.default := by
    have hvalue : value? a.members "default" = a.default := by simp [members, value?_cons]
    rw [hvalue]
    exact Json.bind_asOptionalValue h
  have hallowed : Json.optional a.members "allowed_values" [] Json.asItems = .ok a.allowed := by
    have hvalue : value? a.members "allowed_values" =
        if a.allowed = [] then none else some (.array a.allowed) := by simp [members, value?_cons]
    rw [Json.optional, hvalue]
    split_ifs with hnil
    · exact congrArg _ hnil.symm
    · rfl
  have hnormalizer : Json.optional a.members "normalizer" none
      (Json.asOptional (Normalizer.ofJson lenient)) = .ok a.normalizer := by
    have hvalue : value? a.members "normalizer" = a.normalizer.map fun n => .string n.name := by
      simp [members, value?_cons]
    exact Json.optional_asOptional hvalue (Normalizer.ofJson_name lenient)
      fun _ => Json.noConfusion
  rw [toJson_eq]
  simp only [ofJson, hchecks, htype, hdescription, hforce, hdefault, hallowed, hnormalizer,
    a.flags_members]
  rfl

theorem ofMembers_mapValues {attributes : List (String × Attribute)}
    (h : ∀ e ∈ attributes, e.2.default ≠ some .null) :
    ofMembers (mapValues toJson attributes) = .ok attributes := by
  induction attributes with
  | nil => rfl
  | cons e rest ih =>
    obtain ⟨name, a⟩ := e
    obtain ⟨ha, hrest⟩ := List.forall_mem_cons.1 h
    change (ofJson true a.toJson >>= fun _ => _) = _
    rw [a.ofJson_toJson true ha]
    change (ofMembers (mapValues toJson rest) >>= fun _ => _) = _
    rw [ih hrest]
    rfl

/-- An attribute that was read has no null for a default. -/
theorem default_of_ofJson {lenient : Bool} {v : Json} {a : Attribute}
    (h : ofJson lenient v = .ok a) : a.default ≠ some .null := by
  rcases v with _ | _ | _ | _ | _ | d
  case object =>
    simp only [ofJson, Outcome.bind_eq_ok_iff] at h
    obtain ⟨_, -, _, -, _, -, _, -, _, -, _, -, _, -, ha⟩ := h
    rw [Outcome.pure_eq_ok_iff.1 ha]
    intro hdefault
    obtain ⟨w, -, hw⟩ := Option.bind_eq_some_iff.1 hdefault
    cases w <;> cases hw
  all_goals cases h

theorem default_of_ofMembers {d : List (String × Json)} {attributes : List (String × Attribute)}
    (h : ofMembers d = .ok attributes) : ∀ e ∈ attributes, e.2.default ≠ some .null := by
  induction d generalizing attributes with
  | nil =>
    obtain rfl := Except.ok.inj h
    simp
  | cons e rest ih =>
    simp only [ofMembers, Outcome.bind_eq_ok_iff] at h
    obtain ⟨a, ha, more, hmore, h⟩ := h
    rw [Outcome.pure_eq_ok_iff.1 h]
    exact List.forall_mem_cons.2 ⟨default_of_ofJson ha, ih hmore⟩

end Attribute

/-! ## Blocks -/

namespace Block

/-- **No default is null**, on any level. -/
def DefaultsSet : Block → Prop :=
  Throughout fun b => ∀ e ∈ b.attributes, e.2.default ≠ some .null

/-- A block to which one member of a document was added. -/
def addMember (name : String) (v : Json) (b : Block) : Except Json.DecodeFault Block :=
  if name = "attributes" then
    match v with
    | .object members =>
      (Attribute.ofMembers members).map fun attributes => { b with attributes := attributes }
    | v => .error (.wrongKind v "a map")
  else if name = "blocks" then
    match v with
    | .object members =>
      (nestedOfMembers members).map fun blocks => { b with blocks := blocks }
    | v => .error (.wrongKind v "a map")
  else if name = "description" then
    (Json.asOptional Json.asText v).map fun description => { b with description := description }
  else .ok b

theorem addMember_attributes (d : Dict Json) (b : Block) : addMember "attributes" (.object d) b =
    (Attribute.ofMembers d).map fun attributes => { b with attributes := attributes } :=
  if_pos rfl

theorem addMember_blocks (d : Dict Json) (b : Block) : addMember "blocks" (.object d) b =
    (nestedOfMembers d).map fun blocks => { b with blocks := blocks } :=
  (if_neg (by decide)).trans (if_pos rfl)

/-- A document is read member after member. -/
theorem ofMembers_cons (name : String) (v : Json) (rest : List (String × Json)) (b : Block) :
    ofMembers ((name, v) :: rest) b = addMember name v b >>= ofMembers rest := by
  have hbind {α : Type} (r : Except Json.DecodeFault α) (f : α → Block) :
      (r >>= fun a => ofMembers rest (f a)) = r.map f >>= ofMembers rest := by
    cases r <;> rfl
  unfold ofMembers addMember
  by_cases hattributes : name = "attributes"
  · rw [if_pos hattributes, if_pos hattributes]
    cases v with
    | object members => exact hbind _ _
    | null | bool | number | string | array => rfl
  rw [if_neg hattributes, if_neg hattributes]
  by_cases hblocks : name = "blocks"
  · rw [if_pos hblocks, if_pos hblocks]
    cases v with
    | object members => exact hbind _ _
    | null | bool | number | string | array => rfl
  rw [if_neg hblocks, if_neg hblocks]
  by_cases hdescription : name = "description"
  · rw [if_pos hdescription, if_pos hdescription]
    exact hbind _ _
  rw [if_neg hdescription, if_neg hdescription]
  rfl

theorem ofMembers_append (d e : List (String × Json)) (b : Block) :
    ofMembers (d ++ e) b = ofMembers d b >>= ofMembers e := by
  induction d generalizing b with
  | nil => rfl
  | cons f rest ih =>
    obtain ⟨name, v⟩ := f
    rw [List.cons_append, ofMembers_cons, ofMembers_cons, bind_assoc]
    exact bind_congr ih

/-- Members with other names than those of a block are passed over. -/
theorem ofMembers_of_foreign {d : List (String × Json)}
    (h : ∀ e ∈ d, e.1 ∉ ["attributes", "blocks", "description"]) (b : Block) :
    ofMembers d b = .ok b := by
  induction d with
  | nil => rfl
  | cons e rest ih =>
    obtain ⟨name, v⟩ := e
    obtain ⟨hname, hrest⟩ := List.forall_mem_cons.1 h
    simp only [List.mem_cons, List.not_mem_nil, or_false, not_or] at hname
    obtain ⟨hattributes, hblocks, hdescription⟩ := hname
    rw [ofMembers_cons]
    unfold addMember
    rw [if_neg hattributes, if_neg hblocks, if_neg hdescription]
    exact ih hrest

section Parts

variable (b : Block)

/-- The attributes that were left out or written are read back. -/
theorem ofMembers_attributes {d : Dict Json} {attributes : List (String × Attribute)}
    (h : Attribute.ofMembers d = .ok attributes) :
    ofMembers (Schema.dictMember "attributes" d) { b with attributes := [] } =
      .ok { b with attributes := attributes } := by
  cases d with
  | nil =>
    obtain rfl := Except.ok.inj h
    rfl
  | cons e rest =>
    change ofMembers [("attributes", .object (e :: rest))] _ = _
    rw [ofMembers_cons, addMember_attributes, h]
    rfl

/-- The nested blocks that were left out or written are read back. -/
theorem ofMembers_blocks {d : Dict Json} {blocks : List (String × Nested Block)}
    (h : nestedOfMembers d = .ok blocks) :
    ofMembers (Schema.dictMember "blocks" d) { b with blocks := [] } =
      .ok { b with blocks := blocks } := by
  cases d with
  | nil =>
    obtain rfl := Except.ok.inj h
    rfl
  | cons e rest =>
    change ofMembers [("blocks", .object (e :: rest))] _ = _
    rw [ofMembers_cons, addMember_blocks, h]
    rfl

/-- The description that was left out or written is read back. -/
theorem ofMembers_description (description : Option String) :
    ofMembers (Schema.optionalMember "description" (description.map .string))
      { b with description := none } = .ok { b with description := description } := by
  cases description <;> rfl

end Parts

theorem name_of_mem_members (b : Block) {e : String × Json} (he : e ∈ b.members) :
    e.1 ∈ ["attributes", "blocks", "description"] := by
  obtain ⟨attributes, blocks, description⟩ := b
  simp only [members, List.mem_append] at he
  rcases he with (he | he) | he
  · rw [Schema.name_of_mem_dictMember he]
    decide
  · rw [Schema.name_of_mem_dictMember he]
    decide
  · rw [Schema.name_of_mem_optionalMember he]
    decide

theorem value?_members (b : Block) {name : String}
    (h : name ∉ ["attributes", "blocks", "description"]) : value? b.members name = none :=
  value?_eq_none_iff.2 fun _ he hname => h (hname ▸ b.name_of_mem_members he)

end Block

/-- **A nested block is read back from its document** if its block is. -/
theorem Nested.ofJson_document (lenient : Bool) (n : Nested Block)
    (h : Block.ofMembers n.block.members .empty = .ok n.block) :
    Nested.ofJson lenient
      (.object (n.block.members ++ limits n.mode n.minItems n.maxItems)) = .ok n := by
  have hforeign : ∀ e ∈ limits n.mode n.minItems n.maxItems,
      e.1 ∉ ["attributes", "blocks", "description"] := by simp [limits]
  have hblock : Block.ofMembers (n.block.members ++ limits n.mode n.minItems n.maxItems) .empty =
      .ok n.block := by
    rw [Block.ofMembers_append, h]
    exact Block.ofMembers_of_foreign hforeign n.block
  have hchecks : Json.checkMembers (n.block.members ++ limits n.mode n.minItems n.maxItems)
      (checkMember lenient) = .ok () := by
    rw [Json.checkMembers, Outcome.forM_eq_ok_iff, List.forall_mem_append]
    refine ⟨fun e he => ?_, ?_⟩
    · have hname := n.block.name_of_mem_members he
      simp only [List.mem_cons, List.not_mem_nil, or_false] at hname
      rcases hname with hname | hname | hname <;> rw [hname] <;> rfl
    · simp [limits, checkMember, NestingMode.ofJson_name, Json.asUInt32_ofNat, Except.map]
  have hmode : Json.optional (n.block.members ++ limits n.mode n.minItems n.maxItems)
      "nesting_mode" .single (NestingMode.ofJson lenient) = .ok n.mode := by
    have hvalue : value? (n.block.members ++ limits n.mode n.minItems n.maxItems) "nesting_mode" =
        some (.string n.mode.name) := by simp [Block.value?_members, limits, value?_cons]
    rw [Json.optional, hvalue]
    exact NestingMode.ofJson_name lenient n.mode
  have hminItems : Json.optional (n.block.members ++ limits n.mode n.minItems n.maxItems)
      "min_items" 0 Json.asUInt32 = .ok n.minItems := by
    have hvalue : value? (n.block.members ++ limits n.mode n.minItems n.maxItems) "min_items" =
        some (.ofNat n.minItems.toNat) := by simp [Block.value?_members, limits, value?_cons]
    rw [Json.optional, hvalue]
    exact Json.asUInt32_ofNat n.minItems
  have hmaxItems : Json.optional (n.block.members ++ limits n.mode n.minItems n.maxItems)
      "max_items" 0 Json.asUInt32 = .ok n.maxItems := by
    have hvalue : value? (n.block.members ++ limits n.mode n.minItems n.maxItems) "max_items" =
        some (.ofNat n.maxItems.toNat) := by simp [Block.value?_members, limits, value?_cons]
    rw [Json.optional, hvalue]
    exact Json.asUInt32_ofNat n.maxItems
  simp only [Nested.ofJson, hchecks, hmode, hminItems, hmaxItems, hblock]
  rfl

namespace Block

/-- Nested blocks are read back if their blocks are. -/
theorem nestedOfMembers_nestedMembers {blocks : List (String × Nested Block)}
    (h : ∀ e ∈ blocks, ofMembers e.2.block.members .empty = .ok e.2.block) :
    nestedOfMembers (nestedMembers blocks) = .ok blocks := by
  induction blocks with
  | nil => rfl
  | cons e rest ih =>
    obtain ⟨name, n⟩ := e
    obtain ⟨hn, hrest⟩ := List.forall_mem_cons.1 h
    rw [nestedMembers, nestedOfMembers, n.ofJson_document true hn, ih hrest]
    rfl

/-- **A block is read back from its members**, unless a default in it is null. -/
theorem ofMembers_members {b : Block} (hb : b.DefaultsSet) :
    ofMembers b.members .empty = .ok b := by
  induction b using Block.induction with
  | step b ih =>
    obtain ⟨attributes, blocks, description⟩ := b
    obtain ⟨hattributes, hnested⟩ := hb
    have hblocks := nestedOfMembers_nestedMembers fun e he => ih e he (hnested e he)
    -- Each part is read into the block that the parts before it have filled.
    have hread := ofMembers_attributes .empty (Attribute.ofMembers_mapValues hattributes)
    have hread' := ofMembers_blocks ⟨attributes, [], none⟩ hblocks
    have hread'' := ofMembers_description ⟨attributes, blocks, none⟩ description
    rw [members, ofMembers_append, ofMembers_append]
    exact Outcome.bind_eq_ok_iff.2 ⟨_, Outcome.bind_eq_ok_iff.2 ⟨_, hread, hread'⟩, hread''⟩

/-! ## What was read -/

mutual

/-- A nested block that was read has no null for a default. -/
theorem defaultsSet_of_nestedOfJson {lenient : Bool} :
    (v : Json) → {n : Nested Block} → Nested.ofJson lenient v = .ok n → n.block.DefaultsSet
  | .object members, n, h => by
    simp only [Nested.ofJson, Outcome.bind_eq_ok_iff] at h
    obtain ⟨_, -, _, -, _, -, _, -, block, hblock, h⟩ := h
    rw [Outcome.pure_eq_ok_iff.1 h]
    exact defaultsSet_of_ofMembers members ⟨by simp [empty], by simp [empty]⟩ hblock

/-- A block that was read has no null for a default. -/
theorem defaultsSet_of_ofMembers : (d : List (String × Json)) → {b b' : Block} → b.DefaultsSet →
    ofMembers d b = .ok b' → b'.DefaultsSet
  | [], b, b', hb, h => Except.ok.inj h ▸ hb
  | (name, v) :: rest, b, b', hb, h => by
    rw [ofMembers_cons, Outcome.bind_eq_ok_iff] at h
    obtain ⟨c, hc, h⟩ := h
    refine defaultsSet_of_ofMembers rest ?_ h
    obtain ⟨hhere, hnested⟩ := hb
    unfold addMember at hc
    split_ifs at hc
    · cases v with
      | object members =>
        obtain ⟨attributes, hattributes, rfl⟩ := Outcome.map_eq_ok_iff.1 hc
        exact ⟨Attribute.default_of_ofMembers hattributes, hnested⟩
      | null | bool | number | string | array => cases hc
    · cases v with
      | object members =>
        obtain ⟨blocks, hblocks, rfl⟩ := Outcome.map_eq_ok_iff.1 hc
        exact ⟨hhere, defaultsSet_of_nestedOfMembers members hblocks⟩
      | null | bool | number | string | array => cases hc
    · obtain ⟨description, -, rfl⟩ := Outcome.map_eq_ok_iff.1 hc
      exact ⟨hhere, hnested⟩
    · exact Except.ok.inj hc ▸ ⟨hhere, hnested⟩

/-- Nested blocks that were read have no null for a default. -/
theorem defaultsSet_of_nestedOfMembers : (d : List (String × Json)) →
    {blocks : List (String × Nested Block)} → nestedOfMembers d = .ok blocks →
    ∀ e ∈ blocks, e.2.block.DefaultsSet
  | [], blocks, h => by
    obtain rfl := Except.ok.inj h
    simp
  | (name, v) :: rest, blocks, h => by
    simp only [nestedOfMembers, Outcome.bind_eq_ok_iff] at h
    obtain ⟨n, hn, more, hmore, h⟩ := h
    rw [Outcome.pure_eq_ok_iff.1 h]
    exact List.forall_mem_cons.2
      ⟨defaultsSet_of_nestedOfJson v hn, defaultsSet_of_nestedOfMembers rest hmore⟩

end

end Block

/-! ## Schemas -/

namespace Schema

/-- A schema is read back from its document if no default in it is null. -/
theorem ofJson_toJson (s : Schema) (h : s.block.DefaultsSet) : ofJson s.toJson = .ok s := by
  have hversion : value? (s.block.members ++ [("version", .ofUInt64 s.version)]) "version" =
      some (.ofUInt64 s.version) := by simp [Block.value?_members, value?_cons]
  have hblock : Block.ofMembers (s.block.members ++ [("version", .ofUInt64 s.version)]) .empty =
      .ok s.block := by
    rw [Block.ofMembers_append, Block.ofMembers_members h]
    exact Block.ofMembers_of_foreign (by simp) s.block
  simp only [toJson, ofJson, Json.optional, hversion, hblock]
  rfl

theorem defaultsSet_of_ofJson {v : Json} {s : Schema} (h : ofJson v = .ok s) :
    s.block.DefaultsSet := by
  cases v with
  | object d =>
    simp only [ofJson, Outcome.bind_eq_ok_iff] at h
    obtain ⟨_, -, block, hblock, h⟩ := h
    rw [Outcome.pure_eq_ok_iff.1 h]
    exact Block.defaultsSet_of_ofMembers d ⟨by simp [Block.empty], by simp [Block.empty]⟩ hblock
  | null | bool | number | string | array => cases h

/-- **Schemas survive their documents.** A schema is read back from its document exactly when no
default in it is null, on any level; and what was read from some document is written and read back
unchanged. -/
theorem documented :
    (∀ s : Schema, ofJson s.toJson = .ok s ↔ s.block.DefaultsSet) ∧
      ∀ (v : Json) (s : Schema), ofJson v = .ok s → ofJson s.toJson = .ok s :=
  ⟨fun s => ⟨defaultsSet_of_ofJson, s.ofJson_toJson⟩,
    fun _ s h => s.ofJson_toJson (defaultsSet_of_ofJson h)⟩

/-- A document with a list of lists, a default that is null, and a nested block with a limit and a
member that has no meaning. -/
def listsDocument : Json :=
  .object [
    ("attributes", .object [("matrix", .object [("computed", .bool false), ("default", .null),
      ("optional", .bool true), ("required", .bool false), ("sensitive", .bool false),
      ("type", .object [("list", .object [("list", .string "int64")])])])]),
    ("blocks", .object [("rule", .object [("color", .string "red"),
      ("description", .string "rules"), ("max_items", .ofNat 7), ("nesting_mode", .string "set")])]),
    ("version", .ofNat 3)]

/-- The schema in `listsDocument`. -/
def lists : Schema :=
  ⟨3, ⟨[("matrix", .plain (.list (.list .int64)) .optionalOnly)],
    [("rule", ⟨⟨[], [], some "rules"⟩, .set, 0, 7⟩)], none⟩⟩

theorem documented_lists : ofJson listsDocument = .ok lists ∧ lists.block.DefaultsSet ∧
    ofJson lists.toJson = .ok lists := by
  have hread : ofJson listsDocument = .ok lists := rfl
  have hback := documented.2 listsDocument lists hread
  exact ⟨hread, (documented.1 lists).1 hback, hback⟩

end Schema

end LoggingProvider
