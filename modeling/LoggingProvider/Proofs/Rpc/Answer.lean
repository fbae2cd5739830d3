import LoggingProvider.Proofs.Rpc.Payload
import LoggingProvider.Proofs.Schema.Codec

/-!
# What messages tell

Which message tells a finding, a change, an imported resource or a schema is said by what can be
read from it, and not by how it is made. Bytes carry a document if it is the one that they denote.
That much can be asked of the documents that survive the wire; a floating-point number may be read
as its neighbour, and of a document with such numbers the bytes are the encoding. A value that is
absent has no bytes, and one that is null has some.

## Main definitions

* `Rpc.Denotes`: the document that bytes denote
* `Rpc.Carries`, `Rpc.CarriesSide`: bytes that carry a document, and a value that may be absent
* `Rpc.Finding.Tells`, `Rpc.ChangeMessage.Tells`, `Rpc.ImportedMessage.Tells`: messages that tell
  parts of results
* `Rpc.AttributeMessage.Tells`, `Rpc.BlockMessage.Tells`, `Rpc.SchemaMessage.Tells`: messages that
  tell schemas

## Main results

* `Rpc.carries_encode`: the encoding of a document carries it
* `Rpc.Finding.tells_ofDiagnostic`, `Rpc.ChangeMessage.tells_ofChange`,
  `Rpc.ImportedMessage.tells_ofImported`, `Rpc.SchemaMessage.tells_ofSchema`: what is made of a part
  tells it
-/

namespace LoggingProvider

namespace Rpc

/-! ## Documents -/

/-- **The document that bytes denote**: null if there are none, and else what is read from them. -/
inductive Denotes : Bytes → Json → Prop
  | absent : Denotes [] .null
  | document {bytes : Bytes} {v : Json} (h : bytes ≠ []) (hv : Json.parseBytes bytes = .ok v) :
    Denotes bytes v

/-- **Bytes that carry a document**: they are its encoding, of which there are some, and they denote
it if it survives the wire. -/
structure Carries (bytes : Bytes) (v : Json) : Prop where
  encoded : bytes = v.encode
  ne_nil : bytes ≠ []
  denotes : v.Portable → Denotes bytes v

/-- **Bytes that carry a value that may be absent**: there are none if it is. -/
inductive CarriesSide : Bytes → Option Json → Prop
  | absent : CarriesSide [] none
  | present {bytes : Bytes} {v : Json} (h : Carries bytes v) : CarriesSide bytes (some v)

theorem carries_encode (v : Json) : Carries v.encode v where
  encoded := rfl
  ne_nil := v.encode_ne_nil
  denotes hv := .document v.encode_ne_nil (Json.parseBytes_encode hv)

theorem carriesSide_bytesOf (v : Option Json) : CarriesSide (ChangeMessage.bytesOf v) v := by
  cases v with
  | none => exact .absent
  | some v => exact .present (carries_encode v)

/-! ## Results -/

/-- **A finding that tells a diagnostic.** The severity is told by its number, and what is absent by
the empty text. -/
structure Finding.Tells (m : Finding) (d : Diagnostic) : Prop where
  severity : (m.severity, d.severity) ∈ [(1, Severity.error), (2, .warning)]
  summary : m.summary = d.summary
  detail : m.detail = d.detail.getD ""
  path : m.path = d.path.getD ""

/-- **A message that tells a change.** -/
structure ChangeMessage.Tells (m : ChangeMessage) (c : Change) : Prop where
  path : m.path = c.path
  before : CarriesSide m.before c.before
  after : CarriesSide m.after c.after

/-- **A message that tells an imported resource.** -/
structure ImportedMessage.Tells (m : ImportedMessage) (i : Imported) : Prop where
  type : m.type = i.type
  state : Carries m.state i.state

theorem Finding.tells_ofDiagnostic (d : Diagnostic) : (ofDiagnostic d).Tells d where
  severity := by
    rw [ofDiagnostic]
    cases d.severity with
    | error => exact List.mem_cons_self
    | warning => exact List.mem_cons_of_mem _ List.mem_cons_self
  summary := rfl
  detail := rfl
  path := rfl

theorem ChangeMessage.tells_ofChange (c : Change) : (ofChange c).Tells c where
  path := rfl
  before := carriesSide_bytesOf c.before
  after := carriesSide_bytesOf c.after

theorem ImportedMessage.tells_ofImported (i : Imported) : (ofImported i).Tells i where
  type := rfl
  state := carries_encode i.state

/-! ## Schemas -/

/-- **A message that tells an attribute.** The type is the one that its document is read as, and no
bytes say that there is no default or no restriction. -/
structure AttributeMessage.Tells (m : AttributeMessage) (name : String) (a : Attribute) : Prop where
  name : m.name = name
  type : ∃ v, Carries m.type v ∧ AttributeType.ofJson false v = .ok a.type
  flags : m.required = a.flags.required ∧ m.optional = a.flags.optional ∧
    m.computed = a.flags.computed ∧ m.sensitive = a.flags.sensitive
  description : m.description = a.description.getD ""
  forceNew : m.forceNew = a.forceNew
  default : CarriesSide m.default a.default
  allowed : CarriesSide m.allowed (if a.allowed = [] then none else some (.array a.allowed))

mutual

/-- **A message that tells a block**, with what is nested in it. -/
inductive BlockMessage.Tells : BlockMessage → Block → Prop
  | mk {b : Block} {attributes : List AttributeMessage}
    {blocks : List (String × BlockMessage × Nat × Int32 × Int32)}
    (hattributes : List.Forall₂ (fun m e => m.Tells e.1 e.2) attributes b.attributes)
    (hblocks : BlockMessage.TellsNested blocks b.blocks) :
    BlockMessage.Tells (.mk attributes blocks (b.description.getD "")) b

/-- Messages that tell nested blocks. The mode is told by its number, and the limits by integers
that wrap around. -/
inductive BlockMessage.TellsNested :
    List (String × BlockMessage × Nat × Int32 × Int32) → List (String × Nested Block) → Prop
  | nil : BlockMessage.TellsNested [] []
  | cons {name : String} {block : BlockMessage} {mode : Nat} {least most : Int32} {n : Nested Block}
    {rest : List (String × BlockMessage × Nat × Int32 × Int32)}
    {rest' : List (String × Nested Block)} (hblock : BlockMessage.Tells block n.block)
    (hmode : (mode, n.mode) ∈ [(1, NestingMode.single), (2, .list), (3, .set)])
    (hleast : least.toUInt32 = n.minItems) (hmost : most.toUInt32 = n.maxItems)
    (hrest : BlockMessage.TellsNested rest rest') :
    BlockMessage.TellsNested ((name, block, mode, least, most) :: rest) ((name, n) :: rest')

end

/-- **A message that tells a schema.** -/
structure SchemaMessage.Tells (m : SchemaMessage) (s : Schema) : Prop where
  version : m.version.toUInt64 = s.version
  block : m.block.Tells s.block

theorem AttributeMessage.tells_ofAttribute (name : String) (a : Attribute) :
    (ofAttribute name a).Tells name a where
  name := rfl
  type := ⟨a.type.toJson, carries_encode _, a.type.ofJson_toJson false⟩
  flags := ⟨rfl, rfl, rfl, rfl⟩
  description := rfl
  forceNew := rfl
  default := carriesSide_bytesOf a.default
  allowed := by
    rw [ofAttribute]
    cases a.allowed with
    | nil => exact .absent
    | cons v vs => exact .present (carries_encode _)

/-- The number of a mode tells it. -/
theorem modeCode_mem (m : NestingMode) :
    (modeCode m, m) ∈ [(1, NestingMode.single), (2, .list), (3, .set)] := by
  cases m <;> decide

namespace BlockMessage

theorem tellsNested_ofNested {blocks : List (String × Nested Block)}
    (h : ∀ e ∈ blocks, (ofBlock e.2.block).Tells e.2.block) :
    TellsNested (ofNested blocks) blocks := by
  induction blocks with
  | nil => exact .nil
  | cons e rest ih =>
    obtain ⟨name, n⟩ := e
    obtain ⟨hblock, hrest⟩ := List.forall_mem_cons.1 h
    exact .cons hblock (modeCode_mem n.mode) n.minItems.toUInt32_toInt32 n.maxItems.toUInt32_toInt32
      (ih hrest)

/-- **What is made of a block tells it**, on every depth. -/
theorem tells_ofBlock (b : Block) : (ofBlock b).Tells b := by
  induction b using Block.induction with
  | step b ih =>
    obtain ⟨attributes, blocks, description⟩ := b
    have hattributes : List.Forall₂ (fun m e => m.Tells e.1 e.2)
        (attributes.map fun e => AttributeMessage.ofAttribute e.1 e.2) attributes :=
      List.forall₂_map_left_iff.2
        (List.forall₂_same.2 fun e _ => AttributeMessage.tells_ofAttribute e.1 e.2)
    exact .mk hattributes (tellsNested_ofNested ih)

end BlockMessage

theorem SchemaMessage.tells_ofSchema (s : Schema) : (ofSchema s).Tells s where
  version := s.version.toUInt64_toInt64
  block := BlockMessage.tells_ofBlock s.block

end Rpc

end LoggingProvider
