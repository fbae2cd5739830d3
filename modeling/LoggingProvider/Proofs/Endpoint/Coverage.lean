import LoggingProvider.Http.Client
import LoggingProvider.Proofs.Endpoint.Conforming

/-!
# The fields that a service kind covers

The block of an endpoint lists the name and the fields of a service kind. The requests and the
records of endpoints cover the same ones. A creation sends a field exactly when its record sets it,
an update sends none but those that changed, and a record shows none but these, and each that the
endpoint has. Members without a meaning are not sent, and so a service never sends nor shows a field
of the other kind.

## Main definitions

* `Call.form`: the form of a request, as documents
* `Json.sent`: a value of a record in a form
* `AttributeType.Takes`, `Endpoint.Filled`: the values of a type, and the records whose fields have
  such values or null
* `Endpoint.Field.Vacant`: values of a field that a record does not show

## Main results

* `Call.form_request`: what the client sends is the form
* `Endpoint.hasField_of_mem_form`: requests send no fields but those of the block
* `Endpoint.Filled.exists_createCall`, `Endpoint.Filled.exists_updateCall`: the form of a request
* `Endpoint.member?_record_of_not_vacant`: the fields that a record shows
* `Endpoint.requests_and_records_cover_block`: the block, the requests and the records agree
-/

namespace LoggingProvider

open Dict Reconcile

/-! ## Forms -/

/-- **The form of a request**, as documents. -/
def Call.form : Call → List (String × Json)
  | .create _ name settings => ("name", .string name) :: settings.formMembers
  | .update _ _ settings => settings.formMembers
  | .list _ => []
  | .delete _ _ => []

/-- A value of a record in a form: a truth value is one digit. -/
def Json.sent : Json → Json
  | .bool b => .string (if b then "1" else "0")
  | v => v

/-- A value of a form as a text. -/
def Json.formText : Json → String
  | .string s => s
  | .number (.natural n) => toString n.toNat
  | v => v.compact

/-- **The values of a type**, with natural numbers of any size for integers. -/
inductive AttributeType.Takes : AttributeType → Json → Prop
  | string (s : String) : Takes .string (.string s)
  | int64 (c : UInt64) : Takes .int64 (.number (.natural c))
  | bool (b : Bool) : Takes .bool (.bool b)
  | list {element : AttributeType} {items : List Json} (h : ∀ v ∈ items, Takes element v) :
    Takes (.list element) (.array items)

namespace Endpoint

theorem Kind.formJson_eq (k : Kind) (c : k.Carrier) : k.formJson c = (k.toJson c).sent := by
  cases k <;> rfl

theorem Kind.formText_formJson (k : Kind) (c : k.Carrier) :
    (k.formJson c).formText = k.formText c := by
  cases k <;> rfl

theorem Settings.map_formText_formMembers (settings : Settings) :
    settings.formMembers.map (fun e => (e.1, e.2.formText)) = settings.formEntries := by
  unfold formMembers formEntries
  rw [List.map_filterMap]
  refine List.filterMap_congr fun f _ => ?_
  rw [Option.map_map]
  refine congrArg (Option.map · (settings f)) (funext fun c => ?_)
  rw [Function.comp_apply, Kind.formText_formJson]

end Endpoint

/-- **What the client sends is the form**, each value as a text. -/
theorem Call.form_request (client : Http.Client) (call : Call) :
    (client.request call).form.getD [] = call.form.map fun e => (e.1, e.2.formText) := by
  cases call with
  | list | delete => rfl
  | create t n settings =>
    rw [form, List.map_cons, Endpoint.Settings.map_formText_formMembers]
    rfl
  | update t n settings =>
    rw [form, Endpoint.Settings.map_formText_formMembers]
    rfl

namespace Endpoint

variable {kind : ServiceKind} {target : Target} {purpose : Purpose} {d changed : Dict Json}
  {r w : Json} {m n : String} {call : Call} {f : Field} {settings : Settings}

theorem Settings.mem_formMembers_iff :
    (m, w) ∈ settings.formMembers ↔
      ∃ f c, settings f = some c ∧ f.name = m ∧ w = (f.kind.toJson c).sent := by
  unfold formMembers
  rw [List.mem_filterMap]
  constructor
  · rintro ⟨f, -, he⟩
    obtain ⟨c, hc, he⟩ := Option.map_eq_some_iff.1 he
    obtain ⟨rfl, rfl⟩ := Prod.mk.inj he
    exact ⟨f, c, hc, rfl, f.kind.formJson_eq c⟩
  · rintro ⟨f, c, hc, rfl, rfl⟩
    exact ⟨f, f.mem_all, by rw [hc, Option.map_some, Kind.formJson_eq]⟩

/-- No field is sent twice. -/
theorem Settings.nodup_names_form (settings : Settings) (name : Json) :
    (names (("name", name) :: settings.formMembers)).Nodup := by
  have hnodup := nodup_names_filterMap_fields Field.nodup_map_name name fun f =>
    (settings f).map f.kind.formJson
  simp only [Option.map_map] at hnodup
  exact hnodup

/-! ## What is sent -/

/-- The fields that are sent are registered. -/
theorem registered_of_settingsFor (h : settingsFor kind purpose d = .ok settings)
    {c : f.kind.Carrier} (hc : settings f = some c) : f.registered kind := by
  by_contra hf
  rw [(settingsFor_eq_ok_iff.1 h).2 f hf] at hc
  cases hc

theorem hasField_of_mem_formMembers (h : settingsFor kind purpose d = .ok settings)
    {e : String × Json} (he : e ∈ settings.formMembers) : (block kind).hasField e.1 := by
  obtain ⟨f, c, hc, hf, -⟩ := Settings.mem_formMembers_iff.1 he
  exact (hasField_block kind).2 (.inr ⟨f, registered_of_settingsFor h hc, hf⟩)

/-- **Requests send no fields but those of the block**, whatever the record is. -/
theorem hasField_of_mem_form
    (h : createCall kind target r = .ok call ∨ updateCall kind target r changed = .ok call) :
    ∀ e ∈ call.form, (block kind).hasField e.1 := by
  rcases h with h | h
  · obtain ⟨d, n, settings, -, -, hsettings, rfl⟩ := createCall_eq_ok_iff.1 h
    refine List.forall_mem_cons.2 ⟨(hasField_block kind).2 (.inl rfl), fun e he => ?_⟩
    exact hasField_of_mem_formMembers hsettings he
  · obtain ⟨n, settings, -, hsettings, rfl⟩ := updateCall_eq_ok_iff.1 h
    exact fun e he => hasField_of_mem_formMembers hsettings he

/-- What is sent depends on the fields of the block alone. -/
theorem settingsFor_congr {d' : Dict Json}
    (hsame : ∀ m, (block kind).hasField m → value? d' m = value? d m)
    (h : settingsFor kind purpose d = .ok settings) :
    settingsFor kind purpose d' = .ok settings := by
  obtain ⟨hreg, hother⟩ := settingsFor_eq_ok_iff.1 h
  refine settingsFor_eq_ok_iff.2 ⟨fun f hf => ?_, hother⟩
  rw [← hreg f hf]
  unfold Field.read
  rw [hsame f.name ((hasField_block kind).2 (.inr ⟨f, hf, rfl⟩))]

/-- The empty text is left out of a creation. -/
theorem Kind.read_of_isUnset {k : Kind} {name : String} {c : k.Carrier}
    (h : (k.toJson c).isUnset) : k.read name .create (some (k.toJson c)) = .ok none := by
  cases k with
  | text =>
    obtain rfl : c = "" := String.isEmpty_iff.1 h
    rfl
  | flag => cases h
  | count => cases h

/-- What is null or of the kind can be read. -/
theorem Kind.exists_read_of_typed {k : Kind} (name : String) (purpose : Purpose) {v : Json}
    (h : v = .null ∨ ∃ c, v = k.toJson c) : ∃ u, k.read name purpose (some v) = .ok u := by
  rcases h with rfl | ⟨c, rfl⟩
  · cases purpose with
    | update => exact ⟨_, Kind.read_null_update _ _⟩
    | create => exact ⟨_, Kind.read_null_create _ _⟩
  · cases purpose with
    | update => exact ⟨some c, Kind.read_toJson c nofun⟩
    | create =>
      cases hset : (k.toJson c).isUnset with
      | false => exact ⟨some c, Kind.read_toJson c fun _ => hset⟩
      | true => exact ⟨none, Kind.read_of_isUnset hset⟩

/-- Nothing is sent for a field that is absent. -/
theorem Field.exists_value_of_read {c : f.kind.Carrier} (h : f.read purpose d = .ok (some c)) :
    ∃ v, value? d f.name = some v := by
  unfold Field.read at h
  cases hv : value? d f.name with
  | some v => exact ⟨v, rfl⟩
  | none =>
    rw [hv, Kind.read_none] at h
    cases h

/-! ## Records whose fields are of their types -/

/-- **The records whose fields are of their types or null.** Members without a meaning may have any
value. -/
def Filled (kind : ServiceKind) (d : Dict Json) : Prop :=
  ∀ e ∈ (block kind).attributes, ∀ v, value? d e.1 = some v → v = .null ∨ e.2.type.Takes v

namespace Filled

/-- A value of a field's type is a value of the field. -/
theorem exists_toJson {k : Kind} {v : Json} (h : k.type.Takes v) : ∃ c, v = k.toJson c := by
  cases k with
  | text =>
    cases h with
    | string s => exact ⟨s, rfl⟩
  | flag =>
    cases h with
    | bool b => exact ⟨b, rfl⟩
  | count =>
    cases h with
    | int64 c => exact ⟨c, rfl⟩

theorem field (h : Filled kind d) (hf : f.registered kind) {v : Json}
    (hv : value? d f.name = some v) : v = .null ∨ ∃ c, v = f.kind.toJson c := by
  have hentry : (f.name, f.attr) ∈ (block kind).attributes :=
    mem_attributes_block_iff.2 (.inr ⟨f, hf, rfl⟩)
  refine (h _ hentry v hv).imp_right fun htype => ?_
  rw [f.type_attr] at htype
  exact exists_toJson htype

/-- **What a creation sends**: the fields that are set. -/
theorem read_create (h : Filled kind d) (hf : f.registered kind) :
    f.read .create d =
      .ok (((value? d f.name).filter (!·.isUnset)).bind f.kind.strict?) := by
  unfold Field.read
  rw [Field.purpose_create]
  cases hv : value? d f.name with
  | none => exact Kind.read_none _ _ _
  | some v =>
    rcases h.field hf hv with rfl | ⟨c, rfl⟩
    · exact Kind.read_null_create _ _
    · cases hset : (f.kind.toJson c).isUnset with
      | false =>
        rw [Kind.read_toJson c fun _ => hset, Option.filter_some, hset]
        exact congrArg Except.ok (Kind.strict?_toJson c).symm
      | true =>
        rw [Kind.read_of_isUnset hset, Option.filter_some, hset]
        rfl

/-- What an update sends can be read. -/
theorem exists_read_update (h : Filled kind d) (hf : f.registered kind) :
    ∃ u, f.read .update d = .ok u := by
  unfold Field.read
  cases hv : value? d f.name with
  | none => exact ⟨none, Kind.read_none _ _ _⟩
  | some v => exact Kind.exists_read_of_typed _ _ (h.field hf hv)

/-- The values in the form of a creation. -/
theorem settings_eq_some_iff (h : Filled kind d)
    (hsettings : settingsFor kind .create d = .ok settings) (hf : f.registered kind)
    {c : f.kind.Carrier} : settings f = some c ↔
      value? d f.name = some (f.kind.toJson c) ∧ (f.kind.toJson c).isUnset = false := by
  have hread := (settingsFor_eq_ok_iff.1 hsettings).1 f hf
  rw [h.read_create hf] at hread
  rw [← Except.ok.inj hread, Option.bind_eq_some_iff]
  constructor
  · rintro ⟨v, hv, hc⟩
    obtain ⟨hv, hset⟩ := Option.filter_eq_some_iff.1 hv
    rcases h.field hf hv with rfl | ⟨c', rfl⟩
    · cases hset
    · rw [Kind.strict?_toJson] at hc
      obtain rfl := Option.some.inj hc
      exact ⟨hv, by simpa using hset⟩
  · rintro ⟨hv, hset⟩
    exact ⟨_, Option.filter_eq_some_iff.2 ⟨hv, by simpa using hset⟩, Kind.strict?_toJson c⟩

/-- **The form of a creation**: it has the fields of the block that the record sets, each once, and
members without a meaning do not count. -/
theorem exists_createCall (h : Filled kind d) (hn : nameOf (.object d) = .ok n) (hne : n ≠ "")
    (target : Target) : ∃ call, createCall kind target (.object d) = .ok call ∧
      (names call.form).Nodup ∧
      (∀ m w, (m, w) ∈ call.form ↔
        (block kind).hasField m ∧ ∃ v, value? d m = some v ∧ v.isUnset = false ∧ w = v.sent) ∧
      ∀ d', (∀ m, (block kind).hasField m → value? d' m = value? d m) →
        createCall kind target (.object d') = .ok call := by
  obtain ⟨settings, hsettings⟩ : ∃ settings, settingsFor kind .create d = .ok settings :=
    exists_settingsFor fun f hf => ⟨_, h.read_create hf⟩
  refine ⟨.create target n settings,
    createCall_eq_ok_iff.2 ⟨d, n, settings, rfl, hn, hsettings, rfl⟩,
    settings.nodup_names_form _, fun m w => ?_, fun d' hsame => ?_⟩
  · rw [Call.form, List.mem_cons, Settings.mem_formMembers_iff]
    constructor
    · rintro (he | ⟨f, c, hc, rfl, rfl⟩)
      · obtain ⟨rfl, rfl⟩ := Prod.mk.inj he
        exact ⟨(hasField_block kind).2 (.inl rfl), .string n, nameOf_eq_ok_iff.1 hn,
          by simpa [Json.isUnset] using hne, rfl⟩
      · have hf := registered_of_settingsFor hsettings hc
        obtain ⟨hv, hset⟩ := (h.settings_eq_some_iff hsettings hf).1 hc
        exact ⟨(hasField_block kind).2 (.inr ⟨f, hf, rfl⟩), _, hv, hset, rfl⟩
    · rintro ⟨hm, v, hv, hset, rfl⟩
      rcases (hasField_block kind).1 hm with rfl | ⟨f, hf, rfl⟩
      · obtain rfl := Option.some.inj (hv.symm.trans (nameOf_eq_ok_iff.1 hn))
        exact .inl rfl
      · rcases h.field hf hv with rfl | ⟨c, rfl⟩
        · cases hset
        · exact .inr ⟨f, c, (h.settings_eq_some_iff hsettings hf).2 ⟨hv, hset⟩, rfl, rfl⟩
  · have hname : nameOf (.object d') = .ok n := by
      rw [nameOf_eq_ok_iff] at hn ⊢
      exact (hsame "name" ((hasField_block kind).2 (.inl rfl))).trans hn
    exact createCall_eq_ok_iff.2
      ⟨d', n, settings, rfl, hname, settingsFor_congr hsame hsettings, rfl⟩

/-- **The form of an update**: it has fields of the block alone, and only those that changed. -/
theorem exists_updateCall (h : Filled kind changed) (hn : nameOf r = .ok n) (target : Target) :
    ∃ call, updateCall kind target r changed = .ok call ∧
      ∀ e ∈ call.form, (block kind).hasField e.1 ∧ ∃ v, value? changed e.1 = some v := by
  obtain ⟨settings, hsettings⟩ : ∃ settings, settingsFor kind .update changed = .ok settings :=
    exists_settingsFor fun f hf => h.exists_read_update hf
  refine ⟨.update target n settings, updateCall_eq_ok_iff.2 ⟨n, settings, hn, hsettings, rfl⟩,
    fun e he => ⟨hasField_of_mem_formMembers hsettings he, ?_⟩⟩
  obtain ⟨f, c, hc, hf, -⟩ := Settings.mem_formMembers_iff.1 he
  rw [← hf]
  have hread := (settingsFor_eq_ok_iff.1 hsettings).1 f (registered_of_settingsFor hsettings hc)
  rw [hc] at hread
  exact Field.exists_value_of_read hread

end Filled

end Endpoint

/-! ## Records of endpoints -/

namespace Endpoint

variable {kind : ServiceKind} {e : Endpoint} {f : Field} {c : f.kind.Carrier}

/-- **The values of a field that a record does not show**: the empty text, and a blank one if the
blanks around it are dropped. -/
def Field.Vacant (f : Field) (c : f.kind.Carrier) : Prop :=
  ∃ s, f.kind.toJson c = .string s ∧
    (s = "" ∨ f.attr.normalizer = some .trimSpace ∧ ∀ c ∈ s.toList, Text.isBlank c)

theorem Kind.toJson_ne_null {k : Kind} (c : k.Carrier) : k.toJson c ≠ .null := by
  cases k <;> nofun

/-- What a record does not show is unset after its normalizer. -/
theorem Field.vacant_iff :
    f.Vacant c ↔ (f.attr.normalized (f.kind.toJson c)).isUnset = true := by
  have hnull : f.kind.toJson c ≠ .null := Kind.toJson_ne_null c
  rw [Attribute.isUnset_normalized_iff]
  unfold Vacant
  generalize f.kind.toJson c = v at *
  cases v with
  | null => exact absurd rfl hnull
  | _ => simp [Json.isUnset]

/-- **The fields that a record shows**: those with a value that is not vacant, after their
normalizer. -/
theorem member?_record_of_not_vacant (hf : f.registered kind) (hc : e.settings f = some c)
    (h : ¬f.Vacant c) :
    (record kind e).member? f.name = some (f.attr.normalized (f.kind.toJson c)) := by
  rw [Field.vacant_iff, Bool.not_eq_true] at h
  rw [member?_record_field e hf, Field.shown, hc, Option.map_some, Attribute.settle_of_normalized h]

/-- A record shows no members but those of the block. -/
theorem hasField_of_member?_record {n : String} {v : Json}
    (h : (record kind e).member? n = some v) : (block kind).hasField n := by
  by_contra hn
  rw [(isRecord_record e).member?_eq_none hn] at h
  cases h

/-- The block of a service of the other kind has no field of a VCL service alone. -/
theorem not_hasField_of_vclOnly (hf : f.vclOnly) : ¬(block .compute).hasField f.name := by
  rw [hasField_block, not_or]
  refine ⟨f.name_ne_name, ?_⟩
  rintro ⟨g, hg, hname⟩
  obtain rfl := Field.name_injective hname
  simp [Field.registered, hf] at hg

/-! ## The block, the requests and the records -/

/-- **The block, the requests and the records of a service kind cover the same fields.** A record
whose fields are of their types can be sent. A creation has the fields that the record sets, each
once, and members without a meaning do not count; an update has none but the fields that changed. A
record of an endpoint shows no others, and each whose value is not vacant. So the fields of VCL
services are neither sent to a service of the other kind nor shown for it. What a client sends is
the form of the request, each value as a text. -/
theorem requests_and_records_cover_block (kind : ServiceKind) (target : Target) :
    (∀ d n, Filled kind d → nameOf (.object d) = .ok n → n ≠ "" → ∃ call,
      createCall kind target (.object d) = .ok call ∧ (names call.form).Nodup ∧
      (∀ m w, (m, w) ∈ call.form ↔
        (block kind).hasField m ∧ ∃ v, value? d m = some v ∧ v.isUnset = false ∧ w = v.sent) ∧
      ∀ d', (∀ m, (block kind).hasField m → value? d' m = value? d m) →
        createCall kind target (.object d') = .ok call) ∧
    (∀ r n changed, nameOf r = .ok n → Filled kind changed → ∃ call,
      updateCall kind target r changed = .ok call ∧
      ∀ e ∈ call.form, (block kind).hasField e.1 ∧ ∃ v, value? changed e.1 = some v) ∧
    (∀ e : Endpoint, (∀ m v, (record kind e).member? m = some v → (block kind).hasField m) ∧
      (e.name ≠ "" → (record kind e).member? "name" = some (.string e.name)) ∧
      ∀ (f : Field) (c : f.kind.Carrier), f.registered kind → e.settings f = some c →
        ¬f.Vacant c →
          (record kind e).member? f.name = some (f.attr.normalized (f.kind.toJson c))) ∧
    (∀ f : Field, f.vclOnly →
      (∀ r changed call, createCall .compute target r = .ok call ∨
        updateCall .compute target r changed = .ok call → ∀ e ∈ call.form, e.1 ≠ f.name) ∧
      ∀ e : Endpoint, (record .compute e).member? f.name = none) ∧
    ∀ (client : Http.Client) (call : Call),
      (client.request call).form.getD [] = call.form.map fun e => (e.1, e.2.formText) := by
  refine ⟨?_, ?_, ?_, ?_, Call.form_request⟩
  · exact fun d n hd hn hne => hd.exists_createCall hn hne target
  · exact fun r n changed hn hchanged => hchanged.exists_updateCall hn target
  · intro e
    refine ⟨fun m v => hasField_of_member?_record, fun hne => ?_, fun f c hf hc hfull => ?_⟩
    · exact nameOf_eq_ok_iff.1 (nameOf_record hne)
    · exact member?_record_of_not_vacant hf hc hfull
  · intro f hf
    have hnone := not_hasField_of_vclOnly hf
    refine ⟨fun r changed call hcall e he hname => ?_, fun e => ?_⟩
    · exact hnone (hname ▸ hasField_of_mem_form hcall e he)
    · exact (isRecord_record e).member?_eq_none hnone

/-- A record with an empty field, one that is null, and a member without a meaning. -/
def sparse : Dict Json :=
  [("brokers", .string ""), ("color", .array [.null]), ("name", .string "k"), ("placement", .null),
    ("topic", .string "logs"), ("use_tls", .bool true)]

theorem filled_sparse : Filled .vcl sparse := by
  intro e he v hv
  rcases mem_attributes_block_iff.1 he with rfl | ⟨f, -, rfl⟩
  · obtain rfl := Option.some.inj hv
    exact .inr (.string "k")
  · cases f with
    | brokers | topic =>
      obtain rfl := Option.some.inj hv
      exact .inr (.string _)
    | useTls =>
      obtain rfl := Option.some.inj hv
      exact .inr (.bool true)
    | placement => exact .inl (Option.some.inj hv).symm
    | _ => cases hv

/-- A creation and an update for this record, and an endpoint with a format that a service of the
other kind does not show. -/
theorem requests_and_records_cover_block_of_sparse :
    (∃ call, createCall .vcl ⟨"svc", 1⟩ (.object sparse) = .ok call ∧
      ("use_tls", .string "1") ∈ call.form ∧
      ∀ w, ("brokers", w) ∉ call.form ∧ ("color", w) ∉ call.form) ∧
    (∃ call, updateCall .vcl ⟨"svc", 1⟩ (.object sparse) sparse = .ok call ∧
      ∀ w, ("color", w) ∉ call.form) ∧
    let e : Endpoint := ⟨"k", .ofMembers [("format", .string "%h"), ("topic", .string "logs")]⟩
    (record .compute e).member? "topic" = some (.string "logs") ∧
      (record .compute e).member? "format" = none := by
  have hcolor : ¬(block .vcl).hasField "color" := by decide +kernel
  obtain ⟨hcreate, hupdate, -⟩ := requests_and_records_cover_block .vcl ⟨"svc", 1⟩
  obtain ⟨-, -, hrecord, hvcl, -⟩ := requests_and_records_cover_block .compute ⟨"svc", 1⟩
  refine ⟨?_, ?_, ?_, ?_⟩
  · obtain ⟨call, hcall, -, hform, -⟩ := hcreate sparse "k" filled_sparse rfl (by decide)
    refine ⟨call, hcall, (hform _ _).2 ⟨by decide +kernel, .bool true, rfl, rfl, rfl⟩,
      fun w => ⟨fun hw => ?_, fun hw => hcolor ((hform _ _).1 hw).1⟩⟩
    obtain ⟨-, v, hv, hset, -⟩ := (hform _ _).1 hw
    obtain rfl := Option.some.inj hv
    cases hset
  · obtain ⟨call, hcall, hform⟩ := hupdate (.object sparse) "k" sparse rfl filled_sparse
    exact ⟨call, hcall, fun w hw => hcolor (hform _ hw).1⟩
  · refine (hrecord _).2.2 .topic "logs" rfl rfl ?_
    rw [Field.vacant_iff]
    exact Bool.false_ne_true
  · exact (hvcl .format rfl).2 _

end Endpoint

end LoggingProvider
