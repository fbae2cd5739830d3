import LoggingProvider.Proofs.Endpoint.Request
import LoggingProvider.Proofs.Remote.Store

/-!
# Cleared fields

An update clears a field that the changed members have as null. The updated endpoint then shows the
field as one does that never had a value for it: not at all if it is a text, and else by its default.
The exception is the version of the logging format. It is left out of the update, which keeps what is
stored, so the endpoint shows the default version only if it had this version, or none, before.

## Main results

* `Endpoint.Field.shown_none`, `Endpoint.Field.shown_eq_default_of_cleared`: a field without a value
  and a cleared one
* `Endpoint.cleared_reset_iff`: when a field is reset by an update that clears it
* `Endpoint.format_version_kept`: a version of the format that stays
-/

namespace LoggingProvider

open Dict Reconcile

namespace Endpoint

variable {kind : ServiceKind} {target : Target} {f : Field} {n : String} {r : Json}
  {d changed : Dict Json} {call : Call} {e k : Endpoint} {s : Store}

/-! ## What is shown -/

/-- A field without a value shows its default, if there is one. -/
theorem Field.shown_none (f : Field) : f.shown none = f.attr.default := by
  unfold Field.shown Attribute.settle
  rw [Option.map_none, Option.map_none, Option.filter_none, Option.none_or]

/-- **A cleared field is shown as one without a value**, unless it is the version of the format. -/
theorem Field.shown_eq_default_of_cleared (hf : f ≠ .formatVersion) :
    f.shown (some f.kind.cleared) = f.attr.default := by
  by_cases htext : f.kind = .text
  · rw [Field.shown_cleared htext, Field.default_eq_none_iff.2 htext]
  · cases f with
    | formatVersion => exact absurd rfl hf
    | useTls | parseLogKeyvals | requestMaxBytes => rfl
    | _ => exact absurd rfl htext

/-- The version of the format that is shown by default. -/
theorem Field.shown_formatVersion_iff {v : Option UInt64} :
    Field.formatVersion.shown v = Field.formatVersion.attr.default ↔ v = none ∨ v = some 2 := by
  cases v with
  | none => exact iff_of_true (Field.shown_none _) (.inl rfl)
  | some c =>
    have hshown : Field.formatVersion.shown (some c) = some (.number (.natural c)) := rfl
    have hdefault : Field.formatVersion.attr.default = some (.number (.natural 2)) := rfl
    rw [hshown, hdefault]
    simp

/-! ## What an update sends and keeps -/

/-- What is sent for a field that is null: what clears it, and nothing for the version of the
format. -/
theorem Field.read_null (h : value? d f.name = some .null) :
    f.read .update d = .ok (if f = .formatVersion then none else some f.kind.cleared) := by
  unfold Field.read Field.purpose
  rw [h]
  split
  · exact Kind.read_null_create _ _
  · exact Kind.read_null_update _ _

/-- An update leaves an endpoint with the settings that it sends on top of the stored ones. -/
theorem exists_updated (hcall : updateCall kind target r changed = .ok call)
    (hn : nameOf r = .ok n) (hs : s.failure = none) (hk : s.find? target n = some k) :
    ∃ settings, settingsFor kind .update changed = .ok settings ∧
      (s.answer call).2.find? target n = some ⟨k.name, settings.overlay k.settings⟩ := by
  obtain ⟨m, settings, hm, hsettings, rfl⟩ := updateCall_eq_ok_iff.1 hcall
  obtain rfl := Except.ok.inj (hn.symm.trans hm)
  have hfind := Store.find?_answer (c := .update target n settings) (t := target) (n := n) hs rfl
  rw [hk] at hfind
  exact ⟨settings, hsettings, hfind.trans (if_pos rfl)⟩

/-- **When a field is reset by an update that clears it**: the stored endpoint then shows the field
as any endpoint does that has no value for it, with one exception. The version of the logging format
is reset only if the endpoint had no version or the default one. -/
theorem cleared_reset_iff (hcall : updateCall kind target r changed = .ok call)
    (hn : nameOf r = .ok n) (hs : s.failure = none) (hk : s.find? target n = some k)
    (hf : f.registered kind) (hcleared : value? changed f.name = some .null) :
    ∃ updated, (s.answer call).2.find? target n = some updated ∧
      ∀ e : Endpoint, e.settings f = none →
        ((record kind updated).member? f.name = (record kind e).member? f.name ↔
          (f = .formatVersion → k.settings .formatVersion = none ∨
            k.settings .formatVersion = some 2)) ∧
        (record kind e).member? f.name = f.attr.default ∧
        (f.attr.default = none ↔ f.kind = .text) := by
  obtain ⟨settings, hsettings, hupdated⟩ := exists_updated hcall hn hs hk
  refine ⟨_, hupdated, fun e he => ?_⟩
  have hshown : (record kind e).member? f.name = f.attr.default := by
    rw [member?_record_field e hf, he, Field.shown_none]
  refine ⟨?_, hshown, Field.default_eq_none_iff⟩
  have hsent := (settingsFor_eq_ok_iff.1 hsettings).1 f hf
  rw [Field.read_null hcleared] at hsent
  have hkept : (⟨k.name, settings.overlay k.settings⟩ : Endpoint).settings f =
      (if f = .formatVersion then none else some f.kind.cleared).or (k.settings f) :=
    (Settings.overlay_apply _ _ _).trans (by rw [Except.ok.inj hsent])
  rw [hshown, member?_record_field _ hf, hkept]
  by_cases hversion : f = .formatVersion
  · subst hversion
    rw [if_pos rfl, Option.none_or, Field.shown_formatVersion_iff]
    simp
  · rw [if_neg hversion, Option.some_or]
    exact iff_of_true (Field.shown_eq_default_of_cleared hversion) fun h => absurd h hversion

/-! ## A user and a version of the format -/

/-- A store with one endpoint, which has a user and the first version of the format. -/
def versioned : Store :=
  Store.empty.seed ⟨"svc", 1⟩ ⟨"k", Settings.ofMembers
    [("format_version", .number (.natural 1)), ("user", .string "u")]⟩

/-- A user is not shown any more after an update that clears it. -/
theorem cleared_reset_iff_user : ∃ call updated,
    updateCall .vcl ⟨"svc", 1⟩ (.object [("name", .string "k")]) [("user", .null)] = .ok call ∧
      (versioned.answer call).2.find? ⟨"svc", 1⟩ "k" = some updated ∧
      (record .vcl updated).member? "user" = none := by
  have hcall : updateCall .vcl ⟨"svc", 1⟩ (.object [("name", .string "k")]) [("user", .null)] =
      .ok _ := rfl
  obtain ⟨updated, hupdated, hreset⟩ :=
    cleared_reset_iff (f := .user) (n := "k") (s := versioned) hcall rfl rfl rfl rfl rfl
  obtain ⟨hiff, hdefault, -⟩ := hreset ⟨"k", Settings.empty⟩ rfl
  exact ⟨_, updated, rfl, hupdated, (hiff.2 fun h => absurd h (by decide)).trans hdefault⟩

/-- **A version of the format that stays**: it is cleared, and still shown afterwards, where an
endpoint that never had a version shows the default one. -/
theorem format_version_kept : ∃ call updated,
    updateCall .vcl ⟨"svc", 1⟩ (.object [("name", .string "k")]) [("format_version", .null)] =
        .ok call ∧
      (versioned.answer call).2.find? ⟨"svc", 1⟩ "k" = some updated ∧
      (record .vcl updated).member? "format_version" = some (.number (.natural 1)) ∧
      (record .vcl ⟨"k", Settings.empty⟩).member? "format_version" =
        some (.number (.natural 2)) :=
  ⟨_, _, rfl, rfl, member?_record_field (f := .formatVersion) _ rfl,
    member?_record_field (f := .formatVersion) _ rfl⟩

end Endpoint

end LoggingProvider
