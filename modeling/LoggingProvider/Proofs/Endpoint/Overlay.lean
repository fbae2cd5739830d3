import LoggingProvider.Proofs.Endpoint.Coverage
import LoggingProvider.Proofs.Remote.Store

/-!
# Partial updates

A partial update is written three times: as the list of the fields that it sets, which is logged, as
the form that is sent, and as what the store makes of an endpoint. All three have the same fields. A
form names exactly those that are set, each once and in their order, and these alone change in the
endpoint. So an update that is made again changes nothing, and two updates after each other are one
update, with the fields of the second on top of those of the first.

## Main definitions

* `Endpoint.updated`: an endpoint after a partial update

## Main results

* `Endpoint.Settings.names_formMembers`, `Endpoint.Settings.names_formEntries`: a form names the
  fields that are set
* `Endpoint.updated_updated`: two partial updates of an endpoint are one
* `Store.serve_update_update`: two partial updates of a store are one
* `Endpoint.partial_update_agrees`: the list, the form and the endpoint have the same fields
-/

namespace LoggingProvider

namespace Endpoint

/-- **An endpoint after a partial update**: the fields that are set have their new values. -/
def updated (k : Endpoint) (f : Settings) : Endpoint := ⟨k.name, f.overlay k.settings⟩

variable {f : Settings} {k : Endpoint} {x : Field}

/-! ## Fields that are set -/

namespace Settings

/-- **A form names the fields that are set**, in their order. -/
theorem names_formMembers (f : Settings) :
    Dict.names f.formMembers = f.setFields.map Field.name := by
  have hnames := names_filterMap_fields Field.all fun x => (f x).map x.kind.formJson
  simp only [Option.map_map, Option.isSome_map] at hnames
  exact hnames

theorem names_formEntries (f : Settings) :
    f.formEntries.map Prod.fst = f.setFields.map Field.name := by
  rw [← names_formMembers, ← map_formText_formMembers, List.map_map]
  rfl

theorem nodup_names_setFields (f : Settings) : (f.setFields.map Field.name).Nodup :=
  Field.nodup_map_name.sublist (List.filter_sublist.map Field.name)

end Settings

/-! ## Updates of an endpoint -/

@[simp] theorem settings_updated (k : Endpoint) (f : Settings) :
    (k.updated f).settings = f.overlay k.settings := rfl

theorem settings_updated_of_mem (h : x ∈ f.setFields) : (k.updated f).settings x = f x := by
  obtain ⟨v, hv⟩ := Option.isSome_iff_exists.1 (Settings.mem_setFields.1 h)
  rw [settings_updated, Settings.overlay_apply, hv, Option.some_or]

theorem settings_updated_of_not_mem (h : x ∉ f.setFields) :
    (k.updated f).settings x = k.settings x := by
  rw [Settings.mem_setFields, Option.not_isSome_iff_eq_none] at h
  rw [settings_updated, Settings.overlay_apply, h, Option.none_or]

/-- **Two updates of an endpoint are one**, with the second on top of the first. -/
theorem updated_updated (k : Endpoint) (f g : Settings) :
    (k.updated f).updated g = k.updated (g.overlay f) := by
  unfold updated
  rw [Settings.overlay_assoc]

end Endpoint

/-! ## Updates of a store -/

namespace Store

open Dict

variable {t : Target} {n : String} {k : Endpoint}

theorem serve_update_of_none {all : Target → Dict Endpoint} (h : value? (all t) n = none)
    (f : Endpoint.Settings) : serve all (.update t n f) = (.error (absent n), all) := by
  simp only [serve, h]

/-- **An update of an endpoint that is there** is the answer, and it is kept in its place. -/
theorem serve_update {all : Target → Dict Endpoint} (h : value? (all t) n = some k)
    (f : Endpoint.Settings) : serve all (.update t n f) =
      (.ok (k.updated f), replace all t (put n (k.updated f) (all t))) := by
  simp only [serve, h]
  rfl

/-- **Two updates of a store are one**, with the second on top of the first. -/
theorem serve_update_update (all : Target → Dict Endpoint) (t : Target) (n : String)
    (f g : Endpoint.Settings) :
    serve (serve all (.update t n f)).2 (.update t n g) =
      serve all (.update t n (g.overlay f)) := by
  cases h : value? (all t) n with
  | none =>
    have hfirst := serve_update_of_none h f
    rw [hfirst, serve_update_of_none h, serve_update_of_none h]
  | some k =>
    have hfirst := serve_update h f
    have hfound : value? (replace all t (put n (k.updated f) (all t)) t) n =
        some (k.updated f) := by
      rw [replace_target, value?_put, if_pos rfl]
    rw [hfirst, serve_update hfound, serve_update h, Endpoint.updated_updated, replace_target,
      put_put, replace_replace]

end Store

namespace Endpoint

/-- **The list, the form and the endpoint have the same fields.** The names in a form are those of
the fields that are set, each once and in the order of the fields. An update gives each of these
fields its value, and it leaves the others and the name as they are. Made twice it is made once, and
two updates are one with the fields of the second on top. A store does to the endpoint what the
update does. -/
theorem partial_update_agrees (f : Settings) (k : Endpoint) :
    (Dict.names f.formMembers = f.setFields.map Field.name ∧
      f.formEntries.map Prod.fst = f.setFields.map Field.name ∧
      (f.setFields.map Field.name).Nodup ∧ f.setFields.Sublist Field.all ∧
      ∀ x, x ∈ f.setFields ↔ (f x).isSome) ∧
    ((k.updated f).name = k.name ∧ (∀ x ∈ f.setFields, (k.updated f).settings x = f x) ∧
      ∀ x ∉ f.setFields, (k.updated f).settings x = k.settings x) ∧
    ((k.updated f).updated f = k.updated f ∧
      ∀ g, (k.updated f).updated g = k.updated (g.overlay f)) ∧
    ∀ (all : Target → Dict Endpoint) (t : Target) (n : String),
      (Dict.value? (all t) n = some k → (Store.serve all (.update t n f)).1 = .ok (k.updated f) ∧
        Dict.value? ((Store.serve all (.update t n f)).2 t) n = some (k.updated f)) ∧
      Store.serve (Store.serve all (.update t n f)).2 (.update t n f) =
        Store.serve all (.update t n f) ∧
      ∀ g, Store.serve (Store.serve all (.update t n f)).2 (.update t n g) =
        Store.serve all (.update t n (g.overlay f)) := by
  refine ⟨⟨f.names_formMembers, f.names_formEntries, f.nodup_names_setFields,
    List.filter_sublist, fun x => Settings.mem_setFields⟩, ⟨rfl, ?_, ?_⟩, ⟨?_, ?_⟩, ?_⟩
  · exact fun x hx => settings_updated_of_mem hx
  · exact fun x hx => settings_updated_of_not_mem hx
  · rw [updated_updated, Settings.overlay_self]
  · exact fun g => updated_updated k f g
  · intro all t n
    refine ⟨fun h => ?_, ?_, fun g => Store.serve_update_update all t n f g⟩
    · rw [Store.serve_update h]
      refine ⟨rfl, ?_⟩
      simp only [Store.replace_target, Dict.value?_put, if_true]
    · rw [Store.serve_update_update, Settings.overlay_self]

end Endpoint

end LoggingProvider
