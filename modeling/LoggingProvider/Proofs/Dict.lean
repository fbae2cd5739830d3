import LoggingProvider.Dict
import Mathlib.Data.List.Nodup

/-!
# Look-up in maps

A map in name order is determined by its look-ups, and an entry belongs to it exactly when looking
up its name finds its value. What filtering a map, storing several entries and building a map from
entries do is therefore stated through look-ups.

## Main results

* `Dict.Ordered.ext`: two maps with the same look-ups are equal
* `Dict.Ordered.mem_iff`: an entry of a map is what looking up its name finds
* `Dict.value?_filter`, `Dict.value?_foldl_put`, `Dict.value?_ofEntries`: look-ups after filtering,
  storing and building
* `Dict.ofEntries_eq_self`: entries in name order are a map as they are
-/

namespace LoggingProvider

namespace Dict

variable {α : Type}

theorem mem_of_value? {d : Dict α} {name : String} {v : α} (h : value? d name = some v) :
    (name, v) ∈ d := by
  induction d with
  | nil => cases h
  | cons e rest ih =>
    obtain ⟨n, w⟩ := e
    rw [value?_cons] at h
    split at h
    · next hn =>
      subst hn
      obtain rfl := Option.some.inj h
      exact List.mem_cons_self
    · exact List.mem_cons_of_mem _ (ih h)

theorem value?_eq_none_iff {d : Dict α} {name : String} :
    value? d name = none ↔ ∀ e ∈ d, e.1 ≠ name := by
  induction d with
  | nil => simp
  | cons e rest ih =>
    obtain ⟨n, w⟩ := e
    rw [value?_cons, List.forall_mem_cons]
    by_cases hn : n = name
    · simp [hn]
    · rw [if_neg hn, ih]
      exact (and_iff_right hn).symm

theorem hasName_iff {d : Dict α} {name : String} :
    hasName d name ↔ ∃ v, value? d name = some v :=
  Option.isSome_iff_exists

/-- A value that is stored replaces the one that is stored before it. -/
@[simp] theorem put_put (d : Dict α) (name : String) (v w : α) :
    put name w (put name v d) = put name w d := by
  induction d with
  | nil => simp [put]
  | cons e rest ih =>
    obtain ⟨n, u⟩ := e
    by_cases hlt : name < n
    · simp [put, hlt]
    · by_cases heq : name = n
      · simp [put, heq]
      · simp [put, hlt, heq, ih]

/-- The first entry with a name has the value that looking the name up finds. -/
theorem find?_name (d : Dict α) (name : String) :
    d.find? (fun e => e.1 = name) = (value? d name).map fun v => (name, v) := by
  induction d with
  | nil => rfl
  | cons e rest ih =>
    obtain ⟨n, w⟩ := e
    rw [List.find?_cons, value?_cons, ih]
    by_cases hn : n = name
    · simp [hn]
    · simp [hn]

/-- Entries are in name order if their names are. -/
theorem ordered_of_names {d : Dict α} (l : List String) (h : names d = l)
    (hl : l.Pairwise (· < ·)) : Ordered d := by
  rw [← h] at hl
  exact List.pairwise_map.1 hl

/-- Of entries with different names, each is found under its name. -/
theorem value?_of_mem {d : Dict α} (hd : (names d).Nodup) {name : String} {v : α}
    (h : (name, v) ∈ d) : value? d name = some v := by
  induction d with
  | nil => cases h
  | cons e rest ih =>
    obtain ⟨n, w⟩ := e
    obtain ⟨hn, hrest⟩ := List.nodup_cons.1 hd
    rw [value?_cons]
    rcases List.mem_cons.1 h with he | hmem
    · obtain ⟨rfl, rfl⟩ := Prod.mk.inj he
      exact if_pos rfl
    · have hne : n ≠ name := by
        rintro rfl
        exact hn (List.mem_map.2 ⟨_, hmem, rfl⟩)
      rw [if_neg hne]
      exact ih hrest hmem

namespace Ordered

variable {d e : Dict α}

theorem nodup_names (hd : Ordered d) : (names d).Nodup :=
  List.Pairwise.map Prod.fst (fun _ _ h => String.ne_of_lt h) hd

theorem mem_iff (hd : Ordered d) {name : String} {v : α} :
    (name, v) ∈ d ↔ value? d name = some v :=
  ⟨value?_of_mem hd.nodup_names, mem_of_value?⟩

theorem nodup (hd : Ordered d) : d.Nodup :=
  List.Nodup.of_map Prod.fst hd.nodup_names

/-- **Two maps with the same look-ups are equal.** -/
theorem ext (hd : Ordered d) (he : Ordered e) (h : ∀ name, value? d name = value? e name) :
    d = e := by
  have hperm : d.Perm e := by
    refine (List.perm_ext_iff_of_nodup hd.nodup he.nodup).2 ?_
    rintro ⟨name, v⟩
    rw [hd.mem_iff, he.mem_iff, h]
  refine List.Perm.eq_of_pairwise (fun a b _ _ hab hba => ?_) hd he hperm
  exact absurd hba (String.lt_asymm hab)

theorem filter (hd : Ordered d) (p : String × α → Bool) : Ordered (List.filter p d) :=
  List.Pairwise.sublist List.filter_sublist hd

end Ordered

/-! ## Filtered maps -/

/-- A filtered map finds what the map finds, if it passes the filter. -/
theorem value?_filter {d : Dict α} (hd : Ordered d) (p : String × α → Bool) (name : String) :
    value? (d.filter p) name = (value? d name).filter fun v => p (name, v) := by
  apply Option.ext
  intro v
  rw [← (hd.filter p).mem_iff, List.mem_filter, hd.mem_iff, Option.filter_eq_some_iff]

/-- A map whose values are told by the names. -/
theorem value?_map_name (d : Dict α) (value : String → α) (n : String) :
    value? (d.map fun e => (e.1, value e.1)) n = (value? d n).map fun _ => value n := by
  induction d with
  | nil => rfl
  | cons e rest ih =>
    rw [List.map_cons, value?_cons, value?_cons, ih]
    by_cases hn : e.1 = n
    · rw [if_pos hn, if_pos hn, hn]
      rfl
    · rw [if_neg hn, if_neg hn]

/-! ## Several entries stored -/

/-- Storing entries with different names: each name of theirs has its value, and every other name
the value it had. -/
theorem value?_foldl_put {γ : Type} (name : γ → String) (value : γ → α) (l : List γ) (d : Dict α)
    (hl : (l.map name).Nodup) (other : String) :
    value? (l.foldl (fun d x => put (name x) (value x) d) d) other =
      ((l.find? fun x => name x = other).map value).or (value? d other) := by
  induction l generalizing d with
  | nil => simp
  | cons x rest ih =>
    obtain ⟨hx, hrest⟩ := List.nodup_cons.1 hl
    rw [List.foldl_cons, ih _ hrest, value?_put, List.find?_cons]
    by_cases h : name x = other
    · -- No later entry has the name, so the value stored now is the one that stays.
      have hnone : rest.find? (fun y => name y = other) = none := by
        refine List.find?_eq_none.2 fun y hy hyo => hx ?_
        rw [h, ← of_decide_eq_true hyo]
        exact List.mem_map_of_mem hy
      simp [h, hnone]
    · simp [h]

theorem ordered_foldl_put {γ : Type} (name : γ → String) (value : γ → α) (l : List γ)
    {d : Dict α} (hd : Ordered d) :
    Ordered (l.foldl (fun d x => put (name x) (value x) d) d) := by
  induction l generalizing d with
  | nil => exact hd
  | cons x rest ih => exact ih (ordered_put hd _ _)

/-- A map built from entries with different names finds each of them. -/
theorem value?_ofEntries {entries : List (String × α)} (h : (names entries).Nodup)
    (name : String) : value? (ofEntries entries) name = value? entries name := by
  unfold ofEntries
  rw [value?_foldl_put Prod.fst Prod.snd entries [] h name, find?_name, value?_nil,
    Option.or_none, Option.map_map]
  exact Option.map_id'

/-- Entries in name order are a map as they are. -/
theorem ofEntries_eq_self {d : Dict α} (hd : Ordered d) : ofEntries d = d :=
  (ordered_ofEntries d).ext hd (value?_ofEntries hd.nodup_names)

end Dict

end LoggingProvider
