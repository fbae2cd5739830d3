/-!
# Maps in name order

A finite map from names is kept as the list of its entries in strictly increasing name order, so
that equal maps are equal lists and a walk over a map visits the names in order. Names are
compared by code point, which is the order of their UTF-8 bytes.

## Main definitions

* `Dict α`: maps from names to `α`
* `Dict.value?`, `Dict.put`, `Dict.remove`: look-up, replacement and removal
* `Dict.ofEntries`: the map of a list of entries, where a later entry replaces an earlier one
* `Dict.Ordered`: the names are strictly increasing

## Main results

* `Dict.value?_put`: what a map holds after `put`
* `Dict.ordered_put`, `Dict.ordered_remove`, `Dict.ordered_ofEntries`: the order is kept
-/

namespace LoggingProvider

/-- **A map from names**: its entries, in name order. -/
abbrev Dict (α : Type) := List (String × α)

namespace Dict

variable {α β : Type}

/-- The value stored under a name. -/
def value? : Dict α → String → Option α
  | [], _ => none
  | (n, v) :: rest, name => if n = name then some v else value? rest name

/-- Whether a name is present. -/
def hasName (d : Dict α) (name : String) : Bool :=
  (value? d name).isSome

/-- The map with a value stored under a name, in place of any other. -/
def put (name : String) (v : α) : Dict α → Dict α
  | [] => [(name, v)]
  | (n, w) :: rest =>
    if name < n then (name, v) :: (n, w) :: rest
    else if name = n then (name, v) :: rest
    else (n, w) :: put name v rest

/-- The map without a name. -/
def remove (name : String) (d : Dict α) : Dict α :=
  d.filter fun e => e.1 ≠ name

/-- The names present, in order. -/
def names (d : Dict α) : List String :=
  d.map Prod.fst

/-- The map of a list of entries; of two entries with one name the later counts. -/
def ofEntries (entries : List (String × α)) : Dict α :=
  entries.foldl (fun d e => put e.1 e.2 d) []

/-- The map with every value replaced by its image. -/
def mapValues (f : α → β) (d : Dict α) : Dict β :=
  d.map fun e => (e.1, f e.2)

/-- The names are strictly increasing. -/
def Ordered (d : Dict α) : Prop :=
  d.Pairwise fun a b => a.1 < b.1

/-! ## Look-up -/

@[simp] theorem value?_nil (name : String) : value? ([] : Dict α) name = none := rfl

theorem value?_cons (n : String) (v : α) (rest : Dict α) (name : String) :
    value? ((n, v) :: rest) name = if n = name then some v else value? rest name := rfl

/-- After `put` a name has the new value, and every other name the value it had. -/
theorem value?_put (d : Dict α) (name : String) (v : α) (other : String) :
    value? (put name v d) other = if name = other then some v else value? d other := by
  induction d with
  | nil => simp [put, value?]
  | cons e rest ih =>
    obtain ⟨n, w⟩ := e
    unfold put
    split
    · simp [value?]
    · split
      · next h => subst h; by_cases h : name = other <;> simp [value?, h]
      · next h =>
        by_cases hn : n = other
        · subst hn; simp [value?, h]
        · simp [value?, hn, ih]

/-- After `remove` a name is absent, and every other name has the value it had. -/
theorem value?_remove (d : Dict α) (name other : String) :
    value? (remove name d) other = if name = other then none else value? d other := by
  induction d with
  | nil => simp [remove]
  | cons e rest ih =>
    obtain ⟨n, w⟩ := e
    by_cases hn : n = name
    · subst hn
      have : remove n ((n, w) :: rest) = remove n rest := by simp [remove]
      rw [this, ih]
      by_cases h : n = other <;> simp [value?, h]
    · have : remove name ((n, w) :: rest) = (n, w) :: remove name rest := by
        simp [remove, hn]
      rw [this, value?_cons, value?_cons, ih]
      by_cases h : n = other
      · subst h; simp [Ne.symm hn]
      · simp [h]

/-! ## Order -/

theorem ordered_nil : Ordered ([] : Dict α) := List.Pairwise.nil

/-- An entry of a map after `put` is the new one or an old one. -/
theorem mem_put {name : String} {v : α} {e : String × α} {d : Dict α} (h : e ∈ put name v d) :
    e = (name, v) ∨ e ∈ d := by
  induction d with
  | nil => simpa [put] using h
  | cons f rest ih =>
    obtain ⟨n, w⟩ := f
    unfold put at h
    split at h
    · simpa using h
    · split at h
      · rcases List.mem_cons.1 h with h | h
        · exact .inl h
        · exact .inr (List.mem_cons_of_mem _ h)
      · rcases List.mem_cons.1 h with h | h
        · exact .inr (h ▸ List.mem_cons_self)
        · exact (ih h).imp_right (List.mem_cons_of_mem _)

theorem ordered_put {d : Dict α} (h : Ordered d) (name : String) (v : α) :
    Ordered (put name v d) := by
  induction d with
  | nil => simp [put, Ordered]
  | cons f rest ih =>
    obtain ⟨n, w⟩ := f
    have ⟨hn, hrest⟩ := List.pairwise_cons.1 h
    unfold put
    split
    · next hlt =>
      refine List.pairwise_cons.2 ⟨fun e he => ?_, h⟩
      rcases List.mem_cons.1 he with rfl | he
      · exact hlt
      · exact String.lt_trans hlt (hn e he)
    · next hlt =>
      split
      · next heq => subst heq; exact List.pairwise_cons.2 ⟨hn, hrest⟩
      · next hne =>
        refine List.pairwise_cons.2 ⟨fun e he => ?_, ih hrest⟩
        rcases mem_put he with rfl | he
        · rcases Decidable.em (n < name) with h | h
          · exact h
          · exact absurd (String.le_antisymm (String.not_lt.1 h) (String.not_lt.1 hlt)) hne
        · exact hn e he

theorem ordered_remove {d : Dict α} (h : Ordered d) (name : String) : Ordered (remove name d) :=
  List.Pairwise.sublist List.filter_sublist h

theorem ordered_ofEntries (entries : List (String × α)) : Ordered (ofEntries entries) := by
  suffices ∀ d : Dict α, Ordered d → Ordered (entries.foldl (fun d e => put e.1 e.2 d) d) from
    this [] ordered_nil
  induction entries with
  | nil => exact fun _ h => h
  | cons e rest ih => exact fun d h => ih _ (ordered_put h e.1 e.2)

end Dict

end LoggingProvider
