/-!
# Differences of keyed sets

Two sets of records, an old and a new one, are compared by a key that each record has. A record of
the new set is added, modified or unchanged; a record of the old set without a counterpart is
deleted. A key may occur only once in a set.

## Main definitions

* `DiffFault`: why two sets cannot be compared
* `Keying`: the key of a record, and how a key is shown
* `Keying.index`: the records of a set with their keys
* `Partition`: the records of two sets by what happened to them
* `Keying.diff`: the difference of two sets

## Main results

* `Keying.index_eq_ok_iff`: a set has an index exactly when every record has a key and no key
  occurs twice
-/

namespace LoggingProvider

namespace Reconcile

/-- One of the two sets that are compared. -/
inductive Side where
  | old
  | new
deriving DecidableEq

/-- The name of a side. -/
def Side.name : Side → String
  | .old => "old"
  | .new => "new"

/-- **Why two sets cannot be compared.** -/
inductive DiffFault where
  /-- A record has no key. -/
  | noKey (reason : String)
  /-- Two records of one set have the same key. -/
  | duplicateKey (key : String) (side : Side)
  /-- A modified record has no counterpart in the old set. -/
  | notInOld (key : String)
deriving DecidableEq

/-- The wording of a fault. -/
def DiffFault.message : DiffFault → String
  | .noKey reason => "Failed to extract key: " ++ reason
  | .duplicateKey key side => "Duplicate key " ++ key ++ " in " ++ side.name ++ " set"
  | .notInOld key => "No record with key " ++ key ++ " in old set"

/-- **How records are identified**: the key of a record, and how a key is shown. -/
structure Keying (α κ : Type) where
  /-- The key of a record. -/
  key : α → Except DiffFault κ
  /-- How a key is shown. -/
  label : κ → String

/-- **The records of two sets by what happened to them.** -/
structure Partition (α : Type) where
  /-- The records of the new set whose key the old set does not have. -/
  added : List α
  /-- The records of the old set whose key the new set does not have. -/
  deleted : List α
  /-- The records of the new set that differ from the old record with their key. -/
  modified : List α
  /-- The records of the new set that equal the old record with their key. -/
  unchanged : List α

/-- Whether the two sets are equivalent. -/
def Partition.isEmpty {α : Type} (p : Partition α) : Bool :=
  p.added.isEmpty && p.deleted.isEmpty && p.modified.isEmpty

namespace Keying

variable {α κ : Type} [DecidableEq κ]

/-- The records of a set with their keys, when some keys were seen before. -/
def indexFrom (how : Keying α κ) (side : Side) (seen : List κ) :
    List α → Except DiffFault (List (κ × α))
  | [] => .ok []
  | r :: rest =>
    match how.key r with
    | .error fault => .error fault
    | .ok k =>
      if k ∈ seen then .error (.duplicateKey (how.label k) side)
      else
        match indexFrom how side (k :: seen) rest with
        | .error fault => .error fault
        | .ok more => .ok ((k, r) :: more)

/-- **The records of a set with their keys.** -/
def index (how : Keying α κ) (side : Side) (records : List α) : Except DiffFault (List (κ × α)) :=
  how.indexFrom side [] records

/-- The record with a key. -/
def lookup : List (κ × α) → κ → Option α
  | [], _ => none
  | (k, r) :: rest, key => if k = key then some r else lookup rest key

variable [BEq α]

/-- The parts of a new set against an old one, both with their keys. -/
def partition (old new : List (κ × α)) : Partition α where
  added := (new.filter fun e => (lookup old e.1).isNone).map Prod.snd
  deleted := (old.filter fun e => (lookup new e.1).isNone).map Prod.snd
  modified := (new.filter fun e => (lookup old e.1).any fun r => !(r == e.2)).map Prod.snd
  unchanged := (new.filter fun e => (lookup old e.1).any fun r => r == e.2).map Prod.snd

/-- **The difference of two sets**: the old set is looked at before the new one. -/
def diff (how : Keying α κ) (old new : List α) : Except DiffFault (Partition α) :=
  match how.index .old old with
  | .error fault => .error fault
  | .ok olds =>
    match how.index .new new with
    | .error fault => .error fault
    | .ok news => .ok (partition olds news)

omit [BEq α] in
theorem indexFrom_eq_ok_iff (how : Keying α κ) (side : Side) (seen : List κ) (records : List α)
    (entries : List (κ × α)) :
    how.indexFrom side seen records = .ok entries ↔
      entries.map Prod.snd = records ∧ (∀ e ∈ entries, how.key e.2 = .ok e.1) ∧
        (entries.map Prod.fst).Nodup ∧ ∀ e ∈ entries, e.1 ∉ seen := by
  induction records generalizing seen entries with
  | nil =>
    constructor
    · intro h
      obtain rfl : [] = entries := by simpa [indexFrom] using h
      simp
    · rintro ⟨h, -⟩
      obtain rfl : entries = [] := by simpa using h
      rfl
  | cons r rest ih =>
    unfold indexFrom
    constructor
    · intro h
      split at h
      · cases h
      · next k hk =>
        split at h
        · cases h
        · next hseen =>
          split at h
          · cases h
          · next more hmore =>
            obtain rfl : (k, r) :: more = entries := by simpa using h
            obtain ⟨hsnd, hkey, hnodup, hfresh⟩ := (ih _ _).1 hmore
            have hk' : k ∉ more.map Prod.fst := by
              intro hmem
              obtain ⟨e, he, rfl⟩ := List.mem_map.1 hmem
              exact hfresh e he List.mem_cons_self
            refine ⟨by simp [hsnd], ?_, by simp [hnodup, hk'], ?_⟩
            · intro e he
              rcases List.mem_cons.1 he with rfl | he
              · exact hk
              · exact hkey e he
            · intro e he
              rcases List.mem_cons.1 he with rfl | he
              · exact hseen
              · exact fun hmem => hfresh e he (List.mem_cons_of_mem _ hmem)
    · rintro ⟨hsnd, hkey, hnodup, hfresh⟩
      cases entries with
      | nil => simp at hsnd
      | cons e more =>
        obtain ⟨k, r'⟩ := e
        obtain ⟨hr, hmap⟩ : r' = r ∧ more.map Prod.snd = rest := by simpa using hsnd
        subst hr
        have hk : how.key r' = .ok k := hkey _ List.mem_cons_self
        have hseen : k ∉ seen := hfresh _ List.mem_cons_self
        rw [List.map_cons, List.nodup_cons] at hnodup
        have hmore : how.indexFrom side (k :: seen) rest = .ok more := by
          refine (ih _ _).2 ⟨hmap, fun e he => hkey e (List.mem_cons_of_mem _ he), hnodup.2, ?_⟩
          intro e he hmem
          rcases List.mem_cons.1 hmem with heq | hmem
          · exact hnodup.1 (heq ▸ List.mem_map.2 ⟨e, he, rfl⟩)
          · exact hfresh e (List.mem_cons_of_mem _ he) hmem
        simp [hk, hseen, hmore]

omit [BEq α] in
/-- A set has an index exactly when every record has a key and no key occurs twice. -/
theorem index_eq_ok_iff (how : Keying α κ) (side : Side) (records : List α)
    (entries : List (κ × α)) :
    how.index side records = .ok entries ↔
      entries.map Prod.snd = records ∧ (∀ e ∈ entries, how.key e.2 = .ok e.1) ∧
        (entries.map Prod.fst).Nodup := by
  simp [index, indexFrom_eq_ok_iff]

end Keying

end Reconcile

end LoggingProvider
