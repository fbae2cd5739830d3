import LoggingProvider.Proofs.Outcome
import LoggingProvider.Proofs.Reconcile.Partition

/-!
# Differences in step

Two pairs of sets are compared side by side, where the records of the one pair are related to those
of the other. If related records have the same key, the two comparisons fail together, and else the
same places of the sets are added and deleted. A record may be modified on one side only, since this
is a matter of the whole record; but where the modified records have the same keys, they are related
as well.

## Main definitions

* `Keying.Ignores`: relations between records that keys do not see
* `Keying.InStep`: differences whose parts are related

## Main results

* `Keying.index_inStep`: the indexes of related sets
* `Keying.diff_inStep`: the differences of related sets
-/

namespace LoggingProvider

namespace Reconcile

namespace Keying

open Outcome

variable {α κ : Type} [DecidableEq κ] {how : Keying α κ} {E : DiffFault → DiffFault → Prop}
  {R : α → α → Prop}

/-- **Keys do not see how related records differ**: they are the same, or faults that correspond. -/
structure Ignores (how : Keying α κ) (E : DiffFault → DiffFault → Prop) (R : α → α → Prop) :
    Prop where
  key : ∀ {a b}, R a b → Outcome.InStep E (· = ·) (how.key a) (how.key b)
  duplicate : ∀ key side, E (.duplicateKey key side) (.duplicateKey key side)

/-- **Differences in step**: what is added and deleted is related, and what is modified too if it
has the same keys. -/
structure InStep (how : Keying α κ) (R : α → α → Prop) (p q : Partition α) : Prop where
  added : List.Forall₂ R p.added q.added
  deleted : List.Forall₂ R p.deleted q.deleted
  modified : p.modified.map how.key = q.modified.map how.key →
    List.Forall₂ R p.modified q.modified

/-! ## Entries -/

/-- Entries with the same key, of related records. -/
def EntryRel (R : α → α → Prop) (e e' : κ × α) : Prop :=
  e.1 = e'.1 ∧ R e.2 e'.2

theorem indexFrom_inStep (hR : how.Ignores E R) {side : Side} {l l' : List α}
    (h : List.Forall₂ R l l') (seen : List κ) :
    Outcome.InStep E (List.Forall₂ (EntryRel R)) (how.indexFrom side seen l)
      (how.indexFrom side seen l') := by
  -- Induction on the records, whatever keys were seen before them.
  induction h generalizing seen with
  | nil => exact .ok .nil
  | @cons a b rest rest' hab _ ih =>
    have hkey := hR.key hab
    unfold indexFrom
    generalize how.key a = ka, how.key b = kb at hkey
    cases hkey with
    | error h => exact .error h
    | @ok k _ hk =>
      subst hk
      simp only
      split
      · exact .error (hR.duplicate _ _)
      · have hmore := ih (k :: seen)
        generalize how.indexFrom side (k :: seen) rest = more,
          how.indexFrom side (k :: seen) rest' = more' at hmore
        cases hmore with
        | error h => exact .error h
        | ok h => exact .ok (.cons ⟨rfl, hab⟩ h)

/-- **The indexes of related sets** have the same keys, of related records. -/
theorem index_inStep (hR : how.Ignores E R) {l l' : List α} (h : List.Forall₂ R l l')
    (side : Side) : Outcome.InStep E (List.Forall₂ (EntryRel R)) (how.index side l)
      (how.index side l') :=
  indexFrom_inStep hR h []

theorem lookup_rel {entries entries' : List (κ × α)}
    (h : List.Forall₂ (EntryRel R) entries entries') (k : κ) :
    Option.Rel R (lookup entries k) (lookup entries' k) := by
  induction h with
  | nil => exact .none
  | @cons e e' _ _ he _ ih =>
    obtain ⟨k₀, a⟩ := e
    obtain ⟨k₀', b⟩ := e'
    obtain ⟨hk, hab⟩ : k₀ = k₀' ∧ R a b := he
    subst hk
    unfold lookup
    split
    · exact .some hab
    · exact ih

theorem isNone_lookup {entries entries' : List (κ × α)}
    (h : List.Forall₂ (EntryRel R) entries entries') (k : κ) :
    (lookup entries k).isNone = (lookup entries' k).isNone := by
  have hrel := lookup_rel h k
  generalize lookup entries k = r, lookup entries' k = r' at hrel
  cases hrel <;> rfl

omit [DecidableEq κ] in
/-- Entries that are chosen alike are of related records. -/
theorem forall₂_filter {entries entries' : List (κ × α)}
    (h : List.Forall₂ (EntryRel R) entries entries') (c : κ → Bool) :
    List.Forall₂ R ((entries.filter fun e => c e.1).map Prod.snd)
      ((entries'.filter fun e => c e.1).map Prod.snd) := by
  have hfilter : List.Forall₂ (EntryRel R) (entries.filter fun e => c e.1)
      (entries'.filter fun e => c e.1) := by
    refine List.rel_filter (fun e e' he => ?_) h
    change c e.1 = true ↔ c e'.1 = true
    rw [he.1]
  rw [List.forall₂_map_left_iff, List.forall₂_map_right_iff]
  exact hfilter.imp fun e e' he => he.2

/-- Where no key occurs twice, a choice of entries is one of keys. -/
theorem filter_eq_filter_mem {entries : List (κ × α)}
    (hnodup : (entries.map Prod.fst).Nodup) (c : κ × α → Bool) :
    entries.filter c = entries.filter fun e => e.1 ∈ (entries.filter c).map Prod.fst := by
  refine List.filter_congr fun e he => ?_
  rw [Bool.eq_iff_iff, decide_eq_true_iff, List.mem_map]
  constructor
  · exact fun hc => ⟨e, List.mem_filter.2 ⟨he, hc⟩, rfl⟩
  · rintro ⟨e', he', hkey⟩
    obtain ⟨hmem, hc⟩ := List.mem_filter.1 he'
    rwa [List.inj_on_of_nodup_map hnodup hmem he hkey] at hc

/-! ## Differences -/

variable [BEq α]

/-- **The differences of related sets** fail together or are in step. -/
theorem diff_inStep (hR : how.Ignores E R) {old old' new new' : List α}
    (hold : List.Forall₂ R old old') (hnew : List.Forall₂ R new new') :
    Outcome.InStep E (how.InStep R) (how.diff old new) (how.diff old' new') := by
  have holds := index_inStep hR hold .old
  have hnews := index_inStep hR hnew .new
  unfold diff
  generalize how.index .old old = x, how.index .old old' = x' at holds
  cases holds with
  | error h => exact .error h
  | @ok olds olds' holds =>
    generalize hy : how.index .new new = y, hy' : how.index .new new' = y' at hnews
    cases hnews with
    | error h => exact .error h
    | @ok news news' hnews =>
      refine .ok ⟨?_, ?_, fun hkeys => ?_⟩
      · simp only [partition, isNone_lookup holds]
        exact forall₂_filter hnews fun k => (lookup olds' k).isNone
      · simp only [partition, isNone_lookup hnews]
        exact forall₂_filter holds fun k => (lookup news' k).isNone
      · obtain ⟨-, hkey, hnodup⟩ := (how.index_eq_ok_iff _ _ _).1 hy
        obtain ⟨-, hkey', hnodup'⟩ := (how.index_eq_ok_iff _ _ _).1 hy'
        simp only [partition] at hkeys ⊢
        rw [map_key_entries fun e he => hkey e (List.mem_filter.1 he).1,
          map_key_entries fun e he => hkey' e (List.mem_filter.1 he).1,
          List.map_inj_right fun _ _ => Except.ok.inj] at hkeys
        rw [filter_eq_filter_mem hnodup, filter_eq_filter_mem hnodup', hkeys]
        exact forall₂_filter hnews fun k => decide (k ∈ _)

end Keying

end Reconcile

end LoggingProvider
