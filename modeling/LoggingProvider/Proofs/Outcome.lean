import Mathlib.Data.List.Forall2
import Mathlib.Data.List.Perm.Basic

/-!
# Outcomes that may be faults

When a computation built from smaller ones succeeds: a sequence when both its parts do, a walk over
a list when each of its steps does. Else it fails as one of them does.

## Main definitions

* `Outcome.InStep`: two computations that succeed together or fail together

## Main results

* `Outcome.bind_eq_ok_iff`: a sequence of two computations
* `Outcome.mapM_eq_ok_iff`: a computation on each element of a list
* `Outcome.forM_eq_ok_iff`: a check of each element of a list
-/

namespace LoggingProvider

namespace Outcome

variable {ε ε' α β : Type}

theorem bind_eq_ok_iff {r : Except ε α} {f : α → Except ε β} {b : β} :
    (r >>= f) = .ok b ↔ ∃ a, r = .ok a ∧ f a = .ok b := by
  cases r with
  | error e => simp [bind, Except.bind]
  | ok a => simp [bind, Except.bind]

theorem bind_eq_error_iff {r : Except ε α} {f : α → Except ε β} {e : ε} :
    (r >>= f) = .error e ↔ r = .error e ∨ ∃ a, r = .ok a ∧ f a = .error e := by
  cases r with
  | error e' => simp [bind, Except.bind]
  | ok a => simp [bind, Except.bind]

theorem pure_eq_ok_iff {a b : α} : (pure a : Except ε α) = .ok b ↔ b = a :=
  ⟨fun h => (Except.ok.inj h).symm, fun h => h ▸ rfl⟩

theorem mapError_eq_ok_iff {r : Except ε α} {f : ε → ε'} {a : α} :
    r.mapError f = .ok a ↔ r = .ok a := by
  cases r <;> simp [Except.mapError]

theorem map_eq_ok_iff {r : Except ε α} {f : α → β} {b : β} :
    r.map f = .ok b ↔ ∃ a, r = .ok a ∧ f a = b := by
  cases r <;> simp [Except.map]

/-- **A computation on each element of a list** succeeds when it does on each of them. -/
theorem mapM_eq_ok_iff {f : α → Except ε β} {l : List α} {m : List β} :
    l.mapM f = .ok m ↔ List.Forall₂ (fun a b => f a = .ok b) l m := by
  induction l generalizing m with
  | nil => rw [List.mapM_nil, List.forall₂_nil_left_iff, pure_eq_ok_iff]
  | cons a rest ih =>
    rw [List.mapM_cons, bind_eq_ok_iff, List.forall₂_cons_left_iff]
    simp only [bind_eq_ok_iff, ih, pure_eq_ok_iff]
    constructor
    · rintro ⟨b, hb, bs, hbs, rfl⟩
      exact ⟨b, bs, hb, hbs, rfl⟩
    · rintro ⟨b, bs, hb, hbs, rfl⟩
      exact ⟨b, hb, bs, hbs, rfl⟩

theorem mapM_eq_ok_iff_map {f : α → Except ε β} {l : List α} {m : List β} :
    l.mapM f = .ok m ↔ l.map f = m.map .ok := by
  rw [mapM_eq_ok_iff, ← List.forall₂_eq_eq_eq, List.forall₂_map_left_iff,
    List.forall₂_map_right_iff]

/-- A computation on each element succeeds if it does on each of them. -/
theorem exists_mapM {f : α → Except ε β} {l : List α} (h : ∀ a ∈ l, ∃ b, f a = .ok b) :
    ∃ m, l.mapM f = .ok m := by
  induction l with
  | nil => exact ⟨[], rfl⟩
  | cons a rest ih =>
    obtain ⟨ha, hrest⟩ := List.forall_mem_cons.1 h
    obtain ⟨b, hb⟩ := ha
    obtain ⟨bs, hbs⟩ := ih hrest
    exact ⟨b :: bs, mapM_eq_ok_iff.2 (.cons hb (mapM_eq_ok_iff.1 hbs))⟩

/-- The results of a computation on each element. -/
theorem mem_of_mapM {f : α → Except ε β} {l : List α} {m : List β} (h : l.mapM f = .ok m) {b : β} :
    b ∈ m ↔ ∃ a ∈ l, f a = .ok b := by
  have hall := mapM_eq_ok_iff.1 h
  clear h
  induction hall with
  | nil => simp
  | cons hb _ ih =>
    rw [List.mem_cons, List.exists_mem_cons_iff, hb, Except.ok.injEq]
    exact or_congr eq_comm ih

/-- What each element is mapped to corresponds to the result of a computation on it. -/
theorem forall₂_map_of_mapM {γ : Type} {f : α → Except ε β} {g : α → γ} {l : List α} {m : List β}
    {R : γ → β → Prop} (hf : l.mapM f = .ok m)
    (hR : ∀ a ∈ l, ∀ b, f a = .ok b → R (g a) b) : List.Forall₂ R (l.map g) m := by
  rw [List.forall₂_map_left_iff]
  have hall := List.forall₂_and_left _ _ |>.2 ⟨fun a ha => hR a ha, mapM_eq_ok_iff.1 hf⟩
  exact hall.imp fun a b hab => hab.1 b hab.2

/-- The results of two computations on each element correspond. -/
theorem forall₂_of_mapM {γ : Type} {f : α → Except ε β} {g : α → Except ε' γ} {l : List α}
    {m : List β} {k : List γ} {R : β → γ → Prop} (hf : l.mapM f = .ok m) (hg : l.mapM g = .ok k)
    (hR : ∀ a ∈ l, ∀ b c, f a = .ok b → g a = .ok c → R b c) : List.Forall₂ R m k := by
  have hall := mapM_eq_ok_iff.1 hf
  have hall' := mapM_eq_ok_iff.1 hg
  clear hf hg
  induction hall generalizing k with
  | nil =>
    rw [List.forall₂_nil_left_iff] at hall'
    rw [hall']
    exact .nil
  | cons hb _ ih =>
    obtain ⟨c, rest, hc, hrest, rfl⟩ := List.forall₂_cons_left_iff.1 hall'
    refine .cons (hR _ List.mem_cons_self _ _ hb hc) (ih ?_ hrest)
    exact fun a ha => hR a (List.mem_cons_of_mem _ ha)

theorem exists_of_mapM {f : α → Except ε β} {l : List α} {m : List β} (h : l.mapM f = .ok m)
    {a : α} (ha : a ∈ l) : ∃ b, f a = .ok b := by
  have hall := mapM_eq_ok_iff.1 h
  clear h
  induction hall with
  | nil => cases ha
  | @cons a' b _ _ hb _ ih =>
    rcases List.mem_cons.1 ha with rfl | ha
    · exact ⟨b, hb⟩
    · exact ih ha

/-- A computation on each element of a list in another order. -/
theorem exists_mapM_of_perm {f : α → Except ε β} {l l' : List α} {m : List β} (hp : l.Perm l')
    (h : l.mapM f = .ok m) : ∃ m', l'.mapM f = .ok m' ∧ m.Perm m' := by
  obtain ⟨m', hall, hm⟩ := List.perm_comp_forall₂ hp.symm (mapM_eq_ok_iff.1 h)
  exact ⟨m', mapM_eq_ok_iff.2 hall, hm.symm⟩

/-- **A check of each element of a list** succeeds when it does on each of them. -/
theorem forM_eq_ok_iff {f : α → Except ε Unit} {l : List α} :
    l.forM f = .ok () ↔ ∀ a ∈ l, f a = .ok () := by
  induction l with
  | nil => exact ⟨fun _ a ha => absurd ha List.not_mem_nil, fun _ => rfl⟩
  | cons a rest ih =>
    change (f a >>= fun _ => rest.forM f) = .ok () ↔ _
    rw [bind_eq_ok_iff, List.forall_mem_cons]
    constructor
    · rintro ⟨_, ha, hrest⟩
      exact ⟨ha, ih.1 hrest⟩
    · rintro ⟨ha, hrest⟩
      exact ⟨(), ha, ih.2 hrest⟩

/-- A check of each element of a list fails at one of them. -/
theorem exists_of_forM_eq_error {f : α → Except ε Unit} {l : List α} {e : ε}
    (h : l.forM f = .error e) : ∃ a ∈ l, f a = .error e := by
  induction l with
  | nil => cases h
  | cons a rest ih =>
    have hbind : (f a >>= fun _ => rest.forM f) = .error e := h
    rcases bind_eq_error_iff.1 hbind with ha | ⟨_, -, hrest⟩
    · exact ⟨a, List.mem_cons_self, ha⟩
    · obtain ⟨b, hb, hf⟩ := ih hrest
      exact ⟨b, List.mem_cons_of_mem _ hb, hf⟩

/-- What passes a check anyway does not count in the check of a list. -/
theorem forM_filter {f : α → Except ε Unit} {p : α → Bool} {l : List α}
    (h : ∀ a ∈ l, p a = false → f a = .ok ()) : (l.filter p).forM f = l.forM f := by
  induction l with
  | nil => rfl
  | cons a rest ih =>
    obtain ⟨ha, hrest⟩ := List.forall_mem_cons.1 h
    cases hp : p a with
    | true =>
      rw [List.filter_cons_of_pos hp]
      exact congrArg (f a >>= fun _ => ·) (ih hrest)
    | false =>
      rw [List.filter_cons_of_neg (Bool.eq_false_iff.1 hp), ih hrest]
      change _ = (f a >>= fun _ => rest.forM f)
      rw [ha hp]
      rfl

/-! ## Two computations -/

/-- **Two computations in step**: both succeed with results that correspond, or both fail with
faults that correspond. -/
inductive InStep (E : ε → ε' → Prop) {α β : Type} (R : α → β → Prop) :
    Except ε α → Except ε' β → Prop
  | ok {a : α} {b : β} (h : R a b) : InStep E R (.ok a) (.ok b)
  | error {e : ε} {e' : ε'} (h : E e e') : InStep E R (.error e) (.error e')

namespace InStep

variable {E : ε → ε' → Prop} {R : α → β → Prop} {x : Except ε α} {y : Except ε' β}

/-- **Sequences are in step** if their parts are. -/
theorem bind {γ δ : Type} {S : γ → δ → Prop} {f : α → Except ε γ} {g : β → Except ε' δ}
    (h : InStep E R x y) (hf : ∀ a b, R a b → InStep E S (f a) (g b)) :
    InStep E S (x >>= f) (y >>= g) := by
  cases h with
  | ok h => exact hf _ _ h
  | error h => exact .error h

theorem mapError {φ φ' : Type} {F : φ → φ' → Prop} {f : ε → φ} {g : ε' → φ'}
    (h : InStep E R x y) (hf : ∀ e e', E e e' → F (f e) (g e')) :
    InStep F R (x.mapError f) (y.mapError g) := by
  cases h with
  | ok h => exact .ok h
  | error h => exact .error (hf _ _ h)

theorem map {γ δ : Type} {S : γ → δ → Prop} {f : α → γ} {g : β → δ} (h : InStep E R x y)
    (hf : ∀ a b, R a b → S (f a) (g b)) : InStep E S (x.map f) (y.map g) := by
  cases h with
  | ok h => exact .ok (hf _ _ h)
  | error h => exact .error h

/-- Checks of each element of a list are in step if they are on each of them. -/
theorem forM {f : α → Except ε Unit} {g : α → Except ε' Unit} {l : List α}
    (h : ∀ a ∈ l, InStep E (fun _ _ => True) (f a) (g a)) :
    InStep E (fun _ _ => True) (l.forM f) (l.forM g) := by
  induction l with
  | nil => exact .ok trivial
  | cons a rest ih =>
    obtain ⟨ha, hrest⟩ := List.forall_mem_cons.1 h
    exact ha.bind fun _ _ _ => ih hrest

end InStep

end Outcome

end LoggingProvider
