import LoggingProvider.Remote.Basic

/-!
# Outcomes of actions

An action succeeds when each of its steps succeeds in the state that the step before it leaves, and
it fails when one of them does.

## Main results

* `Action.bind_eq_ok_iff`, `Action.bind_eq_error_iff`: when a sequence of two actions succeeds and
  when it fails
* `Action.bind_of_ok`: a sequence whose first action succeeds
* `Action.bind_pure_apply`: a sequence that makes something of one result
* `Remote.attempt_eq_ok_iff`: when one request succeeds
-/

namespace LoggingProvider

namespace Action

variable {σ α β : Type} {act : Action σ α} {f : α → Action σ β} {s s' s'' : σ} {a : α} {b : β}
  {fault : Fault}

theorem pure_apply (a : α) (s : σ) : (pure a : Action σ α) s = (.ok a, s) := rfl

theorem pure_eq_ok_iff {a' : α} : (pure a : Action σ α) s = (.ok a', s') ↔ a = a' ∧ s = s' := by
  rw [pure_apply, Prod.mk.injEq, Except.ok.injEq]

theorem pure_ne_error : (pure a : Action σ α) s ≠ (.error fault, s') := by
  intro h
  cases (Prod.mk.inj h).1

theorem ofExcept_apply (r : Except Fault α) (s : σ) : (ofExcept r : Action σ α) s = (r, s) := rfl

/-- A sequence whose first action succeeds goes on in the state that this action leaves. -/
theorem bind_of_ok (h : act s = (.ok a, s')) : (act >>= f) s = f a s' := by
  change ExceptT.bindCont f (act s).1 (act s).2 = f a s'
  rw [h]
  rfl

/-- A sequence whose first action fails ends there. -/
theorem bind_of_error (h : act s = (.error fault, s')) :
    (act >>= f) s = (.error fault, s') := by
  change ExceptT.bindCont f (act s).1 (act s).2 = _
  rw [h]
  rfl

/-- **When a sequence of two actions succeeds.** -/
theorem bind_eq_ok_iff : (act >>= f) s = (.ok b, s'') ↔
    ∃ a s', act s = (.ok a, s') ∧ f a s' = (.ok b, s'') := by
  rcases h : act s with ⟨fault | a, s'⟩
  · rw [bind_of_error h]
    constructor
    · intro hout
      cases (Prod.mk.inj hout).1
    · rintro ⟨a, t, hact, -⟩
      cases (Prod.mk.inj hact).1
  · rw [bind_of_ok h]
    constructor
    · intro hf
      exact ⟨a, s', rfl, hf⟩
    · rintro ⟨a', t, hact, hf⟩
      obtain ⟨ha, rfl⟩ := Prod.mk.inj hact
      rw [Except.ok.inj ha]
      exact hf

/-- **When a sequence of two actions fails.** -/
theorem bind_eq_error_iff : (act >>= f) s = (.error fault, s'') ↔
    act s = (.error fault, s'') ∨ ∃ a s', act s = (.ok a, s') ∧ f a s' = (.error fault, s'') := by
  rcases h : act s with ⟨cause | a, s'⟩
  · rw [bind_of_error h]
    constructor
    · intro hout
      obtain ⟨hcause, rfl⟩ := Prod.mk.inj hout
      exact .inl (by rw [Except.error.inj hcause])
    · rintro (hact | ⟨a, t, hact, -⟩)
      · obtain ⟨hcause, rfl⟩ := Prod.mk.inj hact
        rw [Except.error.inj hcause]
      · cases (Prod.mk.inj hact).1
  · rw [bind_of_ok h]
    constructor
    · exact fun hf => .inr ⟨a, s', rfl, hf⟩
    · rintro (hact | ⟨a', t, hact, hf⟩)
      · cases (Prod.mk.inj hact).1
      · obtain ⟨ha, rfl⟩ := Prod.mk.inj hact
        rw [Except.ok.inj ha]
        exact hf

/-- A sequence whose second action only makes something of the result of the first one. -/
theorem bind_pure_apply {g : α → β} :
    (act >>= fun a => pure (g a)) s = ((act s).1.map g, (act s).2) := by
  rcases h : act s with ⟨fault | a, s'⟩
  · exact bind_of_error h
  · exact bind_of_ok h

theorem ofExcept_bind_of_ok {r : Except Fault α} (h : r = .ok a) :
    (ofExcept r >>= f) s = f a s :=
  bind_of_ok (by rw [ofExcept_apply, h])

/-- A sequence that begins with a known outcome succeeds when that outcome does. -/
theorem ofExcept_bind_eq_ok_iff {r : Except Fault α} :
    (ofExcept r >>= f) s = (.ok b, s'') ↔ ∃ a, r = .ok a ∧ f a s = (.ok b, s'') := by
  rw [bind_eq_ok_iff]
  constructor
  · rintro ⟨a, s', hr, hf⟩
    obtain ⟨rfl, rfl⟩ := Prod.mk.inj hr
    exact ⟨a, rfl, hf⟩
  · rintro ⟨a, rfl, hf⟩
    exact ⟨a, s, rfl, hf⟩

/-- A sequence that begins with a known outcome fails with its fault, or after it. -/
theorem ofExcept_bind_eq_error_iff {r : Except Fault α} :
    (ofExcept r >>= f) s = (.error fault, s'') ↔
      (r = .error fault ∧ s = s'') ∨ ∃ a, r = .ok a ∧ f a s = (.error fault, s'') := by
  rw [bind_eq_error_iff, ofExcept_apply, Prod.mk.injEq]
  refine or_congr_right ⟨?_, ?_⟩
  · rintro ⟨a, s', hr, hf⟩
    obtain ⟨rfl, rfl⟩ := Prod.mk.inj hr
    exact ⟨a, rfl, hf⟩
  · rintro ⟨a, rfl, hf⟩
    exact ⟨a, s, rfl, hf⟩

end Action

/-- **One request succeeds** if its fault, if any, may be passed over. -/
theorem Remote.attempt_eq_ok_iff {σ : Type} {remote : Remote σ} {tolerated : Fault → Bool}
    {c : Call} {s s' : σ} : remote.attempt tolerated c s = (.ok (), s') ↔
      (∀ fault, (remote.answer c s).1 = .error fault → tolerated fault) ∧
        s' = (remote.answer c s).2 := by
  unfold Remote.attempt
  rcases remote.answer c s with ⟨fault | a, t⟩
  · rw [forall_congr' fun _ => imp_congr_left (Except.error.injEq _ _).to_iff, forall_eq']
    by_cases h : tolerated fault
    · simp only [h, if_true, true_and]
      constructor
      · intro hout
        exact (Prod.mk.inj hout).2.symm
      · rintro rfl
        rfl
    · simp only [h]
      constructor
      · intro hout
        cases (Prod.mk.inj hout).1
      · rintro ⟨hf, -⟩
        cases hf
  · constructor
    · intro hout
      exact ⟨nofun, (Prod.mk.inj hout).2.symm⟩
    · rintro ⟨-, rfl⟩
      rfl

end LoggingProvider
