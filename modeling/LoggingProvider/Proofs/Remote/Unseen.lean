import LoggingProvider.Proofs.Endpoint.Secret
import LoggingProvider.Proofs.Remote.Store

/-!
# Settings that are not looked at

An interface may answer a request without a look at the settings that are sent, so that two requests
for the same endpoint are refused for the same fault. Two lists of such requests then fail together.
The store is an interface of this kind: whether it refuses a request depends on the names that it
has, and these change in the same way whatever the settings are.

## Main definitions

* `Remote.Unseeing`: interfaces that do not look at settings
* `Store.SameNames`: stores that have the same names

## Main results

* `Remote.attemptSteps_endSame`: two lists of steps that differ in settings
* `Store.unseeing`: the store does not look at settings
-/

namespace LoggingProvider

open Dict Outcome

namespace Call.Alike

variable {c c' : Call}

theorem tolerates (h : Alike c c') : c.tolerates = c'.tolerates := by
  cases h <;> rfl

theorem target (h : Alike c c') : c.target = c'.target := by
  cases h <;> rfl

theorem name? (h : Alike c c') : c.name? = c'.name? := by
  cases h <;> rfl

/-- Whether there is an endpoint after a request does not depend on the settings. -/
theorem isSome_effect (h : Alike c c') {e e' : Option Endpoint} (he : e.isSome = e'.isSome) :
    (c.effect e).isSome = (c'.effect e').isSome := by
  cases h with
  | create => simp only [Call.effect, Option.isSome_or, Option.isSome_some, Bool.or_true]
  | update => simp only [Call.effect, Option.isSome_map, he]
  | delete => rfl

end Call.Alike

/-- An outcome is in step with itself. -/
theorem Fault.SameUnless.inStep_self (p : Prop) {α : Type} (r : Except Fault α) :
    InStep (Fault.SameUnless p) (· = ·) r r := by
  cases r with
  | error fault => exact .error (.same fault)
  | ok a => exact .ok rfl

/-- **Sequences of actions fail together** if their parts do. -/
theorem Action.bind_inStep {σ α α' β β' : Type} {E : Fault → Fault → Prop} {R : α → α' → Prop}
    {S : β → β' → Prop} {act : Action σ α} {act' : Action σ α'} {f : α → Action σ β}
    {f' : α' → Action σ β'} {s s' : σ} (hact : InStep E R (act s).1 (act' s').1)
    (hf : ∀ a a', R a a' → InStep E S (f a (act s).2).1 (f' a' (act' s').2).1) :
    InStep E S ((act >>= f) s).1 ((act' >>= f') s').1 := by
  rcases h : act s with ⟨_, t⟩
  rcases h' : act' s' with ⟨_, t'⟩
  rw [h, h'] at hact hf
  cases hact with
  | error he =>
    rw [bind_of_error h, bind_of_error h']
    exact .error he
  | ok ha =>
    rw [bind_of_ok h, bind_of_ok h']
    exact hf _ _ ha

namespace Remote

variable {σ : Type} {remote : Remote σ} {R : σ → σ → Prop} {s s' : σ} {c c' : Call}
  {steps steps' : List (Except Fault Call)}

/-- **Interfaces that do not look at settings**: in related states, requests for the same endpoint
are answered with the same fault or with none, and related states follow. -/
structure Unseeing (remote : Remote σ) (R : σ → σ → Prop) : Prop where
  answer : ∀ {s s' c c'}, R s s' → Call.Alike c c' →
    InStep (· = ·) (fun _ _ => True) (remote.answer c s).1 (remote.answer c' s').1
  next : ∀ {s s' c c'}, R s s' → Call.Alike c c' → R (remote.answer c s).2 (remote.answer c' s').2

theorem Unseeing.refuses_iff (hR : remote.Unseeing R) (hs : R s s') (hc : Call.Alike c c')
    {fault : Fault} : remote.Refuses s c fault ↔ remote.Refuses s' c' fault := by
  have hanswer := hR.answer hs hc
  unfold Refuses
  rw [hc.tolerates]
  generalize (remote.answer c s).1 = r, (remote.answer c' s').1 = r' at hanswer
  cases hanswer with
  | ok => exact iff_of_false nofun nofun
  | @error e _ h =>
    subst h
    rw [Except.error.injEq, Except.error.injEq]

/-- **Two lists of steps that differ in settings** fail together. -/
theorem attemptSteps_endSame {p : Prop} (hR : remote.Unseeing R)
    (h : List.Forall₂ (InStep (Fault.SameUnless p) Call.Alike) steps steps') (hs : R s s') :
    EndSameUnless p (remote.attemptSteps steps s).1 (remote.attemptSteps steps' s').1 := by
  -- Induction on the steps; the states stay related as long as no step fails.
  induction h generalizing s s' with
  | nil => exact .ok trivial
  | cons hstep _ ih =>
    cases hstep with
    | error h =>
      exact .error h
    | @ok c c' hc =>
      by_cases hrefused : ∃ fault, remote.Refuses s c fault
      · obtain ⟨fault, hfault⟩ := hrefused
        rw [attemptSteps_of_refuses hfault,
          attemptSteps_of_refuses ((hR.refuses_iff hs hc).1 hfault)]
        exact .error (.same fault)
      · have hadmitted := not_exists.1 hrefused
        rw [attemptSteps_of_not_refuses hadmitted, attemptSteps_of_not_refuses fun fault h =>
          hadmitted fault ((hR.refuses_iff hs hc).2 h)]
        exact ih (hR.next hs hc)

end Remote

namespace Store

variable {s s' : Store} {c c' : Call} {t : Target} {n : String} {all all' : Target → Dict Endpoint}

/-- **Stores that have the same names**, and the same failure to come. -/
structure SameNames (s s' : Store) : Prop where
  failure : s.failure = s'.failure
  hasName : ∀ t n, hasName (s.endpoints t) n = hasName (s'.endpoints t) n

theorem SameNames.refl (s : Store) : SameNames s s := ⟨rfl, fun _ _ => rfl⟩

theorem hasName_serve (h : ∀ t n, hasName (all t) n = hasName (all' t) n) (hc : Call.Alike c c')
    (t : Target) (n : String) :
    hasName ((serve all c).2 t) n = hasName ((serve all' c').2 t) n := by
  by_cases ht : c.target = t
  · have ht' : c'.target = t := hc.target ▸ ht
    have hleft := value?_serve all c n
    have hright := value?_serve all' c' n
    rw [ht] at hleft
    rw [ht', ← hc.name?] at hright
    unfold hasName at h ⊢
    rw [hleft, hright]
    split
    · exact hc.isSome_effect (h t n)
    · exact h t n
  · rw [serve_of_ne all ht, serve_of_ne all' fun ht' => ht (hc.target.trans ht')]
    exact h t n

theorem serve_inStep (h : ∀ t n, hasName (all t) n = hasName (all' t) n) (hc : Call.Alike c c') :
    InStep (· = ·) (fun _ _ => True) (serve all c).1 (serve all' c').1 := by
  cases hc with
  | create t n settings settings' =>
    simp only [serve, h t n]
    split
    · exact .error rfl
    · exact .ok trivial
  | update t n settings settings' =>
    have hfound : (value? (all t) n).isSome = (value? (all' t) n).isSome := h t n
    simp only [serve]
    generalize value? (all t) n = e, value? (all' t) n = e' at hfound
    cases e with
    | none =>
      cases e' with
      | none => exact .error rfl
      | some => cases hfound
    | some =>
      cases e' with
      | none => cases hfound
      | some => exact .ok trivial
  | delete t n =>
    simp only [serve, h t n]
    split
    · exact .ok trivial
    · exact .error rfl

/-- **The store does not look at settings.** -/
theorem unseeing : Store.remote.Unseeing SameNames where
  answer := by
    intro s s' c c' hs hc
    show InStep _ _ (s.answer c).1 (s'.answer c').1
    unfold Store.answer
    rw [← hs.failure]
    split
    · exact .error rfl
    · exact serve_inStep hs.hasName hc
  next := by
    intro s s' c c' hs hc
    show SameNames (s.answer c).2 (s'.answer c').2
    refine ⟨by rw [failure_answer, failure_answer], ?_⟩
    unfold Store.answer
    rw [← hs.failure]
    split
    · exact hs.hasName
    · exact hasName_serve hs.hasName hc

end Store

end LoggingProvider
