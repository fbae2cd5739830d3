import LoggingProvider.Proofs.Remote.Action
import Mathlib.Data.List.Infix

/-!
# Steps against an interface

A reconciliation is a list of steps. Each of them is a request to make, or a fault where no request
can be built, and the first step that fails is the last one. What such a list does can be told from
the answers to its requests: it makes the requests of a prefix of its steps, and it ends after the
last step, at a request that is refused, or before a step that is no request.

## Main definitions

* `Call.tolerates`: the faults that a reconciliation passes over
* `Remote.after`: the state that some requests leave
* `Remote.Refuses`, `Remote.Admits`: a request that fails, and requests none of which does
* `Remote.attemptSteps`: one step after the other
* `Remote.attemptAll`: one request after the other
* `Remote.Ends`: how a list of steps ends, and which requests it makes

## Main results

* `Remote.attemptSteps_eq_iff`: what a list of steps does against an interface
* `Remote.Ends.eq_ok_iff`, `Remote.Ends.eq_error_iff`: when requests succeed and when they fail
* `Remote.attemptSteps_traced_eq_iff`: what a list of steps does against the interface that keeps
  its requests
-/

namespace LoggingProvider

/-- The faults that a reconciliation passes over: an endpoint to be deleted may be gone already. -/
def Call.tolerates : Call → Fault → Bool
  | .delete _ _, fault => fault.isNotFound
  | _, _ => false

namespace Remote

variable {σ : Type} {remote : Remote σ} {s s' : σ} {cs ds : List Call}
  {steps others : List (Except Fault Call)} {r : Except Fault Unit}

/-- The state that some requests leave, whatever they are answered with. -/
def after (remote : Remote σ) (s : σ) (cs : List Call) : σ :=
  cs.foldl (fun t c => (remote.answer c t).2) s

/-- **A request that fails**: it is answered with a fault that is not passed over. -/
def Refuses (remote : Remote σ) (s : σ) (c : Call) (fault : Fault) : Prop :=
  (remote.answer c s).1 = .error fault ∧ c.tolerates fault = false

/-- **Requests none of which fails**, each in the state that those before it leave. -/
def Admits (remote : Remote σ) : σ → List Call → Prop
  | _, [] => True
  | s, c :: rest => (∀ fault, ¬remote.Refuses s c fault) ∧ Admits remote (remote.answer c s).2 rest

/-- **One step after the other**, up to the first one that is no request or fails. -/
def attemptSteps (remote : Remote σ) : List (Except Fault Call) → Action σ Unit
  | [] => pure ()
  | step :: rest => do
    let c ← Action.ofExcept step
    remote.attempt c.tolerates c
    attemptSteps remote rest

/-- **One request after the other**, up to the first fault that is not tolerated. -/
def attemptAll (remote : Remote σ) : List Call → Action σ Unit
  | [] => pure ()
  | c :: rest => do
    remote.attempt c.tolerates c
    attemptAll remote rest

/-- **How a list of steps ends**: with which outcome, and after which requests. -/
inductive Ends (remote : Remote σ) (s : σ) :
    List (Except Fault Call) → Except Fault Unit → List Call → Prop
  /-- All steps are requests, and none of them fails. -/
  | finished (cs : List Call) (h : remote.Admits s cs) : Ends remote s (cs.map .ok) (.ok ()) cs
  /-- A request fails, and the steps behind it are not looked at. -/
  | refused (cs : List Call) {c : Call} {rest : List (Except Fault Call)} {fault : Fault}
    (h : remote.Admits s cs) (hc : remote.Refuses (remote.after s cs) c fault) :
    Ends remote s (cs.map .ok ++ .ok c :: rest) (.error fault) (cs ++ [c])
  /-- No request can be built for a step. -/
  | unbuilt (cs : List Call) {rest : List (Except Fault Call)} {fault : Fault}
    (h : remote.Admits s cs) : Ends remote s (cs.map .ok ++ .error fault :: rest) (.error fault) cs

/-! ## Requests in a row -/

theorem after_cons (c : Call) : remote.after s (c :: cs) = remote.after (remote.answer c s).2 cs :=
  rfl

theorem after_append : remote.after s (cs ++ ds) = remote.after (remote.after s cs) ds :=
  List.foldl_append

theorem admits_append :
    remote.Admits s (cs ++ ds) ↔ remote.Admits s cs ∧ remote.Admits (remote.after s cs) ds := by
  -- Induction on the first requests, in whatever state they start.
  induction cs generalizing s with
  | nil => exact (and_iff_right trivial).symm
  | cons c rest ih =>
    rw [List.cons_append, Admits, Admits, ih, after_cons, and_assoc]

/-! ## One step -/

theorem attempt_of_refuses {c : Call} {fault : Fault} (h : remote.Refuses s c fault) :
    remote.attempt c.tolerates c s = (.error fault, (remote.answer c s).2) := by
  obtain ⟨hanswer, htolerated⟩ := h
  unfold attempt
  rcases hr : remote.answer c s with ⟨_ | _, t⟩
  · rw [hr] at hanswer
    obtain rfl := Except.error.inj hanswer
    simp only [htolerated]
    rfl
  · rw [hr] at hanswer
    cases hanswer

theorem attempt_of_not_refuses {c : Call} (h : ∀ fault, ¬remote.Refuses s c fault) :
    remote.attempt c.tolerates c s = (.ok (), (remote.answer c s).2) := by
  refine attempt_eq_ok_iff.2 ⟨fun fault hanswer => ?_, rfl⟩
  by_contra htolerated
  exact h fault ⟨hanswer, Bool.eq_false_iff.2 htolerated⟩

theorem attemptSteps_nil : remote.attemptSteps [] s = (.ok (), s) := rfl

theorem attemptSteps_error {fault : Fault} :
    remote.attemptSteps (.error fault :: steps) s = (.error fault, s) :=
  rfl

theorem attemptSteps_of_refuses {c : Call} {fault : Fault} (h : remote.Refuses s c fault) :
    remote.attemptSteps (.ok c :: steps) s = (.error fault, (remote.answer c s).2) := by
  rw [attemptSteps, Action.ofExcept_bind_of_ok rfl, Action.bind_of_error (attempt_of_refuses h)]

theorem attemptSteps_of_not_refuses {c : Call} (h : ∀ fault, ¬remote.Refuses s c fault) :
    remote.attemptSteps (.ok c :: steps) s = remote.attemptSteps steps (remote.answer c s).2 := by
  rw [attemptSteps, Action.ofExcept_bind_of_ok rfl, Action.bind_of_ok (attempt_of_not_refuses h)]

/-! ## Steps in a row -/

theorem attemptSteps_append : remote.attemptSteps (steps ++ others) =
    (do remote.attemptSteps steps; remote.attemptSteps others) := by
  induction steps with
  | nil => rw [List.nil_append, attemptSteps, pure_bind]
  | cons step rest ih =>
    rw [List.cons_append, attemptSteps, attemptSteps, bind_assoc, ih]
    simp only [bind_assoc]

/-- Requests that do not fail are made, and the steps behind them follow. -/
theorem attemptSteps_of_admits (h : remote.Admits s cs) :
    remote.attemptSteps (cs.map .ok ++ steps) s =
      remote.attemptSteps steps (remote.after s cs) := by
  induction cs generalizing s with
  | nil => rfl
  | cons c rest ih =>
    rw [List.map_cons, List.cons_append, attemptSteps_of_not_refuses h.1, ih h.2, after_cons]

theorem Ends.cons {c : Call} (hc : ∀ fault, ¬remote.Refuses s c fault)
    (h : remote.Ends (remote.answer c s).2 steps r cs) :
    remote.Ends s (.ok c :: steps) r (c :: cs) := by
  cases h with
  | finished cs h => exact .finished (c :: cs) ⟨hc, h⟩
  | refused cs h hd => exact .refused (c :: cs) ⟨hc, h⟩ hd
  | unbuilt cs h => exact .unbuilt (c :: cs) ⟨hc, h⟩

/-- **What a list of steps does**: it makes the requests of a prefix of its steps. -/
theorem attemptSteps_eq_iff : remote.attemptSteps steps s = (r, s') ↔
    ∃ cs, remote.Ends s steps r cs ∧ s' = remote.after s cs := by
  constructor
  · -- Induction on the steps; a request that does not fail comes before those of the rest.
    intro h
    induction steps generalizing s with
    | nil =>
      obtain ⟨rfl, rfl⟩ := Prod.mk.inj h
      exact ⟨[], .finished [] trivial, rfl⟩
    | cons step rest ih =>
      cases step with
      | error fault =>
        obtain ⟨rfl, rfl⟩ := Prod.mk.inj h
        exact ⟨[], .unbuilt [] trivial, rfl⟩
      | ok c =>
        by_cases hc : ∃ fault, remote.Refuses s c fault
        · obtain ⟨fault, hc⟩ := hc
          rw [attemptSteps_of_refuses hc] at h
          obtain ⟨rfl, rfl⟩ := Prod.mk.inj h
          exact ⟨[c], .refused [] trivial hc, rfl⟩
        · have hc := not_exists.1 hc
          rw [attemptSteps_of_not_refuses hc] at h
          obtain ⟨cs, hends, rfl⟩ := ih h
          exact ⟨c :: cs, hends.cons hc, rfl⟩
  · rintro ⟨cs, h, rfl⟩
    cases h with
    | finished cs h =>
      rw [← List.append_nil (cs.map Except.ok), attemptSteps_of_admits h, attemptSteps_nil]
    | refused cs h hc =>
      rw [attemptSteps_of_admits h, attemptSteps_of_refuses hc, after_append]
      rfl
    | unbuilt cs h => rw [attemptSteps_of_admits h, attemptSteps_error]

theorem attemptAll_eq : remote.attemptAll cs = remote.attemptSteps (cs.map .ok) := by
  induction cs with
  | nil => rfl
  | cons c rest ih =>
    rw [attemptAll, ih]
    rfl

/-- **Steps that succeed** are requests, all of which are passed. -/
theorem attemptSteps_eq_ok_iff : remote.attemptSteps steps s = (.ok (), s') ↔
    ∃ cs, steps = cs.map .ok ∧ remote.attemptAll cs s = (.ok (), s') := by
  constructor
  · intro h
    obtain ⟨cs, hends, -⟩ := attemptSteps_eq_iff.1 h
    cases hends with
    | finished => exact ⟨cs, rfl, by rw [attemptAll_eq, h]⟩
  · rintro ⟨cs, rfl, h⟩
    rw [← attemptAll_eq, h]

/-- **How requests end** that are all built: they are made up to the first one that fails. -/
theorem ends_map_ok_iff {made : List Call} : remote.Ends s (cs.map .ok) r made ↔
    (r = .ok () ∧ made = cs ∧ remote.Admits s cs) ∨
      ∃ done c rest fault, cs = done ++ c :: rest ∧ r = .error fault ∧ made = done ++ [c] ∧
        remote.Admits s done ∧ remote.Refuses (remote.after s done) c fault := by
  constructor
  · intro h
    generalize hsteps : cs.map Except.ok = steps at h
    cases h with
    | finished made h =>
      obtain rfl := List.map_injective_iff.2 (fun _ _ => Except.ok.inj) hsteps
      exact .inl ⟨rfl, rfl, h⟩
    | @refused done c rest fault h hc =>
      obtain ⟨first, others, rfl, hfirst, hothers⟩ := List.map_eq_append_iff.1 hsteps
      obtain ⟨d, tail, rfl, hd, -⟩ := List.map_eq_cons_iff.1 hothers
      obtain rfl := List.map_injective_iff.2 (fun _ _ => Except.ok.inj) hfirst
      obtain rfl := Except.ok.inj hd
      exact .inr ⟨first, d, tail, fault, rfl, rfl, rfl, h, hc⟩
    | unbuilt done h =>
      obtain ⟨first, others, -, -, hothers⟩ := List.map_eq_append_iff.1 hsteps
      obtain ⟨d, tail, -, hd, -⟩ := List.map_eq_cons_iff.1 hothers
      cases hd
  · rintro (⟨rfl, rfl, h⟩ | ⟨done, c, rest, fault, rfl, rfl, rfl, h, hc⟩)
    · exact .finished _ h
    · rw [List.map_append, List.map_cons]
      exact .refused done h hc

section Requests

variable {made : List Call}

/-- Requests are made from the first one on. -/
theorem Ends.isPrefix (h : remote.Ends s (cs.map .ok) r made) : made <+: cs := by
  rcases ends_map_ok_iff.1 h with ⟨-, rfl, -⟩ | ⟨done, c, rest, fault, rfl, -, rfl, -, -⟩
  · exact List.prefix_refl made
  · exact ⟨rest, (List.append_cons done c rest).symm⟩

/-- A request that fails is not one of requests none of which does. -/
theorem Refuses.not_admits {c : Call} {fault : Fault} {rest : List Call}
    (h : remote.Refuses (remote.after s cs) c fault) : ¬remote.Admits s (cs ++ c :: rest) :=
  fun hadmits => (admits_append.1 hadmits).2.1 fault h

/-- **Requests succeed** when all of them are made and none fails. -/
theorem Ends.eq_ok_iff (h : remote.Ends s (cs.map .ok) r made) :
    r = .ok () ↔ made = cs ∧ remote.Admits s cs := by
  rcases ends_map_ok_iff.1 h with ⟨rfl, rfl, hadmits⟩ | ⟨done, c, rest, fault, rfl, rfl, rfl, -, hc⟩
  · exact ⟨fun _ => ⟨rfl, hadmits⟩, fun _ => rfl⟩
  · constructor
    · intro hok
      cases hok
    · rintro ⟨-, hadmits⟩
      exact absurd hadmits hc.not_admits

/-- **Requests fail** when the last one that is made is the first one that fails. -/
theorem Ends.eq_error_iff {fault : Fault} (h : remote.Ends s (cs.map .ok) r made) :
    r = .error fault ↔ ∃ done c, made = done ++ [c] ∧ remote.Admits s done ∧
      remote.Refuses (remote.after s done) c fault := by
  rcases ends_map_ok_iff.1 h with
    ⟨rfl, rfl, hadmits⟩ | ⟨done, c, rest, cause, rfl, rfl, rfl, hdone, hc⟩
  · constructor
    · intro herror
      cases herror
    · rintro ⟨done, c, rfl, -, hc⟩
      exact absurd hadmits hc.not_admits
  · constructor
    · intro herror
      obtain rfl := Except.error.inj herror
      exact ⟨done, c, rfl, hdone, hc⟩
    · rintro ⟨done', c', heq, -, hc'⟩
      obtain ⟨rfl, hlast⟩ := List.append_inj' heq rfl
      obtain rfl := List.singleton_inj.1 hlast
      rw [Except.error.inj (hc.1.symm.trans hc'.1)]

end Requests

/-! ## The interface that keeps its requests -/

variable {l : List Call}

theorem after_traced : remote.traced.after (s, l) cs = (remote.after s cs, l ++ cs) := by
  induction cs generalizing s l with
  | nil => rw [List.append_nil]; rfl
  | cons c rest ih =>
    rw [after_cons, after_cons, List.append_cons]
    exact ih

theorem refuses_traced {c : Call} {fault : Fault} :
    remote.traced.Refuses (s, l) c fault ↔ remote.Refuses s c fault :=
  Iff.rfl

theorem admits_traced : remote.traced.Admits (s, l) cs ↔ remote.Admits s cs := by
  induction cs generalizing s l with
  | nil => exact Iff.rfl
  | cons c rest ih => exact and_congr Iff.rfl ih

/-- Keeping the requests does not change how steps end. -/
theorem ends_traced : remote.traced.Ends (s, l) steps r cs ↔ remote.Ends s steps r cs := by
  constructor
  · intro h
    cases h with
    | finished cs h => exact .finished cs (admits_traced.1 h)
    | refused cs h hc =>
      rw [after_traced] at hc
      exact .refused cs (admits_traced.1 h) (refuses_traced.1 hc)
    | unbuilt cs h => exact .unbuilt cs (admits_traced.1 h)
  · intro h
    cases h with
    | finished cs h => exact .finished cs (admits_traced.2 h)
    | refused cs h hc =>
      refine .refused cs (admits_traced.2 h) ?_
      rw [after_traced]
      exact refuses_traced.2 hc
    | unbuilt cs h => exact .unbuilt cs (admits_traced.2 h)

/-- **What a list of steps does against the interface that keeps its requests**: the requests that
it makes are added to those that were kept. -/
theorem attemptSteps_traced_eq_iff {l' : List Call} :
    remote.traced.attemptSteps steps (s, l) = (r, s', l') ↔
      ∃ cs, remote.Ends s steps r cs ∧ s' = remote.after s cs ∧ l' = l ++ cs := by
  rw [attemptSteps_eq_iff]
  simp only [ends_traced, after_traced, Prod.mk.injEq]

/-- Requests that succeed are all kept. -/
theorem eq_append_of_attemptAll_traced {l' : List Call}
    (h : remote.traced.attemptAll cs (s, l) = (.ok (), s', l')) : l' = l ++ cs := by
  rw [attemptAll_eq] at h
  obtain ⟨made, hends, -, rfl⟩ := attemptSteps_traced_eq_iff.1 h
  rw [(hends.eq_ok_iff.1 rfl).1]

end Remote

end LoggingProvider
