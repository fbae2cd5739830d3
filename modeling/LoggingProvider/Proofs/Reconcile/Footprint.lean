import LoggingProvider.Proofs.Reconcile.Interruption

/-!
# What actions ask of an interface

Of most actions it is enough to know which requests they may make and which faults are their own. An
action then leaves the state that its requests leave, whatever these are answered with, and when it
fails it is with a fault of its own or with the answer to its last request. This is told action by
action, from the steps that an action consists of.

## Main definitions

* `Remote.Leaves`: an outcome and the requests that led to it
* `Remote.Confined`: an action that makes requests of one kind only
* `Fault.OfInput`: the faults of what is to be sent

## Main results

* `Remote.Confined.bind`, `Remote.confined_attemptSteps`: sequences of actions and of steps
* `Reconcile.confined_endpoints`: a reconciliation changes endpoints of its own version only
* `Reconcile.confined_currentRecords`: reading the records asks for one list
-/

namespace LoggingProvider

namespace Remote

variable {σ α β : Type} {remote : Remote σ} {P Q : Call → Prop} {F G : Fault → Prop}

/-- **An outcome and the requests that led to it**, from a state: the requests are of one kind, they
explain the state, and a fault is one of some faults or the answer to the last request. -/
structure Leaves (remote : Remote σ) (P : Call → Prop) (F : Fault → Prop) (s : σ)
    (out : Except Fault α × σ) (made : List Call) : Prop where
  asked : ∀ c ∈ made, P c
  state : out.2 = remote.after s made
  fault : ∀ fault, out.1 = .error fault → F fault ∨
    ∃ done c, made = done ++ [c] ∧ (remote.answer c (remote.after s done)).1 = .error fault

/-- **An action that makes requests of one kind only**, whose own faults are some faults. -/
def Confined (remote : Remote σ) (P : Call → Prop) (F : Fault → Prop) (act : Action σ α) : Prop :=
  ∀ s, ∃ made, remote.Leaves P F s (act s) made

/-! ## Sequences -/

theorem confined_pure (a : α) : remote.Confined P F (pure a : Action σ α) := by
  intro s
  refine ⟨[], by simp, rfl, ?_⟩
  intro fault h
  cases h

theorem Confined.bind {act : Action σ α} {f : α → Action σ β} (hact : remote.Confined P F act)
    (hf : ∀ a, remote.Confined P F (f a)) : remote.Confined P F (act >>= f) := by
  intro s
  obtain ⟨made, hmade⟩ := hact s
  rcases h : act s with ⟨fault | a, s'⟩
  · rw [h] at hmade
    rw [Action.bind_of_error h]
    refine ⟨made, hmade.asked, hmade.state, ?_⟩
    intro cause herror
    obtain rfl := Except.error.inj herror
    exact hmade.fault fault rfl
  · rw [h] at hmade
    -- The rest starts in the state that the first requests leave, so the requests add up.
    obtain rfl : s' = remote.after s made := hmade.state
    obtain ⟨more, hmore⟩ := hf a (remote.after s made)
    rw [Action.bind_of_ok h]
    refine ⟨made ++ more, ?_, ?_, ?_⟩
    · intro c hc
      rcases List.mem_append.1 hc with hc | hc
      · exact hmade.asked c hc
      · exact hmore.asked c hc
    · rw [hmore.state, after_append]
    · intro fault herror
      rcases hmore.fault fault herror with hown | ⟨done, c, rfl, hanswer⟩
      · exact .inl hown
      · refine .inr ⟨made ++ done, c, (List.append_assoc ..).symm, ?_⟩
        rw [after_append]
        exact hanswer

/-- What an action goes on with may be known from the outcome that it begins with. -/
theorem confined_ofExcept_bind {r : Except Fault α} {f : α → Action σ β}
    (hr : ∀ fault, r = .error fault → F fault)
    (hf : ∀ a, r = .ok a → remote.Confined P F (f a)) :
    remote.Confined P F (Action.ofExcept r >>= f) := by
  cases h : r with
  | error fault =>
    intro s
    rw [Action.bind_of_error (Action.ofExcept_apply _ s)]
    refine ⟨[], by simp, rfl, ?_⟩
    rintro _ ⟨⟩
    exact .inl (hr fault h)
  | ok a =>
    intro s
    rw [Action.ofExcept_bind_of_ok rfl]
    exact hf a h s

theorem Confined.mono {act : Action σ α} (h : remote.Confined P F act) (hP : ∀ c, P c → Q c)
    (hF : ∀ fault, F fault → G fault) : remote.Confined Q G act := by
  intro s
  obtain ⟨made, hmade⟩ := h s
  refine ⟨made, fun c hc => hP c (hmade.asked c hc), hmade.state, ?_⟩
  intro fault herror
  exact (hmade.fault fault herror).imp_left (hF fault)

/-! ## Requests -/

theorem confined_call {c : Call} (hc : P c) : remote.Confined P F (remote.call c) := by
  intro s
  refine ⟨[c], by simpa using hc, rfl, ?_⟩
  intro fault h
  exact .inr ⟨[], c, rfl, h⟩

theorem confined_attempt {tolerated : Fault → Bool} {c : Call} (hc : P c) :
    remote.Confined P F (remote.attempt tolerated c) := by
  intro s
  refine ⟨[c], by simpa using hc, ?_, ?_⟩
  · unfold attempt
    rcases h : remote.answer c s with ⟨fault | a, s'⟩
    · simp only
      split <;> simp [after, h]
    · simp [after, h]
  · intro fault herror
    refine .inr ⟨[], c, rfl, ?_⟩
    unfold attempt at herror
    change (remote.answer c s).1 = _
    rcases h : remote.answer c s with ⟨cause | a, s'⟩
    · rw [h] at herror
      simp only at herror
      split at herror
      · cases herror
      · rw [Except.error.inj herror]
    · rw [h] at herror
      cases herror

theorem confined_attemptSteps {steps : List (Except Fault Call)}
    (hP : ∀ c, .ok c ∈ steps → P c) (hF : ∀ fault, .error fault ∈ steps → F fault) :
    remote.Confined P F (remote.attemptSteps steps) := by
  induction steps with
  | nil => exact confined_pure ()
  | cons step rest ih =>
    unfold attemptSteps
    apply confined_ofExcept_bind
    · rintro fault rfl
      exact hF fault List.mem_cons_self
    · rintro c rfl
      apply (confined_attempt (hP c List.mem_cons_self)).bind
      intro _
      apply ih
      · exact fun d hd => hP d (List.mem_cons_of_mem _ hd)
      · exact fun fault hfault => hF fault (List.mem_cons_of_mem _ hfault)

end Remote

/-- **The faults of what is to be sent**: it is not valid, or its records cannot be compared. -/
def Fault.OfInput : Fault → Prop
  | .validation _ | .diff _ => True
  | _ => False

/-! ## Reconciliations -/

namespace Reconcile

variable {σ : Type} {remote : Remote σ} {kind : ServiceKind} {t : Target} {old new : List Json}
  {p : Partition Json} {c : Call}

/-- A request that names an endpoint asks for no list. -/
theorem Names.isList {r : Json} (h : Names t r c) : c.isList = false := by
  obtain ⟨-, n, -, hn⟩ := h
  cases c with
  | list u => cases hn
  | _ => rfl

/-- Each request among the steps of a reconciliation names the endpoint of a record. -/
theorem exists_names_of_mem_steps (h : .ok c ∈ steps kind t old p) : ∃ r, Names t r c := by
  unfold steps at h
  rw [List.mem_append, List.mem_append, List.mem_map, List.mem_map, List.mem_map] at h
  rcases h with (⟨r, -, h⟩ | ⟨r, -, h⟩) | ⟨r, -, h⟩
  · exact ⟨r, names_deleteCall h⟩
  · exact ⟨r, names_createCall h⟩
  · exact ⟨r, names_updateFor h⟩

/-- **A reconciliation changes endpoints of its own version only**, and asks for no list. -/
theorem confined_endpoints :
    remote.Confined (fun c => c.target = t ∧ c.isList = false) Fault.OfInput
      (endpoints remote kind t old new) := by
  cases hdiff : byName.diff old new with
  | error cause =>
    intro s
    rw [endpoints_of_diff_error hdiff]
    refine ⟨[], by simp, rfl, ?_⟩
    rintro _ ⟨⟩
    exact .inl trivial
  | ok p =>
    rw [endpoints_of_diff hdiff]
    apply Remote.confined_attemptSteps
    · intro c hc
      obtain ⟨r, hr⟩ := exists_names_of_mem_steps hc
      exact ⟨hr.1, hr.isList⟩
    · intro fault hfault
      obtain ⟨m, rfl⟩ := exists_validation_of_mem_steps hdiff hfault
      trivial

/-- **Reading the records of a version** asks for one list. -/
theorem confined_currentRecords :
    remote.Confined (fun c => c.target = t ∧ c.isList = true) Fault.OfInput
      (currentRecords remote kind t) := by
  unfold currentRecords
  apply (Remote.confined_call ⟨rfl, rfl⟩).bind
  intro found
  exact Remote.confined_pure _

end Reconcile

end LoggingProvider
