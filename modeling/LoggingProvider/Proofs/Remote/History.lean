import LoggingProvider.Proofs.Remote.Store

/-!
# The store after operations

What a store answers is told by the operations that led to it. Endpoints are put into it, failures
are announced to it, and requests are made of it, and in any order of these it keeps every endpoint
under its own name and records every request. There is room for one announced failure: the next
request is answered with the one that is announced last, whatever it asks for, and from then on
requests are answered from the endpoints again.

## Main definitions

* `Store.Operation`, `Store.after`: what is done with a store, and the store after it
* `Store.Announced`: the failure that the operations leave to the next request

## Main results

* `Store.failure_after_eq_some_iff`: which failure is to come after operations
* `Store.answer_eq_error_iff`: when a store without a failure to come refuses a request
* `Store.faithful_after`: what a store answers after operations
-/

namespace LoggingProvider

namespace Store

/-- **What is done with a store.** -/
inductive Operation
  /-- An endpoint is put into a version. -/
  | seed (target : Target) (e : Endpoint)
  /-- The next request is made to fail. -/
  | failNext (status : UInt16) (message : String)
  /-- A request is made. -/
  | call (c : Call)

namespace Operation

/-- The store after an operation. -/
def perform (s : Store) : Operation → Store
  | seed target e => s.seed target e
  | failNext status message => s.failNext status message
  | call c => (s.answer c).2

/-- The request that is made, if there is one. -/
def call? : Operation → Option Call
  | call c => some c
  | _ => none

/-- An endpoint is put into a version. -/
def IsSeed : Operation → Prop
  | seed _ _ => True
  | _ => False

end Operation

open Operation

variable {s : Store} {t u : Target} {n : String} {c : Call} {ops : List Operation} {fault : Fault}

/-- **The store after operations**, from the empty one. -/
def after (ops : List Operation) : Store := ops.foldl perform empty

/-- **The failure that operations leave to the next request**: after it is announced, neither a
request is made nor another failure announced. -/
def Announced (ops : List Operation) (status : UInt16) (message : String) : Prop :=
  ∃ before between, ops = before ++ .failNext status message :: between ∧ ∀ o ∈ between, o.IsSeed

/-! ## What is to come -/

theorem after_concat (ops : List Operation) (o : Operation) :
    after (ops ++ [o]) = o.perform (after ops) := by
  rw [after, List.foldl_append]
  rfl

/-- Operations end in a failure that is announced, or in an endpoint put there after it is. -/
theorem announced_concat_iff {o : Operation} {status : UInt16} {message : String} :
    Announced (ops ++ [o]) status message ↔
      o = .failNext status message ∨ o.IsSeed ∧ Announced ops status message := by
  constructor
  · rintro ⟨before, between, heq, hseed⟩
    rcases List.eq_nil_or_concat between with rfl | ⟨rest, last, rfl⟩
    · exact Or.inl (List.append_inj_right' heq rfl |> List.cons.inj |>.1)
    · rw [List.concat_eq_append, ← List.cons_append, ← List.append_assoc] at heq
      obtain ⟨rfl, hlast⟩ := List.append_inj' heq rfl
      obtain rfl := List.cons.inj hlast |>.1
      refine Or.inr ⟨hseed o (by simp), before, rest, rfl, fun p hp => hseed p ?_⟩
      simp [hp]
  · rintro (rfl | ⟨ho, before, between, rfl, hseed⟩)
    · exact ⟨ops, [], rfl, by simp⟩
    · refine ⟨before, between ++ [o], by simp, fun p hp => ?_⟩
      rcases List.mem_append.1 hp with hp | hp
      · exact hseed p hp
      · rwa [List.mem_singleton.1 hp]

/-- **Which failure is to come**: the one that the operations leave to the next request. -/
theorem failure_after_eq_some_iff : (after ops).failure = some fault ↔
    ∃ status message, Announced ops status message ∧ fault = .remote status message := by
  -- The last operation decides, unless it puts an endpoint there.
  induction ops using List.reverseRecOn with
  | nil =>
    constructor
    · intro h
      cases h
    · rintro ⟨status, message, ⟨before, between, heq, -⟩, -⟩
      exact absurd heq (by simp)
  | append_singleton ops o ih =>
    rw [after_concat]
    simp only [announced_concat_iff]
    cases o with
    | seed t e => simpa [perform, Store.seed, IsSeed] using ih
    | failNext status message =>
      simp only [perform, Store.failNext, Option.some.injEq, IsSeed, false_and, or_false,
        Operation.failNext.injEq]
      constructor
      · rintro rfl
        exact ⟨status, message, ⟨rfl, rfl⟩, rfl⟩
      · rintro ⟨_, _, ⟨rfl, rfl⟩, rfl⟩
        rfl
    | call c => simp [perform, IsSeed]

theorem failure_after_eq_none (h : ∀ status message, ¬ Announced ops status message) :
    (after ops).failure = none := by
  apply Option.eq_none_iff_forall_ne_some.2
  intro fault hfault
  obtain ⟨status, message, hannounced, -⟩ := failure_after_eq_some_iff.1 hfault
  exact h status message hannounced

/-! ## What is recorded and what is kept -/

/-- **Every request is recorded, in order**, whatever else is done. -/
theorem calls_after (ops : List Operation) : (after ops).calls = ops.filterMap call? := by
  induction ops using List.reverseRecOn with
  | nil => rfl
  | append_singleton ops o ih =>
    rw [after_concat, List.filterMap_append, ← ih]
    cases o with
    | seed t e => exact (List.append_nil _).symm
    | failNext status message => exact (List.append_nil _).symm
    | call c => exact calls_answer c (after ops)

theorem reachable_after (ops : List Operation) : (after ops).Reachable := by
  induction ops using List.reverseRecOn with
  | nil => exact .empty
  | append_singleton ops o ih =>
    rw [after_concat]
    cases o with
    | seed t e => exact ih.seed t e
    | failNext status message => exact ih.failNext status message
    | call c => exact ih.answer c

/-- The endpoints of a version are listed by name. -/
theorem Consistent.ordered_listed (h : s.Consistent) (t : Target) :
    ((s.listed t).map Endpoint.name).Pairwise (· < ·) := by
  rw [h.names_listed]
  exact List.pairwise_map.2 (h t).ordered

/-! ## Answers -/

/-- **Why a store refuses a request**: its name is taken, or it is not there. -/
def Refuses (s : Store) : Call → Fault → Prop
  | .list _, _ => False
  | .create t n _, fault => fault = taken n ∧ ∃ e, s.find? t n = some e
  | .update t n _, fault => fault = absent n ∧ s.find? t n = none
  | .delete t n, fault => fault = absent n ∧ s.find? t n = none

/-- **When a store without a failure to come refuses a request.** -/
theorem answer_eq_error_iff (hs : s.failure = none) :
    (s.answer c).1 = .error fault ↔ s.Refuses c fault := by
  rw [answer_of_none hs]
  cases c with
  | list t => simp [serve, Refuses]
  | create t n settings =>
    simp only [serve, Refuses, find?]
    by_cases hn : Dict.hasName (s.endpoints t) n
    · obtain ⟨e, he⟩ := Dict.hasName_iff.1 hn
      simp [hn, he, eq_comm]
    · simp [hn, Option.not_isSome_iff_eq_none.1 hn]
  | update t n settings =>
    simp only [serve, Refuses, find?]
    cases Dict.value? (s.endpoints t) n <;> simp [eq_comm]
  | delete t n =>
    simp only [serve, Refuses, find?]
    by_cases hn : Dict.hasName (s.endpoints t) n
    · obtain ⟨e, he⟩ := Dict.hasName_iff.1 hn
      simp [hn, he]
    · simp [hn, Option.not_isSome_iff_eq_none.1 hn, eq_comm]

/-- **A request that fails changes nothing**, whether it is refused or made to fail. -/
theorem endpoints_answer_of_error (h : (s.answer c).1 = .error fault) :
    (s.answer c).2.endpoints = s.endpoints := by
  cases hs : s.failure with
  | some other => rw [answer_of_failure hs]
  | none =>
    rw [answer_eq_error_iff hs] at h
    rw [endpoints_answer hs]
    cases c with
    | list t => rfl
    | create t n settings =>
      obtain ⟨-, hn⟩ := h
      simp only [serve, if_pos (Dict.hasName_iff.2 hn)]
    | update t n settings =>
      obtain ⟨-, hn⟩ := h
      unfold find? at hn
      simp only [serve, hn]
    | delete t n =>
      obtain ⟨-, hn⟩ := h
      unfold find? at hn
      simp only [serve, Dict.hasName, hn, Option.isSome_none, Bool.false_eq_true, if_false]

/-- **A request that succeeds changes only the endpoint that it names.** -/
theorem find?_answer_of_ok {r : c.Reply} (h : (s.answer c).1 = .ok r) (t : Target) (n : String) :
    (s.answer c).2.find? t n =
      if c.target = t ∧ c.name? = some n then c.effect (s.find? t n) else s.find? t n := by
  have hs : s.failure = none := by
    cases hfailure : s.failure with
    | none => rfl
    | some fault =>
      rw [answer_of_failure hfailure] at h
      cases h
  by_cases ht : c.target = t
  · simp only [find?_answer hs ht, ht, true_and]
  · simp only [find?_answer_of_ne hs ht, ht, false_and, if_false]

/-! ## After operations -/

/-- **What a store answers after operations**, whichever they are. It keeps every endpoint under its
own name, and it records every request, in order. A request that fails changes no version, and one
that succeeds changes only the endpoint that it names. The failure that the operations leave to the
next request is the answer to it. If they leave none, a request is refused exactly if its name is
taken or not there, and a list has the endpoints of the version in the order of their names. -/
theorem faithful_after (ops : List Operation) :
    (∀ t n e, (after ops).find? t n = some e → e.name = n) ∧
    (after ops).calls = ops.filterMap call? ∧
    (∀ c fault, ((after ops).answer c).1 = .error fault →
      ((after ops).answer c).2.endpoints = (after ops).endpoints) ∧
    (∀ c r, ((after ops).answer c).1 = .ok r → ∀ t n, ((after ops).answer c).2.find? t n =
      if c.target = t ∧ c.name? = some n then c.effect ((after ops).find? t n)
      else (after ops).find? t n) ∧
    (∀ status message, Announced ops status message →
      ∀ c, ((after ops).answer c).1 = .error (.remote status message)) ∧
    ((∀ status message, ¬ Announced ops status message) →
      (∀ c fault, ((after ops).answer c).1 = .error fault ↔ (after ops).Refuses c fault) ∧
      ∀ t, ∃ l : List Endpoint, ((after ops).answer (.list t)).1 = .ok l ∧
        (l.map Endpoint.name).Pairwise (· < ·) ∧
        ∀ e, e ∈ l ↔ (after ops).find? t e.name = some e) := by
  have hconsistent : (after ops).Consistent := (reachable_after ops).consistent
  refine ⟨fun t n e he => hconsistent.name_eq he, calls_after ops,
    fun c fault h => endpoints_answer_of_error h, fun c r h => find?_answer_of_ok h, ?_, ?_⟩
  · intro status message h c
    rw [answer_of_failure (failure_after_eq_some_iff.2 ⟨status, message, h, rfl⟩)]
  · intro h
    have hnone : (after ops).failure = none := failure_after_eq_none h
    refine ⟨fun c fault => answer_eq_error_iff hnone, fun t => ⟨(after ops).listed t, ?_, ?_, ?_⟩⟩
    · rw [answer_of_none hnone]
      rfl
    · exact hconsistent.ordered_listed t
    · intro e
      exact hconsistent.mem_listed_iff

/-- A failure that is announced is not always the answer to the next request, also if no request
comes between them: another failure that is announced in the meantime takes its place. -/
theorem announced_failure_replaced :
    ((after [.failNext 500 "a", .failNext 503 "b"]).answer (.list ⟨"svc", 1⟩)).1 =
      .error (.remote 503 "b") ∧
    ¬ ∀ before between status message c, (∀ o ∈ between, call? o = none) →
      ((after (before ++ .failNext status message :: between)).answer c).1 =
        .error (.remote status message) := by
  have hlast : ((after [.failNext 500 "a", .failNext 503 "b"]).answer (.list ⟨"svc", 1⟩)).1 =
      .error (.remote 503 "b") := rfl
  refine ⟨hlast, fun h => ?_⟩
  have hfirst := h [] [.failNext 503 "b"] 500 "a" (.list ⟨"svc", 1⟩) (by simp [call?])
  rw [List.nil_append, hlast] at hfirst
  simp at hfirst

end Store

end LoggingProvider
