import LoggingProvider.Proofs.Dict
import LoggingProvider.Proofs.Remote.Script
import LoggingProvider.Remote.Store

/-!
# The store under requests

A request changes at most the endpoint that it names, and what becomes of this endpoint depends on
nothing else in the store. A store without a failure to come carries out a list of requests that
name distinct endpoints of one version exactly when it would accept each of them as it stands, and
then each endpoint is affected by its own request alone.

## Main definitions

* `Call.effect`: what a request makes of the endpoint that it names
* `Store.Accepts`: whether a store carries a request out
* `Store.run`: the store after some requests
* `Store.Reachable`: the stores that come about
* `Store.Consistent`: endpoints in name order, each under its own name

## Main results

* `Store.attemptAll_eq_ok_iff`: when a store carries out requests with distinct names
* `Store.find?_run_of_mem`, `Store.find?_run_of_forall_ne`: the endpoints after them
* `Store.calls_run`, `Store.endpoints_run_of_isList`: what is recorded, and what changes a version
* `Store.endpoints_run_deletes`: the endpoints after deletions
* `Store.Reachable.consistent`: every store that comes about is consistent
-/

namespace LoggingProvider

open Dict

/-- **What a request makes of the endpoint that it names**, if there is one. -/
def Call.effect : Call → Option Endpoint → Option Endpoint
  | .list _, e => e
  | .create _ name settings, e => e.or (some ⟨name, settings⟩)
  | .update _ _ settings, e => e.map fun e => ⟨e.name, settings.overlay e.settings⟩
  | .delete _ _, _ => none

namespace Store

variable {s s' : Store} {t u : Target} {n : String} {c : Call} {cs : List Call}

/-- **Whether a store carries a request out**, where it may pass over a fault. -/
def Accepts (s : Store) : Call → Prop
  | .create t n _ => s.find? t n = none
  | .update t n _ => ∃ e, s.find? t n = some e
  | _ => True

/-- **The store after some requests.** -/
def run (s : Store) (cs : List Call) : Store :=
  cs.foldl (fun s c => (s.answer c).2) s

/-! ## One request -/

/-- A failure to come is the answer to any request. -/
theorem answer_of_failure {fault : Fault} (hs : s.failure = some fault) (c : Call) :
    s.answer c = (.error fault, ⟨s.endpoints, s.calls ++ [c], none⟩) := by
  unfold answer
  rw [hs]

theorem answer_of_none (hs : s.failure = none) (c : Call) :
    s.answer c = ((serve s.endpoints c).1, ⟨(serve s.endpoints c).2, s.calls ++ [c], none⟩) := by
  unfold answer
  rw [hs]

theorem endpoints_answer (hs : s.failure = none) (c : Call) :
    (s.answer c).2.endpoints = (serve s.endpoints c).2 := by
  rw [answer_of_none hs]

/-- A request leaves the other versions as they are. -/
theorem serve_of_ne (all : Target → Dict Endpoint) (h : c.target ≠ t) :
    (serve all c).2 t = all t := by
  cases c with
  | list u => rfl
  | create u m settings =>
    simp only [serve]
    split
    · rfl
    · exact replace_of_ne all (Ne.symm h) _
  | update u m settings =>
    simp only [serve]
    split
    · rfl
    · exact replace_of_ne all (Ne.symm h) _
  | delete u m =>
    simp only [serve]
    split
    · exact replace_of_ne all (Ne.symm h) _
    · rfl

/-- **A request changes at most the endpoint that it names.** -/
theorem value?_serve (all : Target → Dict Endpoint) (c : Call) (n : String) :
    value? ((serve all c).2 c.target) n =
      if c.name? = some n then c.effect (value? (all c.target) n)
      else value? (all c.target) n := by
  cases c with
  | list u => rfl
  | create u m settings =>
    simp only [serve, Call.target, Call.name?, Call.effect, Option.some.injEq]
    by_cases hm : hasName (all u) m
    · obtain ⟨e, he⟩ := hasName_iff.1 hm
      rw [if_pos hm]
      split
      · next hmn => rw [← hmn, he, Option.some_or]
      · rfl
    · rw [if_neg hm]
      simp only [replace_target, value?_put]
      split
      · next hmn =>
        rw [← hmn, Option.not_isSome_iff_eq_none.1 hm, Option.none_or]
      · rfl
  | update u m settings =>
    simp only [serve, Call.target, Call.name?, Call.effect, Option.some.injEq]
    cases hm : value? (all u) m with
    | none =>
      simp only
      split
      · next hmn => rw [← hmn, hm, Option.map_none]
      · rfl
    | some e =>
      simp only [replace_target, value?_put]
      split
      · next hmn => rw [← hmn, hm, Option.map_some]
      · rfl
  | delete u m =>
    simp only [serve, Call.target, Call.name?, Call.effect, Option.some.injEq]
    by_cases hm : hasName (all u) m
    · rw [if_pos hm]
      simp only [replace_target, value?_remove]
    · rw [if_neg hm]
      split
      · next hmn => rw [← hmn, Option.not_isSome_iff_eq_none.1 hm]
      · rfl

theorem find?_answer_of_ne (hs : s.failure = none) (h : c.target ≠ t) :
    (s.answer c).2.find? t n = s.find? t n := by
  unfold find?
  rw [endpoints_answer hs, serve_of_ne _ h]

theorem find?_answer (hs : s.failure = none) (h : c.target = t) :
    (s.answer c).2.find? t n =
      if c.name? = some n then c.effect (s.find? t n) else s.find? t n := by
  subst h
  unfold find?
  rw [endpoints_answer hs, value?_serve]

/-- **When a store carries one request out.** -/
theorem attempt_eq_ok_iff (hs : s.failure = none) :
    remote.attempt c.tolerates c s = (.ok (), s') ↔ s.Accepts c ∧ s' = (s.answer c).2 := by
  have hanswer : (s.answer c).1 = (serve s.endpoints c).1 := by rw [answer_of_none hs]
  -- An attempt succeeds if the answer is no fault or a tolerated one, and only deletions tolerate.
  rw [Remote.attempt_eq_ok_iff]
  refine and_congr_left fun _ => ?_
  change (∀ fault, (s.answer c).1 = .error fault → c.tolerates fault) ↔ _
  rw [hanswer]
  cases c with
  | list u => simp [serve, Accepts]
  | create u m settings =>
    simp only [serve, Accepts, find?, Call.tolerates]
    by_cases hm : hasName (s.endpoints u) m
    · obtain ⟨e, he⟩ := hasName_iff.1 hm
      simp [hm, he]
    · simp [hm, Option.not_isSome_iff_eq_none.1 hm]
  | update u m settings =>
    simp only [serve, Accepts, find?, Call.tolerates]
    cases hm : value? (s.endpoints u) m with
    | none => simp
    | some e => simp
  | delete u m =>
    simp only [serve, Accepts, Call.tolerates]
    by_cases hm : hasName (s.endpoints u) m
    · simp [hm]
    · simp [hm, absent, Fault.isNotFound]

/-! ## Requests with distinct names -/

/-- The endpoints that a request does not name stay as they are. -/
theorem find?_answer_of_name?_ne (hs : s.failure = none) (h : c.name? ≠ some n) :
    (s.answer c).2.find? t n = s.find? t n := by
  by_cases ht : c.target = t
  · rw [find?_answer hs ht, if_neg h]
  · exact find?_answer_of_ne hs ht

/-- Whether a request is carried out does not depend on a request that names another endpoint. -/
theorem accepts_answer {d : Call} (hs : s.failure = none) (h : c.name? ≠ d.name?) :
    (s.answer c).2.Accepts d ↔ s.Accepts d := by
  cases d with
  | list u => exact Iff.rfl
  | create u n settings =>
    unfold Accepts
    simp only [find?_answer_of_name?_ne hs h]
  | update u n settings =>
    unfold Accepts
    simp only [find?_answer_of_name?_ne hs h]
  | delete u n => exact Iff.rfl

theorem failure_run (hs : s.failure = none) (cs : List Call) : (s.run cs).failure = none := by
  induction cs generalizing s with
  | nil => exact hs
  | cons c rest ih => exact ih (failure_answer c s)

/-- **When a store carries out requests with distinct names**: it would accept each of them as it
stands. -/
theorem attemptAll_eq_ok_iff (hs : s.failure = none) (hcs : (cs.map Call.name?).Nodup) :
    remote.attemptAll cs s = (.ok (), s') ↔ (∀ c ∈ cs, s.Accepts c) ∧ s' = s.run cs := by
  induction cs generalizing s with
  | nil =>
    rw [Remote.attemptAll, Action.pure_eq_ok_iff]
    simp [run, eq_comm]
  | cons c rest ih =>
    obtain ⟨hc, hrest⟩ := List.nodup_cons.1 hcs
    have haccepts : (∀ d ∈ rest, (s.answer c).2.Accepts d) ↔ ∀ d ∈ rest, s.Accepts d := by
      refine forall₂_congr fun d hd => accepts_answer hs fun hname => hc ?_
      exact hname ▸ List.mem_map_of_mem hd
    have hrun : s.run (c :: rest) = (s.answer c).2.run rest := rfl
    rw [Remote.attemptAll, Action.bind_eq_ok_iff, List.forall_mem_cons, hrun]
    constructor
    · rintro ⟨_, next, hattempt, hall⟩
      obtain ⟨hacc, rfl⟩ := (attempt_eq_ok_iff hs).1 hattempt
      obtain ⟨hrec, rfl⟩ := (ih (failure_answer c s) hrest).1 hall
      exact ⟨⟨hacc, haccepts.1 hrec⟩, rfl⟩
    · rintro ⟨⟨hacc, hrec⟩, rfl⟩
      refine ⟨(), (s.answer c).2, (attempt_eq_ok_iff hs).2 ⟨hacc, rfl⟩, ?_⟩
      exact (ih (failure_answer c s) hrest).2 ⟨haccepts.2 hrec, rfl⟩

/-- **Endpoints that no request names** stay as they are. -/
theorem find?_run_of_forall_ne (hs : s.failure = none) (h : ∀ c ∈ cs, c.name? ≠ some n) :
    (s.run cs).find? t n = s.find? t n := by
  induction cs generalizing s with
  | nil => rfl
  | cons c rest ih =>
    obtain ⟨hc, hrest⟩ := List.forall_mem_cons.1 h
    exact (ih (failure_answer c s) hrest).trans (find?_answer_of_name?_ne hs hc)

/-- **An endpoint that a request names** is affected by this request alone. -/
theorem find?_run_of_mem (hs : s.failure = none) (hcs : (cs.map Call.name?).Nodup) (hc : c ∈ cs)
    (hn : c.name? = some n) :
    (s.run cs).find? c.target n = c.effect (s.find? c.target n) := by
  induction cs generalizing s with
  | nil => cases hc
  | cons d rest ih =>
    obtain ⟨hd, hrest⟩ := List.nodup_cons.1 hcs
    have hrun : s.run (d :: rest) = (s.answer d).2.run rest := rfl
    rw [hrun]
    rcases List.mem_cons.1 hc with rfl | hmem
    · have hlater : ∀ e ∈ rest, e.name? ≠ some n := by
        intro e he hen
        exact hd (hn ▸ hen ▸ List.mem_map_of_mem he)
      rw [find?_run_of_forall_ne (failure_answer c s) hlater, find?_answer hs rfl, if_pos hn]
    · have hne : d.name? ≠ some n := by
        intro hdn
        exact hd (hdn ▸ hn ▸ List.mem_map_of_mem hmem)
      rw [ih (failure_answer d s) hrest hmem, find?_answer_of_name?_ne hs hne]

/-- Requests that are addressed to another version leave a version as it is. -/
theorem endpoints_run_of_ne (hs : s.failure = none) (h : ∀ c ∈ cs, c.target ≠ t) :
    (s.run cs).endpoints t = s.endpoints t := by
  induction cs generalizing s with
  | nil => rfl
  | cons c rest ih =>
    obtain ⟨hc, hrest⟩ := List.forall_mem_cons.1 h
    refine (ih (failure_answer c s) hrest).trans ?_
    rw [endpoints_answer hs, serve_of_ne _ hc]

/-- Every request is recorded, in the order in which they are made. -/
theorem calls_run (s : Store) (cs : List Call) : (s.run cs).calls = s.calls ++ cs := by
  induction cs generalizing s with
  | nil => exact (List.append_nil _).symm
  | cons c rest ih =>
    change ((s.answer c).2.run rest).calls = _
    rw [ih, calls_answer, List.append_assoc]
    rfl

/-- One request leaves a version as it is, unless it is addressed to it and asks for no list. A
request that fails leaves everything as it is. -/
theorem endpoints_answer_of_isList (h : c.target = t → c.isList) :
    (s.answer c).2.endpoints t = s.endpoints t := by
  cases hs : s.failure with
  | some fault => rw [answer_of_failure hs]
  | none =>
    rw [endpoints_answer hs]
    by_cases ht : c.target = t
    · cases c with
      | list u => rfl
      | _ => cases h ht
    · exact serve_of_ne _ ht

/-- **What changes a version** is a request that is addressed to it and asks for no list, whatever
fails in between. -/
theorem endpoints_run_of_isList (h : ∀ c ∈ cs, c.target = t → c.isList) :
    (s.run cs).endpoints t = s.endpoints t := by
  induction cs generalizing s with
  | nil => rfl
  | cons c rest ih =>
    obtain ⟨hc, hrest⟩ := List.forall_mem_cons.1 h
    exact (ih hrest).trans (endpoints_answer_of_isList hc)

/-! ## Deletions -/

/-- A deletion removes a name, also one that is not there. -/
theorem endpoints_serve_delete (all : Target → Dict Endpoint) (t : Target) (n : String) :
    (serve all (.delete t n)).2 = replace all t (remove n (all t)) := by
  simp only [serve]
  split
  · rfl
  · next habsent =>
    have hne : ∀ e ∈ all t, e.1 ≠ n := by
      apply value?_eq_none_iff.1
      exact Option.not_isSome_iff_eq_none.1 habsent
    have hkeep : remove n (all t) = all t :=
      List.filter_eq_self.2 fun e he => decide_eq_true (hne e he)
    rw [hkeep, replace_self]

/-- **Deletions keep the endpoints that none of them names.** -/
theorem endpoints_run_deletes (hs : s.failure = none) (t : Target) (ns : List String) :
    (s.run (ns.map (Call.delete t))).endpoints =
      replace s.endpoints t ((s.endpoints t).filter fun e => e.1 ∉ ns) := by
  induction ns generalizing s with
  | nil =>
    have hkeep : ((s.endpoints t).filter fun e => e.1 ∉ ([] : List String)) = s.endpoints t :=
      List.filter_eq_self.2 fun e _ => by simp
    rw [hkeep, replace_self]
    rfl
  | cons n rest ih =>
    have hstep : (s.answer (.delete t n)).2.endpoints =
        replace s.endpoints t (remove n (s.endpoints t)) := by
      rw [endpoints_answer hs, endpoints_serve_delete]
    have hrun : s.run ((n :: rest).map (Call.delete t)) =
        (s.answer (.delete t n)).2.run (rest.map (Call.delete t)) := rfl
    rw [hrun, ih (failure_answer _ s), hstep, replace_target, replace_replace, remove,
      List.filter_filter]
    congr 1
    apply List.filter_congr
    intro e _
    simp [List.mem_cons, Bool.and_comm]

/-! ## Consistent stores -/

/-- Endpoints in name order, each under its own name. -/
structure WellNamed (d : Dict Endpoint) : Prop where
  ordered : Ordered d
  named : ∀ e ∈ d, e.2.name = e.1

/-- **A consistent store**: the endpoints of every version are under their own names. -/
def Consistent (s : Store) : Prop :=
  ∀ t, WellNamed (s.endpoints t)

/-- **The stores that come about** from the empty one by endpoints put there, failures to come,
requests and a record that is cleared. -/
inductive Reachable : Store → Prop
  | empty : Reachable empty
  | seed {s : Store} (t : Target) (e : Endpoint) : Reachable s → Reachable (s.seed t e)
  | failNext {s : Store} (status : UInt16) (message : String) : Reachable s →
      Reachable (s.failNext status message)
  | answer {s : Store} (c : Call) : Reachable s → Reachable (s.answer c).2
  | forget {s : Store} : Reachable s → Reachable { s with calls := [] }

theorem WellNamed.put {d : Dict Endpoint} (hd : WellNamed d) {e : Endpoint} (he : e.name = n) :
    WellNamed (Dict.put n e d) where
  ordered := ordered_put hd.ordered n e
  named := by
    intro f hf
    rcases mem_put hf with rfl | hf
    · exact he
    · exact hd.named f hf

theorem WellNamed.remove {d : Dict Endpoint} (hd : WellNamed d) (n : String) :
    WellNamed (Dict.remove n d) where
  ordered := ordered_remove hd.ordered n
  named f hf := hd.named f (List.mem_filter.1 hf).1

theorem wellNamed_replace {all : Target → Dict Endpoint} (h : ∀ t, WellNamed (all t))
    {d : Dict Endpoint} (hd : WellNamed d) (u t : Target) : WellNamed (replace all u d t) := by
  unfold replace
  split
  · exact hd
  · exact h t

/-- Every request keeps the endpoints under their own names. -/
theorem wellNamed_serve {all : Target → Dict Endpoint} (h : ∀ t, WellNamed (all t)) (c : Call)
    (t : Target) : WellNamed ((serve all c).2 t) := by
  cases c with
  | list u => exact h t
  | create u n settings =>
    simp only [serve]
    split
    · exact h t
    · refine wellNamed_replace h ((h u).put ?_) u t
      rfl
  | update u n settings =>
    simp only [serve]
    split
    · exact h t
    · next e he =>
      refine wellNamed_replace h ((h u).put ?_) u t
      exact (h u).named _ (mem_of_value? he)
  | delete u n =>
    simp only [serve]
    split
    · exact wellNamed_replace h ((h u).remove n) u t
    · exact h t

namespace Consistent

theorem answer (h : s.Consistent) (c : Call) : (s.answer c).2.Consistent := by
  unfold Consistent Store.answer
  split
  · exact h
  · exact wellNamed_serve h c

theorem run (h : s.Consistent) (cs : List Call) : (s.run cs).Consistent := by
  induction cs generalizing s with
  | nil => exact h
  | cons c rest ih => exact ih (h.answer c)

theorem name_eq (h : s.Consistent) {e : Endpoint} (he : s.find? t n = some e) : e.name = n :=
  (h t).named _ (mem_of_value? he)

/-- The endpoints of a version are those that are found under their names. -/
theorem mem_listed_iff (h : s.Consistent) {e : Endpoint} :
    e ∈ s.listed t ↔ s.find? t e.name = some e := by
  constructor
  · intro he
    obtain ⟨entry, hmem, rfl⟩ := List.mem_map.1 he
    rw [(h t).named entry hmem]
    exact value?_of_mem (h t).ordered.nodup_names hmem
  · intro he
    exact List.mem_map.2 ⟨_, mem_of_value? he, rfl⟩

/-- The names of a version are the names in its map. -/
theorem names_listed (h : s.Consistent) (t : Target) :
    (s.listed t).map Endpoint.name = names (s.endpoints t) := by
  unfold listed names
  rw [List.map_map]
  exact List.map_congr_left (h t).named

theorem nodup_names_listed (h : s.Consistent) (t : Target) :
    ((s.listed t).map Endpoint.name).Nodup := by
  rw [h.names_listed]
  exact (h t).ordered.nodup_names

/-- **Requests with distinct names in another order** leave the same endpoints. -/
theorem endpoints_run_perm (h : s.Consistent) (hs : s.failure = none) {ds : List Call}
    (ht : ∀ c ∈ cs, c.target = t) (hcs : (cs.map Call.name?).Nodup) (hp : cs.Perm ds)
    (u : Target) : (s.run cs).endpoints u = (s.run ds).endpoints u := by
  by_cases hu : u = t
  · subst hu
    refine (h.run cs u).ordered.ext (h.run ds u).ordered fun n => ?_
    -- An endpoint is affected by the one request that names it, or by none.
    by_cases hn : ∃ c ∈ cs, c.name? = some n
    · obtain ⟨c, hc, hcn⟩ := hn
      have hrun := find?_run_of_mem hs hcs hc hcn
      have hrun' := find?_run_of_mem hs ((hp.map _).nodup_iff.1 hcs) (hp.mem_iff.1 hc) hcn
      rw [ht c hc] at hrun hrun'
      exact hrun.trans hrun'.symm
    · have hfree : ∀ c ∈ cs, c.name? ≠ some n := fun c hc hcn => hn ⟨c, hc, hcn⟩
      have hfree' : ∀ c ∈ ds, c.name? ≠ some n := fun c hc => hfree c (hp.mem_iff.2 hc)
      exact (find?_run_of_forall_ne hs hfree).trans (find?_run_of_forall_ne hs hfree').symm
  · have hne : ∀ c ∈ cs, c.target ≠ u := fun c hc hcu => hu (hcu.symm.trans (ht c hc))
    rw [endpoints_run_of_ne hs hne, endpoints_run_of_ne hs fun c hc => hne c (hp.mem_iff.2 hc)]

end Consistent

/-- **Every store that comes about is consistent.** -/
theorem Reachable.consistent (h : s.Reachable) : s.Consistent := by
  induction h with
  | empty => exact fun _ => ⟨ordered_nil, by simp [Store.empty]⟩
  | seed t e _ ih => exact wellNamed_replace ih ((ih t).put rfl) t
  | failNext status message _ ih => exact ih
  | answer c _ ih => exact ih.answer c
  | forget _ ih => exact ih

end Store

end LoggingProvider
