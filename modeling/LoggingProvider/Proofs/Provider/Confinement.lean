import LoggingProvider.Proofs.Provider.Requests
import LoggingProvider.Proofs.Provider.Update

/-!
# Operations keep to their own service version

A provider over the store goes through turns: operations with any arguments, and failures that are
announced for the next request. Whatever fails on the way, the requests of an operation are about
the service version that its own document addresses, and a version changes only in a creation, an
update or a deletion that addresses it. The connection may be given up in a turn; then nothing is
asked any more. No turn configures the provider, which would replace the store by a client.

## Main definitions

* `Provider.Turn`: what happens to a provider over the store
* `Provider.Turn.take`, `Provider.play`: the provider after a turn, and after some turns
* `Provider.OverStore`: the provider is connected to the store or to nothing

## Main results

* `Provider.take_confined`: what one turn records and changes
* `Provider.play_confined`: what some turns record and change
* `Provider.operations_confined`: operations keep to their own service version
-/

namespace LoggingProvider

open Rpc

namespace Provider

/-- **What happens to a provider over the store.** The schema is a value of the plugin, so asking
for it does nothing. -/
inductive Turn where
  | operation (o : Operation)
  | schema
  /-- The next request fails. -/
  | failNext (status : UInt16) (message : String)

namespace Turn

/-- The documents of a turn have one representation. -/
def Canonical : Turn → Prop
  | .operation o => o.Canonical
  | _ => True

/-- **The service version that a turn may change.** -/
def Writes : Turn → Target → Prop
  | .operation o, t => o.Writes t
  | _, _ => False

/-- The service version that a turn looks at. -/
def Reads : Turn → Target → Prop
  | .operation o, t => o.Reads t
  | _, _ => False

/-- **The requests that a turn may make.** -/
def MayAsk (turn : Turn) (c : Call) : Prop :=
  (turn.Writes c.target ∧ c.isList = false) ∨ (turn.Reads c.target ∧ c.isList = true)

/-- **The provider after a turn.** -/
def take (around : Surroundings Store) : Turn → Session Store → Session Store
  | .operation o, z => (o.perform (plugin around) z).2
  | .schema, z => z
  | .failNext status message, z => { z with outside := z.outside.failNext status message }

end Turn

/-- **The provider after some turns.** -/
def play (around : Surroundings Store) (turns : List Turn) (z : Session Store) : Session Store :=
  turns.foldl (fun z turn => turn.take around z) z

/-- The provider is connected to the store or to nothing. -/
def OverStore (z : Session Store) : Prop :=
  z.link = none ∨ z.link = some Store.remote

variable {around : Surroundings Store} {z : Session Store} {turn : Turn} {turns : List Turn}

/-! ## One turn -/

/-- What a turn records and changes, between two states of the store. -/
structure Turn.Confined (turn : Turn) (s s' : Store) (made : List Call) : Prop where
  calls : s'.calls = s.calls ++ made
  asked : ∀ c ∈ made, turn.MayAsk c
  changed : ∀ t, s'.endpoints t ≠ s.endpoints t → turn.Writes t

/-- A turn that makes no request and changes no version. -/
theorem Turn.confined_of_eq {s s' : Store} (hcalls : s'.calls = s.calls)
    (hendpoints : s'.endpoints = s.endpoints) : turn.Confined s s' [] where
  calls := by rw [hcalls, List.append_nil]
  asked := by simp
  changed t h := absurd (congrFun hendpoints t) h

/-- Requests that a turn may make change no version but the one that it may change. -/
theorem Turn.confined_run {s : Store} {made : List Call} (h : ∀ c ∈ made, turn.MayAsk c) :
    turn.Confined s (s.run made) made where
  calls := s.calls_run made
  asked := h
  changed t ht := by
    by_contra hwrites
    apply ht
    -- All that is asked of a version that the turn does not write is for its list.
    apply Store.endpoints_run_of_isList
    rintro c hc rfl
    rcases h c hc with ⟨hown, -⟩ | ⟨-, hlist⟩
    · exact absurd hown hwrites
    · exact hlist

/-- **What one turn records and changes.** -/
theorem take_confined (around : Surroundings Store) (hz : OverStore z) (hcanonical : turn.Canonical)
    (hconfigure : ∀ v, turn ≠ .operation (.configure v)) :
    OverStore (turn.take around z) ∧
      ∃ made, turn.Confined z.outside (turn.take around z).outside made := by
  cases turn with
  | schema => exact ⟨hz, [], Turn.confined_of_eq rfl rfl⟩
  | failNext status message => exact ⟨hz, [], Turn.confined_of_eq rfl rfl⟩
  | operation o =>
    change OverStore (o.perform (plugin around) z).2 ∧
      ∃ made, (Turn.operation o).Confined z.outside (o.perform (plugin around) z).2.outside made
    rcases perform_cases around o with rfl | ⟨v, rfl⟩ | ⟨-, -, ⟨use, hperform, hpermits⟩ | ⟨r, hr⟩⟩
    · exact ⟨.inl rfl, [], Turn.confined_of_eq rfl rfl⟩
    · exact absurd rfl (hconfigure v)
    · rw [hperform]
      rcases hz with hnone | hsome
      · rw [connected_of_none hnone]
        exact ⟨.inl hnone, [], Turn.confined_of_eq rfl rfl⟩
      · obtain ⟨made, hmade⟩ := hpermits Store.remote z.outside
        rw [connected_of_some hsome]
        refine ⟨.inr hsome, made, ?_⟩
        simp only [hmade.state]
        exact Turn.confined_run fun c hc => hmade.asked c hc hcanonical
    · rw [hr]
      exact ⟨hz, [], Turn.confined_of_eq rfl rfl⟩

/-! ## Some turns -/

/-- **What some turns record and change.** -/
theorem play_confined (around : Surroundings Store) (hz : OverStore z)
    (hcanonical : ∀ turn ∈ turns, turn.Canonical)
    (hconfigure : ∀ v, .operation (.configure v) ∉ turns) :
    OverStore (play around turns z) ∧
      (∃ made : List (List Call),
        (play around turns z).outside.calls = z.outside.calls ++ made.flatten ∧
          List.Forall₂ (fun turn asked => ∀ c ∈ asked, turn.MayAsk c) turns made) ∧
      ∀ t, (play around turns z).outside.endpoints t ≠ z.outside.endpoints t →
        ∃ turn ∈ turns, turn.Writes t := by
  -- Every turn leaves the provider over the store, so the next one is confined as well.
  induction turns generalizing z with
  | nil => exact ⟨hz, ⟨[], by simp [play], .nil⟩, fun t ht => absurd rfl ht⟩
  | cons turn rest ih =>
    obtain ⟨hfirst, hrest⟩ := List.forall_mem_cons.1 hcanonical
    have hturn : ∀ v, turn ≠ .operation (.configure v) := by
      rintro v rfl
      exact hconfigure v List.mem_cons_self
    obtain ⟨hnext, asked, hconfined⟩ := take_confined around hz hfirst hturn
    obtain ⟨hlast, ⟨made, hcalls, hmade⟩, hchanged⟩ :=
      ih hnext hrest fun v hv => hconfigure v (List.mem_cons_of_mem _ hv)
    refine ⟨hlast, ⟨asked :: made, ?_, .cons hconfined.asked hmade⟩, ?_⟩
    · change (play around rest (turn.take around z)).outside.calls = _
      rw [hcalls, hconfined.calls, List.flatten_cons, List.append_assoc]
    · intro t ht
      by_cases hsame : (turn.take around z).outside.endpoints t = z.outside.endpoints t
      · have hlater : (play around rest (turn.take around z)).outside.endpoints t ≠
            (turn.take around z).outside.endpoints t := by
          rw [hsame]
          exact ht
        obtain ⟨later, hmem, hwrites⟩ := hchanged t hlater
        exact ⟨later, List.mem_cons_of_mem _ hmem, hwrites⟩
      · exact ⟨turn, List.mem_cons_self, hconfined.changed t hsame⟩

/-- **Operations keep to their own service version.** Over a store in any state, whatever turns come
before it and whatever fails, a turn records only requests that it may make, none if it neither
reads nor writes, and it changes a service version only if it is a creation, an update or a deletion
that addresses this version. So what is recorded in the end is what the turns may ask, turn by turn,
and a version that changed is one that a turn writes. -/
theorem operations_confined (around : Surroundings Store) (s : Store)
    (hcanonical : ∀ turn ∈ turns, turn.Canonical)
    (hconfigure : ∀ v, .operation (.configure v) ∉ turns) :
    (∀ before turn after, turns = before ++ turn :: after → ∀ z,
      z = play around before ⟨some Store.remote, s⟩ →
        (∃ made, (turn.take around z).outside.calls = z.outside.calls ++ made ∧
          ∀ c ∈ made, turn.MayAsk c) ∧
        ((∀ t, ¬turn.Writes t ∧ ¬turn.Reads t) →
          (turn.take around z).outside.calls = z.outside.calls) ∧
        ∀ t, (turn.take around z).outside.endpoints t ≠ z.outside.endpoints t → turn.Writes t) ∧
    (∃ made : List (List Call),
      (play around turns ⟨some Store.remote, s⟩).outside.calls = s.calls ++ made.flatten ∧
        List.Forall₂ (fun turn asked => ∀ c ∈ asked, turn.MayAsk c) turns made) ∧
    ∀ t, (play around turns ⟨some Store.remote, s⟩).outside.endpoints t ≠ s.endpoints t →
      ∃ turn ∈ turns, turn.Writes t := by
  have hstart : OverStore ⟨some Store.remote, s⟩ := .inr rfl
  refine ⟨?_, (play_confined around hstart hcanonical hconfigure).2⟩
  rintro before turn after rfl z rfl
  have hbefore : ∀ turn ∈ before, turn.Canonical :=
    fun turn hturn => hcanonical turn (List.mem_append_left _ hturn)
  have hmem : turn ∈ before ++ turn :: after := List.mem_append_right _ List.mem_cons_self
  have hturn : ∀ v, turn ≠ .operation (.configure v) := by
    rintro v rfl
    exact hconfigure v hmem
  obtain ⟨hz, -⟩ := play_confined around hstart hbefore
    fun v hv => hconfigure v (List.mem_append_left _ hv)
  obtain ⟨-, made, hmade⟩ := take_confined around hz (hcanonical turn hmem) hturn
  refine ⟨⟨made, hmade.calls, hmade.asked⟩, ?_, hmade.changed⟩
  intro hidle
  have hnil : made = [] := by
    apply List.eq_nil_iff_forall_not_mem.2
    intro c hc
    rcases hmade.asked c hc with ⟨hwrites, -⟩ | ⟨hreads, -⟩
    · exact (hidle c.target).1 hwrites
    · exact (hidle c.target).2 hreads
  rw [hmade.calls, hnil, List.append_nil]

/-- The first creation fails at its request, the second one succeeds, and nothing is asked once the
connection is given up. -/
theorem operations_confined_of_failure :
    let create := Operation.create ServiceKind.vcl.resourceType (sampleState 1)
    let delete := Operation.delete ServiceKind.vcl.resourceType (sampleState 1)
    let turns : List Turn := [.failNext 503 "busy", .operation create, .schema, .operation create,
      .operation .stop, .operation delete]
    let z := play (.silent Store) turns ⟨some Store.remote, Store.empty⟩
    z.outside.calls.map Call.target = [⟨"svc", 1⟩, ⟨"svc", 1⟩] ∧
      (∃ made : List (List Call), z.outside.calls = made.flatten ∧
        List.Forall₂ (fun turn asked => ∀ c ∈ asked, turn.MayAsk c) turns made) ∧
      z.outside.endpoints ⟨"svc", 1⟩ ≠ Store.empty.endpoints ⟨"svc", 1⟩ ∧
      ∃ turn ∈ turns, turn.Writes ⟨"svc", 1⟩ := by
  intro create delete turns z
  have hstate : ∀ v ∈ [sampleState 1], v.Canonical :=
    List.forall_mem_singleton.2 (canonical_sampleState 1)
  have hcanonical : ∀ turn ∈ turns, turn.Canonical := by
    simp only [turns, List.forall_mem_cons]
    exact ⟨trivial, hstate, trivial, hstate, nofun, hstate, nofun⟩
  have hconfigure : ∀ v, .operation (.configure v) ∉ turns := by
    intro v
    simp [turns, create, delete]
  have hchanged : z.outside.endpoints ⟨"svc", 1⟩ ≠ Store.empty.endpoints ⟨"svc", 1⟩ := by
    intro h
    cases (show some "k" = none from congrArg (fun d => d.head?.map Prod.fst) h)
  obtain ⟨-, hcalls, hwrites⟩ :=
    operations_confined (.silent Store) Store.empty hcanonical hconfigure
  exact ⟨rfl, hcalls, hchanged, hwrites _ hchanged⟩

end Provider

end LoggingProvider
