import LoggingProvider.Proofs.Provider.Configuration
import LoggingProvider.Proofs.Provider.Requests

/-!
# The connection of the provider

The provider starts with a connection or without one. Stopping it gives the connection up,
configuring it without findings installs a new one, and nothing else touches it: neither the
operations on resources nor configuring with findings or with a fault. So the connection is told by
the history of the operations alone, by the last of them that stopped the provider or configured it
without findings.

Without a connection, an operation that needs one fails, and nothing behind the provider changes.
With a connection it may fail as well, but not for want of one, unless the interface that the
provider started with answers so.

## Main definitions

* `Rpc.Performed`, `Rpc.history`: operations with their outcomes
* `Rpc.Performed.Stops`, `Rpc.Performed.Connects`: what touches the connection
* `Provider.Installs`: an operation that installs a client
* `Remote.Avoids`: a fault that an interface never answers with

## Main results

* `Provider.link_perform_cases`: what an operation does to the connection
* `Provider.link_eq_none_iff`, `Provider.link_eq_some_iff`: the connection after a history
* `Provider.perform_of_none`, `Provider.not_avoids_of_perform`: failures for want of a connection
* `Provider.connection`: the connection as a state machine
-/

namespace LoggingProvider

open Rpc

/-- A fault that an interface never answers with. -/
def Remote.Avoids {σ : Type} (remote : Remote σ) (fault : Fault) : Prop :=
  ∀ c s, (remote.answer c s).1 ≠ .error fault

/-! ## Histories -/

namespace Rpc

/-- **An operation that was performed**, with its outcome. -/
structure Performed where
  operation : Operation
  outcome : Except Fault operation.Result

namespace Performed

/-- The provider was stopped. -/
def Stops (e : Performed) : Prop :=
  e.operation = .stop

/-- The provider was configured without findings. -/
def Connects (e : Performed) : Prop :=
  ∃ v, e = ⟨.configure v, .ok []⟩

theorem not_stops_of_connects {e : Performed} (h : e.Connects) : ¬e.Stops := by
  obtain ⟨v, rfl⟩ := h
  intro hstops
  cases hstops

end Performed

variable {σ : Type}

/-- **Operations one after the other**, with their outcomes, and the state after them. -/
def history (p : Plugin σ) : List Operation → σ → List Performed × σ
  | [], s => ([], s)
  | o :: rest, s =>
    let (r, s') := o.perform p s
    let (events, s'') := history p rest s'
    (⟨o, r⟩ :: events, s'')

/-- **What every operation of a history carries on.** If a property of the state holds after an
operation exactly when the operation brings it about or leaves it alone where it held, it holds
after a history exactly when it held at the start and was left alone, or was brought about and left
alone since. -/
theorem history_iff {p : Plugin σ} (holds : σ → Prop) {brings leaves : Performed → Prop}
    (hstep : ∀ o s, holds (o.perform p s).2 ↔
      brings ⟨o, (o.perform p s).1⟩ ∨ (holds s ∧ leaves ⟨o, (o.perform p s).1⟩))
    (os : List Operation) (s : σ) :
    holds (history p os s).2 ↔ (holds s ∧ ∀ e ∈ (history p os s).1, leaves e) ∨
      ∃ before e after, (history p os s).1 = before ++ e :: after ∧ brings e ∧
        ∀ e' ∈ after, leaves e' := by
  induction os generalizing s with
  | nil => simp [history]
  | cons o rest ih =>
    change holds (history p rest (o.perform p s).2).2 ↔ _
    rw [ih, hstep]
    change _ ↔
      (_ ∧ ∀ e ∈ ⟨o, (o.perform p s).1⟩ :: (history p rest (o.perform p s).2).1, leaves e) ∨
      ∃ before e after, ⟨o, (o.perform p s).1⟩ :: (history p rest (o.perform p s).2).1 =
        before ++ e :: after ∧ brings e ∧ ∀ e' ∈ after, leaves e'
    generalize (history p rest (o.perform p s).2).1 = events
    rw [List.forall_mem_cons]
    constructor
    · rintro (⟨hbrings | ⟨hs, hleaves⟩, hall⟩ | ⟨before, e, after, rfl, hbrings, hall⟩)
      · exact .inr ⟨[], _, events, rfl, hbrings, hall⟩
      · exact .inl ⟨hs, hleaves, hall⟩
      · exact .inr ⟨_ :: before, e, after, rfl, hbrings, hall⟩
    · rintro (⟨hs, hleaves, hall⟩ | ⟨before, e, after, hsplit, hbrings, hall⟩)
      · exact .inl ⟨.inr ⟨hs, hleaves⟩, hall⟩
      · cases before with
        | nil =>
          obtain ⟨rfl, rfl⟩ := List.cons.inj hsplit
          exact .inl ⟨.inl hbrings, hall⟩
        | cons first others =>
          obtain ⟨-, rfl⟩ := List.cons.inj hsplit
          exact .inr ⟨others, e, after, rfl, hbrings, hall⟩

end Rpc

/-! ## Clients -/

namespace Http

theorem readReply_ne_notConfigured (r : Response) (c : Call) :
    readReply r c ≠ .error .notConfigured := by
  have hrefusal : refusal r ≠ .notConfigured := by
    unfold refusal
    exact nofun
  intro h
  cases c with
  | delete target name =>
    simp only [readReply] at h
    split at h
    · cases h
    · exact hrefusal (Except.error.inj h)
  | _ =>
    simp only [readReply] at h
    split at h
    · exact hrefusal (Except.error.inj h)
    · split at h <;> cases h

/-- A client never answers that there is no connection. -/
theorem Client.avoids_notConfigured {σ : Type} (client : Client) (transport : Transport σ) :
    (client.remote transport).Avoids .notConfigured := by
  intro c s h
  unfold Client.remote at h
  simp only at h
  split at h
  · cases h
  · split at h
    · cases h
    · exact readReply_ne_notConfigured _ c h

end Http

namespace Provider

variable {σ α : Type} {around : Surroundings σ} {o : Operation} {z : Session σ}
  {remote : Remote σ}

/-- **An operation that installs a client**: the provider is configured without findings, and the
interface is the client of the configuration. -/
def Installs (around : Surroundings σ) (e : Performed) (remote : Remote σ) : Prop :=
  ∃ v config client, e = ⟨.configure v, .ok []⟩ ∧
    Config.resolve v around.environment = .ok config ∧
    Http.Client.ofConfig config = .ok client ∧ remote = client.remote around.transport

theorem connects_of_installs {e : Performed} (h : Installs around e remote) : e.Connects := by
  obtain ⟨v, -, -, he, -, -, -⟩ := h
  exact ⟨v, he⟩

/-! ## One operation -/

theorem link_connected (use : Remote σ → Action σ α) (z : Session σ) :
    (connected use z).2.link = z.link := by
  cases h : z.link with
  | none => rw [connected_of_none h, h]
  | some remote =>
    rw [connected_of_some h]
    exact h

theorem connects_configure_iff {v : Json} {r : Except Fault (List Diagnostic)} :
    Performed.Connects ⟨.configure v, r⟩ ↔ r = .ok [] := by
  constructor
  · rintro ⟨v', h⟩
    cases h
    rfl
  · rintro rfl
    exact ⟨v, rfl⟩

/-- **What an operation does to the connection**: it gives it up, it installs another one, or it
leaves it as it is. -/
theorem link_perform_cases (around : Surroundings σ) (o : Operation) (z : Session σ) :
    (Performed.Stops ⟨o, (o.perform (plugin around) z).1⟩ ∧
        (o.perform (plugin around) z).2.link = none) ∨
      (∃ remote, Installs around ⟨o, (o.perform (plugin around) z).1⟩ remote ∧
        (o.perform (plugin around) z).2.link = some remote) ∨
      (¬Performed.Stops ⟨o, (o.perform (plugin around) z).1⟩ ∧
        ¬Performed.Connects ⟨o, (o.perform (plugin around) z).1⟩ ∧
        (o.perform (plugin around) z).2.link = z.link) := by
  rcases perform_cases around o with rfl | ⟨v, rfl⟩ | ⟨hstop, hconfigure, hrest⟩
  · exact .inl ⟨rfl, rfl⟩
  · change (_ ∧ (configure around v z).2.link = none) ∨ _
    by_cases hok : (configure around v z).1 = .ok []
    · obtain ⟨config, client, hresolve, hclient, hz⟩ :=
        configure_eq_ok_nil_iff.1 (Prod.ext hok rfl)
      refine .inr (.inl ⟨client.remote around.transport, ?_, congrArg Session.link hz⟩)
      refine ⟨v, config, client, ?_, hresolve, hclient, rfl⟩
      exact congrArg (Performed.mk (.configure v)) hok
    · exact .inr (.inr ⟨nofun, fun h => hok (connects_configure_iff.1 h),
        congrArg Session.link (configure_state_eq hok)⟩)
  · refine .inr (.inr ⟨hstop, ?_, ?_⟩)
    · rintro ⟨v, h⟩
      exact hconfigure v (congrArg Performed.operation h)
    · rcases hrest with ⟨use, hperform, -⟩ | ⟨r, hr⟩
      · rw [hperform, link_connected]
      · rw [hr]

/-! ## The connection after a history -/

/-- **When there is no connection**: there was none at the start, or the provider was stopped, and
it has not been configured without findings since. -/
theorem link_eq_none_iff (around : Surroundings σ) (os : List Operation) (z : Session σ) :
    (history (plugin around) os z).2.link = none ↔
      (z.link = none ∧ ∀ e ∈ (history (plugin around) os z).1, ¬e.Connects) ∨
        ∃ before e after, (history (plugin around) os z).1 = before ++ e :: after ∧ e.Stops ∧
          ∀ e' ∈ after, ¬e'.Connects := by
  apply history_iff fun z : Session σ => z.link = none
  intro o z
  rcases link_perform_cases around o z with ⟨hstops, hlink⟩ | ⟨remote, hinstalls, hlink⟩ |
    ⟨hstops, hconnects, hlink⟩
  · exact iff_of_true hlink (.inl hstops)
  · have hconnects := connects_of_installs hinstalls
    refine iff_of_false (by simp [hlink]) ?_
    rintro (hstops | ⟨-, hleaves⟩)
    · exact Performed.not_stops_of_connects hconnects hstops
    · exact hleaves hconnects
  · rw [hlink]
    constructor
    · exact fun hnone => .inr ⟨hnone, hconnects⟩
    · rintro (h | ⟨hnone, -⟩)
      · exact absurd h hstops
      · exact hnone

/-- **Which connection there is**: that of the start, if the provider was neither stopped nor
configured without findings, or the client of the last configuration without findings, if the
provider was not stopped since. -/
theorem link_eq_some_iff (around : Surroundings σ) (os : List Operation) (z : Session σ)
    (remote : Remote σ) :
    (history (plugin around) os z).2.link = some remote ↔
      (z.link = some remote ∧ ∀ e ∈ (history (plugin around) os z).1, ¬e.Stops ∧ ¬e.Connects) ∨
        ∃ before e after, (history (plugin around) os z).1 = before ++ e :: after ∧
          Installs around e remote ∧ ∀ e' ∈ after, ¬e'.Stops ∧ ¬e'.Connects := by
  -- Installing this client brings it about. Installing another one does not leave it alone, even
  -- if the two are equal, so of equal ones the last counts.
  apply history_iff fun z : Session σ => z.link = some remote
  intro o z
  rcases link_perform_cases around o z with ⟨hstops, hlink⟩ | ⟨other, hinstalls, hlink⟩ |
    ⟨hstops, hconnects, hlink⟩
  · refine iff_of_false (by simp [hlink]) ?_
    rintro (hinstalls | ⟨-, hleaves, -⟩)
    · exact Performed.not_stops_of_connects (connects_of_installs hinstalls) hstops
    · exact hleaves hstops
  · rw [hlink]
    constructor
    · rintro ⟨rfl⟩
      exact .inl hinstalls
    · rintro (hsame | ⟨-, -, hleaves⟩)
      · obtain ⟨v, config, client, he, hresolve, hclient, rfl⟩ := hinstalls
        obtain ⟨v', config', client', he', hresolve', hclient', rfl⟩ := hsame
        have hv : Operation.configure v = .configure v' :=
          congrArg Performed.operation (he.symm.trans he')
        obtain rfl := Operation.configure.inj hv
        obtain rfl := Except.ok.inj (hresolve.symm.trans hresolve')
        obtain rfl := Except.ok.inj (hclient.symm.trans hclient')
        rfl
      · exact absurd (connects_of_installs hinstalls) hleaves
  · rw [hlink]
    constructor
    · exact fun hsome => .inr ⟨hsome, hstops, hconnects⟩
    · rintro (h | ⟨hsome, -⟩)
      · exact absurd (connects_of_installs h) hconnects
      · exact hsome

/-! ## Want of a connection -/

/-- Without a connection, nothing behind the provider changes. -/
theorem outside_perform_of_none (h : z.link = none) (o : Operation) :
    (o.perform (plugin around) z).2.outside = z.outside := by
  rcases perform_cases around o with rfl | ⟨v, rfl⟩ | ⟨-, -, ⟨use, hperform, -⟩ | ⟨r, hr⟩⟩
  · rfl
  · change (configure around v z).2.outside = z.outside
    by_cases hok : (configure around v z).1 = .ok []
    · obtain ⟨config, client, -, -, hz⟩ := configure_eq_ok_nil_iff.1 (Prod.ext hok rfl)
      rw [show (configure around v z).2 = _ from hz]
    · rw [configure_state_eq hok]
  · rw [hperform, connected_of_none h]
  · rw [hr]

/-- Without a connection, an operation that needs one fails. -/
theorem perform_of_none (huses : o.UsesClient) (h : z.link = none) :
    o.perform (plugin around) z = (.error .notConfigured, z) := by
  obtain ⟨use, hperform, -⟩ := exists_connected around huses
  rw [hperform, connected_of_none h]

/-- With a connection, an operation fails for want of one only if the interface answers so. -/
theorem not_avoids_of_perform (huses : o.UsesClient) (h : z.link = some remote)
    (hfault : (o.perform (plugin around) z).1 = .error .notConfigured) :
    ¬remote.Avoids .notConfigured := by
  obtain ⟨use, hperform, hconfined⟩ := exists_connected around huses
  rw [hperform, connected_of_some h] at hfault
  obtain ⟨made, hmade⟩ := hconfined remote z.outside
  rcases hmade.fault _ hfault with hown | ⟨done, c, -, hanswer⟩
  · cases hown
  · intro havoids
    exact havoids c _ hanswer

/-- **The connection as a state machine.** After any operations from a start with or without a
connection, there is none exactly when the provider has not been configured without findings since
it was last stopped, or since a start without one. If there is one, it is that of the last
configuration without findings, or else that of the start. Configuring in any other way changes
nothing, and without a connection nothing changes behind the provider. An operation that needs a
connection fails without one; it fails for want of one only then, unless the interface of the start
is still there and answers so. An unknown resource type is refused first. -/
theorem connection {start : Option (Remote σ)} {s : σ} {os : List Operation}
    {events : List Performed} (h : history (plugin around) os ⟨start, s⟩ = (events, z)) :
    (z.link = none ↔ (start = none ∧ ∀ e ∈ events, ¬e.Connects) ∨
      ∃ before e after, events = before ++ e :: after ∧ e.Stops ∧ ∀ e' ∈ after, ¬e'.Connects) ∧
    (∀ remote, z.link = some remote ↔
      (start = some remote ∧ ∀ e ∈ events, ¬e.Stops ∧ ¬e.Connects) ∨
        ∃ before e after, events = before ++ e :: after ∧ Installs around e remote ∧
          ∀ e' ∈ after, ¬e'.Stops ∧ ¬e'.Connects) ∧
    (∀ v, ((plugin around).configure v z).1 ≠ .ok [] → ((plugin around).configure v z).2 = z) ∧
    (z.link = none → ∀ o : Operation, (o.perform (plugin around) z).2.outside = z.outside) ∧
    (∀ o : Operation, o.UsesClient →
      (z.link = none → o.perform (plugin around) z = (.error .notConfigured, z)) ∧
      (∀ remote, z.link = some remote → (o.perform (plugin around) z).1 = .error .notConfigured →
        start = some remote ∧ ¬remote.Avoids .notConfigured) ∧
      ((∀ remote, start = some remote → remote.Avoids .notConfigured) →
        ((o.perform (plugin around) z).1 = .error .notConfigured ↔ z.link = none))) ∧
    ∀ (o : Operation) (type : String), o.type? = some type →
      (∀ kind : ServiceKind, type ≠ kind.resourceType) →
        o.perform (plugin around) z = (.error (.unknownResource type), z) := by
  have hnone := link_eq_none_iff around os ⟨start, s⟩
  have hsome := link_eq_some_iff around os ⟨start, s⟩
  rw [h] at hnone hsome
  -- A client never answers that there is no connection, so an interface that does is the first one.
  have hwant : ∀ o : Operation, o.UsesClient → ∀ remote, z.link = some remote →
      (o.perform (plugin around) z).1 = .error .notConfigured →
        start = some remote ∧ ¬remote.Avoids .notConfigured := by
    intro o huses remote hlink hfault
    have hnot := not_avoids_of_perform huses hlink hfault
    rcases (hsome remote).1 hlink with ⟨hstart, -⟩ | ⟨-, e, -, -, hinstalls, -⟩
    · exact ⟨hstart, hnot⟩
    · obtain ⟨-, -, client, -, -, -, rfl⟩ := hinstalls
      exact absurd (client.avoids_notConfigured around.transport) hnot
  refine ⟨hnone, hsome, fun v hv => configure_state_eq hv, outside_perform_of_none, ?_,
    fun o type htype hunknown => perform_of_unknown htype hunknown z⟩
  intro o huses
  refine ⟨perform_of_none huses, hwant o huses, ?_⟩
  intro havoids
  constructor
  · intro hfault
    cases hlink : z.link with
    | none => rfl
    | some remote =>
      obtain ⟨hstart, hnot⟩ := hwant o huses remote hlink hfault
      exact absurd (havoids remote hstart) hnot
  · intro hlink
    rw [perform_of_none huses hlink]

/-- A provider that is configured and then configured with an address without a host, and one that
is configured and stopped. -/
theorem connection_of_configurations :
    let good := Operation.configure (webConfig Config.defaultUrl)
    let bad := Operation.configure (webConfig "http://")
    (∃ events z, history (plugin (.silent Unit)) [good, bad] ⟨none, ()⟩ = (events, z) ∧
      z.link = some (Http.Client.usual.remote (.silent Unit))) ∧
    ∃ events z, history (plugin (.silent Unit)) [good, .stop] ⟨none, ()⟩ = (events, z) ∧
      z.link = none ∧ (Operation.read ServiceKind.vcl.resourceType .null).perform
        (plugin (.silent Unit)) z = (.error .notConfigured, z) := by
  intro good bad
  have hgood : ∃ events z, history (plugin (.silent Unit)) [good, bad] ⟨none, ()⟩ = (events, z) ∧
      events = [⟨good, .ok []⟩, ⟨bad, .error (.configuration "invalid base_url: empty host")⟩] :=
    ⟨_, _, rfl, rfl⟩
  have hstopped : ∃ events z, history (plugin (.silent Unit)) [good, .stop] ⟨none, ()⟩ =
      (events, z) ∧ events = [⟨good, .ok []⟩] ++ ⟨.stop, .ok ()⟩ :: [] := ⟨_, _, rfl, rfl⟩
  obtain ⟨events, z, hrun, hevents⟩ := hgood
  obtain ⟨events', z', hrun', hevents'⟩ := hstopped
  have hinstalls : Installs (.silent Unit) ⟨good, .ok []⟩
      (Http.Client.usual.remote (.silent Unit)) :=
    ⟨_, _, _, rfl, rfl, Http.Client.ofConfig_usual, rfl⟩
  have hnone : z'.link = none :=
    (connection hrun').1.2 (.inr ⟨_, _, [], hevents', rfl, by simp⟩)
  refine ⟨⟨events, z, hrun, ?_⟩, events', z', hrun', hnone, ?_⟩
  · apply ((connection hrun).2.1 _).2
    refine .inr ⟨[], _, _, hevents, hinstalls, ?_⟩
    intro e he
    obtain rfl := List.mem_singleton.1 he
    refine ⟨nofun, ?_⟩
    intro hconnects
    cases connects_configure_iff.1 hconnects
  · have huses : (Operation.read ServiceKind.vcl.resourceType .null).UsesClient := ⟨.vcl, rfl⟩
    exact ((connection hrun').2.2.2.2.1 _ huses).1 hnone

end Provider

end LoggingProvider
