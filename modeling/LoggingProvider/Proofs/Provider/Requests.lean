import LoggingProvider.Proofs.Provider.Reading
import LoggingProvider.Proofs.Reconcile.Footprint
import LoggingProvider.Proofs.Rpc.Operation

/-!
# What operations ask for

An operation on a resource of a known type uses the connection, and its requests are about the
service version that its document addresses, or that its identity names. A creation, an update and a
deletion make no request for a list, and a reading and an import make no other. The remaining
operations, those on resources of an unknown type among them, have a known outcome and leave
everything as it was, apart from configuring and stopping.

## Main definitions

* `State.Addresses`, `Provider.Identifies`: the service version of a state, and of an identity
* `Rpc.Operation.Writes`, `Rpc.Operation.Reads`: the service version of an operation
* `Rpc.Operation.MayAsk`: the requests that an operation may make
* `Rpc.Operation.UsesClient`: the operations that need a connection
* `Provider.Permits`: what is done over a connection is within the requests of an operation

## Main results

* `Provider.exists_connected`: what the operations that use the connection do over it
* `Provider.exists_outcome`: the operations that neither use nor change the connection
* `Provider.perform_of_unknown`: operations on resources of an unknown type
* `Provider.perform_cases`: what an operation does
-/

namespace LoggingProvider

open Rpc

/-! ## Service versions -/

namespace State

variable {kind : ServiceKind} {state : Json} {t : Target}

/-- **The service version of a state**: what stands under its two names. -/
def Addresses (state : Json) (t : Target) : Prop :=
  state.member? "service_id" = some (.string t.service) ∧
    state.member? "version" = some (.ofNat t.version.toNat)

theorem addresses_of_target (h : target state = .ok t) : Addresses state t := by
  obtain ⟨⟨hservice, -⟩, hversion, -⟩ := target_eq_ok_iff.1 h
  exact ⟨hservice, hversion⟩

/-- The service version of a normal form is that of the state. -/
theorem addresses_of_target_normalize (hc : state.Canonical)
    (h : target (normalize (schemaOf kind) state) = .ok t) : Addresses state t := by
  obtain ⟨d', hd'⟩ := exists_object_of_target h
  obtain ⟨d, rfl⟩ := exists_object_of_normalize hd'
  exact addresses_of_target ((target_normalize hc.1).1 h)

end State

namespace Provider

variable {id : String} {t : Target}

/-- **The service version of an identity**: the service before the first slash, and after it the
number of the version. -/
def Identifies (id : String) (t : Target) : Prop :=
  ∃ number, id = t.service ++ "/" ++ number ∧ '/' ∉ t.service.toList ∧
    Endpoint.Kind.spelledBelow? 4294967296 number = some t.version.toNat

theorem identifies_of_parseImportId (h : parseImportId id = .ok t) : Identifies id t := by
  obtain ⟨-, hslash, -, number, hid, hspelled⟩ := parseImportId_eq_ok_iff.1 h
  exact ⟨number, hid, hslash,
    Endpoint.Kind.spelledBelow?_eq_some_iff.2 ⟨hspelled, t.version.toNat_lt⟩⟩

end Provider

/-! ## Operations -/

namespace Rpc.Operation

/-- The documents that are given to an operation. -/
def documents : Operation → List Json
  | .validateProviderConfig v | .configure v | .validateResourceConfig _ v | .create _ v
  | .read _ v | .delete _ v => [v]
  | .plan _ prior proposed config => prior.toList ++ [proposed, config]
  | .update _ prior planned => [prior, planned]
  | .stop | .importResource _ _ => []

/-- The documents of an operation have one representation. -/
def Canonical (o : Operation) : Prop :=
  ∀ v ∈ o.documents, v.Canonical

/-- **The service version that an operation may change.** -/
def Writes : Operation → Target → Prop
  | .create _ planned, t | .update _ _ planned, t => State.Addresses planned t
  | .delete _ current, t => State.Addresses current t
  | _, _ => False

/-- **The service version that an operation looks at.** -/
def Reads : Operation → Target → Prop
  | .read _ current, t => State.Addresses current t
  | .importResource _ id, t => Provider.Identifies id t
  | _, _ => False

/-- **The requests that an operation may make**: those that change the service version that it may
change, and those that list the one that it looks at. -/
def MayAsk (o : Operation) (c : Call) : Prop :=
  (o.Writes c.target ∧ c.isList = false) ∨ (o.Reads c.target ∧ c.isList = true)

/-- The resource type that an operation is about. -/
def type? : Operation → Option String
  | .validateProviderConfig _ | .configure _ | .stop => none
  | .validateResourceConfig type _ | .plan type _ _ _ | .create type _ | .read type _
  | .update type _ _ | .delete type _ | .importResource type _ => some type

/-- **The operations that need a connection**: those that create, read, update, delete or import a
resource of a known type, where an identity must name a service version. -/
def UsesClient : Operation → Prop
  | .create type _ | .read type _ | .update type _ _ | .delete type _ =>
    ∃ kind : ServiceKind, type = kind.resourceType
  | .importResource type id =>
    (∃ kind : ServiceKind, type = kind.resourceType) ∧ ∃ t, Provider.parseImportId id = .ok t
  | _ => False

end Rpc.Operation

namespace Provider

variable {σ α β : Type} {remote : Remote σ} {kind : ServiceKind} {prior planned current : Json}

/-! ## Requests -/

/-- What is done to the service version of a state asks about this version only. -/
theorem confined_at_target {state : Json} {lists : Bool} {act : Target → Action σ α}
    (h : ∀ t, remote.Confined (fun c => c.target = t ∧ c.isList = lists) Fault.OfInput (act t)) :
    remote.Confined (fun c => State.target state = .ok c.target ∧ c.isList = lists) Fault.OfInput
      (Action.ofExcept (State.target state) >>= act) := by
  apply Remote.confined_ofExcept_bind
  · intro fault hfault
    obtain ⟨m, rfl⟩ := State.exists_validation_of_target hfault
    trivial
  · intro t ht
    apply (h t).mono
    · rintro c ⟨rfl, hlist⟩
      exact ⟨ht, hlist⟩
    · exact fun fault hfault => hfault

theorem confined_create : remote.Confined (fun c =>
    State.target (State.normalize (State.schemaOf kind) planned) = .ok c.target ∧
      c.isList = false) Fault.OfInput (create remote kind planned) := by
  unfold create
  apply confined_at_target
  intro t
  exact Reconcile.confined_endpoints.bind fun _ => Remote.confined_pure _

theorem confined_update : remote.Confined (fun c =>
    State.target (State.normalize (State.schemaOf kind) planned) = .ok c.target ∧
      c.isList = false) Fault.OfInput (update remote kind prior planned) := by
  unfold update
  apply confined_at_target
  intro t
  exact Reconcile.confined_endpoints.bind fun _ => Remote.confined_pure _

theorem confined_delete : remote.Confined (fun c =>
    State.target current = .ok c.target ∧ c.isList = false) Fault.OfInput
      (delete remote kind current) := by
  unfold delete
  apply confined_at_target
  intro t
  exact Reconcile.confined_endpoints

theorem confined_read : remote.Confined (fun c =>
    State.target current = .ok c.target ∧ c.isList = true) Fault.OfInput
      (read remote kind current) := by
  unfold read
  apply confined_at_target
  intro t
  exact Reconcile.confined_currentRecords.bind fun _ => Remote.confined_pure _

/-! ## Operations over the connection -/

variable {around : Surroundings σ} {z : Session σ} {o : Operation}

/-- Without a connection, nothing is done over it. -/
theorem connected_of_none {use : Remote σ → Action σ α} (h : z.link = none) :
    connected use z = (.error .notConfigured, z) := by
  unfold connected
  rw [h]

/-- What is done over a connection changes what is behind it. -/
theorem connected_of_some {use : Remote σ → Action σ α} (h : z.link = some remote) :
    connected use z =
      ((use remote z.outside).1, { z with outside := (use remote z.outside).2 }) := by
  unfold connected
  rw [h]
  rfl

theorem connected_bind_pure (use : Remote σ → Action σ α) (f : α → β) :
    (connected use >>= fun a => pure (f a)) =
      connected fun remote => use remote >>= fun a => pure (f a) := by
  funext z
  cases h : z.link with
  | none => rw [Action.bind_of_error (connected_of_none h), connected_of_none h]
  | some remote =>
    rw [connected_of_some h]
    rcases hrun : use remote z.outside with ⟨fault | a, s'⟩
    · have hz : connected use z = (.error fault, { z with outside := s' }) := by
        rw [connected_of_some h, hrun]
      rw [Action.bind_of_error hrun, Action.bind_of_error hz]
    · have hz : connected use z = (.ok a, { z with outside := s' }) := by
        rw [connected_of_some h, hrun]
      rw [Action.bind_of_ok hrun, Action.bind_of_ok hz]
      rfl

/-- What is done over a connection makes only requests that the operation may make, and fails with
their answers or for its input. -/
def Permits (o : Operation) (use : Remote σ → Action σ α) : Prop :=
  ∀ remote : Remote σ,
    remote.Confined (fun c => o.Canonical → o.MayAsk c) Fault.OfInput (use remote)

/-- **What the operations that need a connection do over it**: they make requests that they may
make. -/
theorem exists_connected (around : Surroundings σ) (h : o.UsesClient) :
    ∃ use, o.perform (plugin around) = connected use ∧ Permits o use := by
  cases o with
  | validateProviderConfig v => cases h
  | configure v => cases h
  | stop => cases h
  | validateResourceConfig type config => cases h
  | plan type prior proposed config => cases h
  | create type planned =>
    obtain ⟨kind, rfl⟩ := h
    refine ⟨fun remote => create remote kind planned, funext (ofKind_bind _), ?_⟩
    intro remote
    apply confined_create.mono
    · rintro c ⟨ht, hlist⟩ hc
      exact .inl ⟨State.addresses_of_target_normalize (hc planned List.mem_cons_self) ht, hlist⟩
    · exact fun fault hfault => hfault
  | read type current =>
    obtain ⟨kind, rfl⟩ := h
    refine ⟨fun remote => read remote kind current, funext (ofKind_bind _), ?_⟩
    intro remote
    apply confined_read.mono
    · rintro c ⟨ht, hlist⟩ -
      exact .inr ⟨State.addresses_of_target ht, hlist⟩
    · exact fun fault hfault => hfault
  | update type prior planned =>
    obtain ⟨kind, rfl⟩ := h
    refine ⟨fun remote => update remote kind prior planned, funext (ofKind_bind _), ?_⟩
    intro remote
    apply confined_update.mono
    · rintro c ⟨ht, hlist⟩ hc
      have hplanned : planned.Canonical := hc planned (List.mem_cons_of_mem _ List.mem_cons_self)
      exact .inl ⟨State.addresses_of_target_normalize hplanned ht, hlist⟩
    · exact fun fault hfault => hfault
  | delete type current =>
    obtain ⟨kind, rfl⟩ := h
    refine ⟨fun remote => delete remote kind current, funext (ofKind_bind _), ?_⟩
    intro remote
    apply confined_delete.mono
    · rintro c ⟨ht, hlist⟩ -
      exact .inl ⟨State.addresses_of_target ht, hlist⟩
    · exact fun fault hfault => hfault
  | importResource type id =>
    obtain ⟨⟨kind, rfl⟩, t, ht⟩ := h
    refine ⟨fun remote => read remote kind (importState t) >>= fun state =>
      pure [⟨kind.resourceType, state⟩], ?_, ?_⟩
    · rw [← connected_bind_pure]
      funext z
      refine (ofKind_bind _ z).trans ?_
      exact Action.ofExcept_bind_of_ok ht
    · intro remote
      apply Remote.Confined.bind
      · apply confined_read.mono
        · rintro c ⟨hread, hlist⟩ -
          obtain rfl := Except.ok.inj ((target_importState ht).symm.trans hread)
          exact .inr ⟨identifies_of_parseImportId ht, hlist⟩
        · exact fun fault hfault => hfault
      · exact fun state => Remote.confined_pure _

/-! ## The other operations -/

theorem kindOf_of_unknown {type : String} (h : ∀ kind : ServiceKind, type ≠ kind.resourceType) :
    State.kindOf type = .error (.unknownResource type) := by
  have hnone : ServiceKind.ofResourceType? type = none := by
    apply List.find?_eq_none.2
    intro kind _ hkind
    exact h kind (of_decide_eq_true hkind).symm
  unfold State.kindOf
  rw [hnone]

/-- **Operations on resources of an unknown type** fail, whatever else is given to them. -/
theorem perform_of_unknown {type : String} (htype : o.type? = some type)
    (h : ∀ kind : ServiceKind, type ≠ kind.resourceType) (z : Session σ) :
    o.perform (plugin around) z = (.error (.unknownResource type), z) := by
  have hkind := kindOf_of_unknown h
  cases o with
  | validateProviderConfig v => cases htype
  | configure v => cases htype
  | stop => cases htype
  | _ =>
    obtain rfl := Option.some.inj htype
    exact Action.bind_of_error (congrArg (·, z) hkind)

/-- **The operations that neither use nor change the connection** have a known outcome. -/
theorem exists_outcome (around : Surroundings σ) (hstop : o ≠ .stop)
    (hconfigure : ∀ v, o ≠ .configure v) (h : ¬o.UsesClient) :
    ∃ r, ∀ z : Session σ, o.perform (plugin around) z = (r, z) := by
  by_cases hunknown : ∃ type, o.type? = some type ∧ ∀ kind : ServiceKind, type ≠ kind.resourceType
  · obtain ⟨type, htype, hunknown⟩ := hunknown
    exact ⟨_, perform_of_unknown htype hunknown⟩
  · have hknown : ∀ type, o.type? = some type → ∃ kind : ServiceKind, type = kind.resourceType := by
      intro type htype
      by_contra hnone
      exact hunknown ⟨type, htype, not_exists.1 hnone⟩
    cases o with
    | validateProviderConfig v => exact ⟨_, fun z => rfl⟩
    | configure v => exact absurd rfl (hconfigure v)
    | stop => exact absurd rfl hstop
    | validateResourceConfig type config =>
      obtain ⟨kind, rfl⟩ := hknown type rfl
      exact ⟨_, ofKind_bind _⟩
    | plan type prior proposed config =>
      obtain ⟨kind, rfl⟩ := hknown type rfl
      exact ⟨_, ofKind_bind _⟩
    | importResource type id =>
      obtain ⟨kind, rfl⟩ := hknown type rfl
      cases hid : parseImportId id with
      | ok t => exact absurd ⟨⟨kind, rfl⟩, t, hid⟩ h
      | error fault =>
        refine ⟨.error fault, ?_⟩
        intro z
        refine (ofKind_bind _ z).trans ?_
        exact Action.bind_of_error (congrArg (·, z) hid)
    | _ => exact absurd (hknown _ rfl) h

/-- **What an operation does**: it stops or configures the provider, or it does nothing but make
requests that it may make, over the connection, or its outcome is known and it does nothing. -/
theorem perform_cases (around : Surroundings σ) (o : Operation) :
    o = .stop ∨ (∃ v, o = .configure v) ∨ (o ≠ .stop ∧ (∀ v, o ≠ .configure v) ∧
      ((∃ use, o.perform (plugin around) = connected use ∧ Permits o use) ∨
        ∃ r, ∀ z : Session σ, o.perform (plugin around) z = (r, z))) := by
  by_cases hstop : o = .stop
  · exact .inl hstop
  · by_cases hconfigure : ∃ v, o = .configure v
    · exact .inr (.inl hconfigure)
    · have hother : ∀ v, o ≠ .configure v := not_exists.1 hconfigure
      refine .inr (.inr ⟨hstop, hother, ?_⟩)
      by_cases huses : o.UsesClient
      · exact .inl (exists_connected around huses)
      · exact .inr (exists_outcome around hstop hother huses)

end Provider

end LoggingProvider
