import LoggingProvider.Proofs.Outcome
import LoggingProvider.Proofs.Remote.Action
import LoggingProvider.Proofs.Rpc.Answer

/-!
# Requests and operations

A request asks for an operation of the plugin on the documents that its payloads denote. No bytes
denote null, and other bytes denote the document that is read from them. A request with a payload
that denotes nothing asks for no operation.

Serving a request that asks for an operation is performing it and answering with its outcome;
serving any other request performs nothing.

## Main definitions

* `Rpc.Operation`, `Rpc.Operation.perform`: the operations of a plugin, in process
* `Rpc.Request.Asks`, `Rpc.Request.Malformed`: what a request asks for
* `Rpc.Operation.Carried`, `Rpc.Request.refusal`: the answers to a result and to a fault

## Main results

* `Rpc.Operation.carried_respond`: the answer to a result carries it
* `Rpc.serve_of_asks`: a request that asks for an operation is served by performing it
* `Rpc.Request.asks_or_refused`: a request asks for an operation or is refused
-/

namespace LoggingProvider

namespace Rpc

variable {σ α : Type}

/-! ## Operations -/

/-- **An operation of a plugin** with what is given to it. -/
inductive Operation where
  | validateProviderConfig (config : Json)
  | configure (config : Json)
  | stop
  | validateResourceConfig (type : String) (config : Json)
  | plan (type : String) (prior : Option Json) (proposed config : Json)
  | create (type : String) (planned : Json)
  | read (type : String) (current : Json)
  | update (type : String) (prior planned : Json)
  | delete (type : String) (current : Json)
  | importResource (type : String) (id : String)

namespace Operation

/-- What an operation results in. -/
@[reducible]
def Result : Operation → Type
  | .validateProviderConfig _ | .configure _ | .validateResourceConfig _ _ => List Diagnostic
  | .stop | .delete _ _ => Unit
  | .plan _ _ _ _ => Plan
  | .create _ _ | .read _ _ | .update _ _ _ => Json
  | .importResource _ _ => List Imported

/-- **The operation in process.** -/
def perform (p : Plugin σ) : (o : Operation) → Action σ o.Result
  | .validateProviderConfig config => p.validateProviderConfig config
  | .configure config => p.configure config
  | .stop => p.stop
  | .validateResourceConfig type config => p.validateResourceConfig type config
  | .plan type prior proposed config => p.plan type prior proposed config
  | .create type planned => p.create type planned
  | .read type current => p.read type current
  | .update type prior planned => p.update type prior planned
  | .delete type current => p.delete type current
  | .importResource type id => p.importResource type id

/-- **An answer that carries a result**: messages that tell its findings, or bytes that carry its
documents and no findings. -/
def Carried : (o : Operation) → o.Result → Response → Prop
  | .validateProviderConfig _, found, response | .configure _, found, response
  | .validateResourceConfig _ _, found, response =>
    ∃ messages, response = .findings messages ∧ List.Forall₂ Finding.Tells messages found
  | .stop, _, response => response = .stopped ""
  | .delete _ _, _, response => response = .findings []
  | .plan _ _ _ _, made, response => ∃ state changes,
    response = .planned state changes made.replaces [] ∧ Carries state made.state ∧
      List.Forall₂ ChangeMessage.Tells changes made.changes
  | .create _ _, state, response | .read _ _, state, response | .update _ _ _, state, response =>
    ∃ bytes, response = .state bytes [] ∧ Carries bytes state
  | .importResource _ _, resources, response => ∃ messages,
    response = .imported messages [] ∧ List.Forall₂ ImportedMessage.Tells messages resources

end Operation

/-! ## What requests ask for -/

namespace Request

/-- The payloads of a request. -/
def payloads : Request → List Bytes
  | .getMetadata | .getSchema | .stop | .importState _ _ => []
  | .validateProviderConfig config | .configure config | .validateResourceConfig _ config =>
    [config]
  | .plan _ prior proposed config => [prior, proposed, config]
  | .create _ planned => [planned]
  | .read _ current | .delete _ current => [current]
  | .update _ prior planned => [prior, planned]

/-- **A request with a payload that denotes nothing.** -/
def Malformed (r : Request) : Prop :=
  ∃ bytes ∈ r.payloads, ∀ v, ¬Denotes bytes v

/-- **The operation that a request asks for**, on the documents that its payloads denote. A plan
with null for the prior state is one for a resource that does not exist yet. -/
inductive Asks : Request → Operation → Prop
  | validateProviderConfig {bytes : Bytes} {config : Json} (h : Denotes bytes config) :
    Asks (.validateProviderConfig bytes) (.validateProviderConfig config)
  | configure {bytes : Bytes} {config : Json} (h : Denotes bytes config) :
    Asks (.configure bytes) (.configure config)
  | stop : Asks .stop .stop
  | validateResourceConfig (type : String) {bytes : Bytes} {config : Json}
    (h : Denotes bytes config) :
    Asks (.validateResourceConfig type bytes) (.validateResourceConfig type config)
  | planNew (type : String) {bytes bytes' bytes'' : Bytes} {proposed config : Json}
    (h : Denotes bytes .null) (h' : Denotes bytes' proposed) (h'' : Denotes bytes'' config) :
    Asks (.plan type bytes bytes' bytes'') (.plan type none proposed config)
  | plan (type : String) {bytes bytes' bytes'' : Bytes} {prior proposed config : Json}
    (hprior : prior ≠ .null) (h : Denotes bytes prior) (h' : Denotes bytes' proposed)
    (h'' : Denotes bytes'' config) :
    Asks (.plan type bytes bytes' bytes'') (.plan type (some prior) proposed config)
  | create (type : String) {bytes : Bytes} {planned : Json} (h : Denotes bytes planned) :
    Asks (.create type bytes) (.create type planned)
  | read (type : String) {bytes : Bytes} {current : Json} (h : Denotes bytes current) :
    Asks (.read type bytes) (.read type current)
  | update (type : String) {bytes bytes' : Bytes} {prior planned : Json}
    (h : Denotes bytes prior) (h' : Denotes bytes' planned) :
    Asks (.update type bytes bytes') (.update type prior planned)
  | delete (type : String) {bytes : Bytes} {current : Json} (h : Denotes bytes current) :
    Asks (.delete type bytes) (.delete type current)
  | importState (type id : String) : Asks (.importState type id) (.importResource type id)

/-- **The answer that refuses a request** with a text: nothing but one finding, an error with that
text. The requests without an answer of this kind are those that cannot be refused. -/
def refusal (r : Request) (text : String) : Option Response :=
  let found : List Finding := [⟨1, text, "", ""⟩]
  match r with
  | .getMetadata | .getSchema | .stop => none
  | .validateProviderConfig _ | .configure _ | .validateResourceConfig _ _ | .delete _ _ =>
    some (.findings found)
  | .plan _ _ _ _ => some (.planned [] [] false found)
  | .create _ _ | .read _ _ | .update _ _ _ => some (.state [] found)
  | .importState _ _ => some (.imported [] found)

end Request

/-! ## Payloads -/

section Payload

variable {bytes : Bytes} {v : Json} {fault : Fault}

theorem decode_eq_ok_iff : decode bytes = .ok v ↔ Denotes bytes v := by
  unfold decode
  by_cases h : bytes = []
  · subst h
    refine ⟨fun hv => Except.ok.inj hv ▸ .absent, fun hv => ?_⟩
    rcases hv with _ | ⟨h, -⟩
    · rfl
    · exact absurd rfl h
  · rw [if_neg (by simpa using h), Outcome.mapError_eq_ok_iff]
    refine ⟨.document h, fun hv => ?_⟩
    rcases hv with _ | ⟨-, hv⟩
    · exact absurd rfl h
    · exact hv

/-- What cannot be read denotes nothing, and the fault is one of reading. -/
theorem serialization_of_decode (h : decode bytes = .error fault) :
    (∃ cause, fault = .serialization cause) ∧ ∀ v, ¬Denotes bytes v := by
  refine ⟨?_, fun v hv => ?_⟩
  · unfold decode at h
    split at h
    · cases h
    · cases hv : Json.parseBytes bytes with
      | ok v =>
        rw [hv] at h
        cases h
      | error cause =>
        rw [hv] at h
        exact ⟨cause, (Except.error.inj h).symm⟩
  · rw [← decode_eq_ok_iff, h] at hv
    cases hv

variable {respond : Except Fault α → Response} {act : Action σ α} {f : Json → Action σ α} {z : σ}

theorem answer_eq (respond : Except Fault α → Response) (act : Action σ α) (z : σ) :
    answer respond act z = (respond (act z).1, (act z).2) := rfl

/-- An answer goes on with the document that is read. -/
theorem answer_of_denotes (h : Denotes bytes v) :
    answer respond (do let v ← Action.ofExcept (decode bytes); f v) z = answer respond (f v) z := by
  rw [answer_eq, Action.ofExcept_bind_of_ok (decode_eq_ok_iff.2 h), answer_eq]

/-- An answer ends with a payload that cannot be read. -/
theorem answer_of_decode_error (h : decode bytes = .error fault) :
    answer respond (do let v ← Action.ofExcept (decode bytes); f v) z =
      (respond (.error fault), z) := by
  have hread : (Action.ofExcept (decode bytes) : Action σ Json) z = (.error fault, z) := by
    rw [h, Action.ofExcept_apply]
  rw [answer_eq, Action.bind_of_error hread]

end Payload

/-! ## Serving a request -/

/-- The answer to the outcome of an operation. -/
def Operation.respond : (o : Operation) → Except Fault o.Result → Response
  | .validateProviderConfig _ | .configure _ | .validateResourceConfig _ _ => findingsOf
  | .stop => stopOf
  | .plan _ _ _ _ => planOf
  | .create _ _ | .read _ _ | .update _ _ _ => stateOf
  | .delete _ _ => endOf
  | .importResource _ _ => importedOf

/-- **The answer to a result carries it.** -/
theorem Operation.carried_respond (o : Operation) (a : o.Result) :
    o.Carried a (o.respond (.ok a)) := by
  cases o with
  | validateProviderConfig | configure | validateResourceConfig =>
    exact ⟨_, rfl, List.forall₂_map_left_iff.2
      (List.forall₂_same.2 fun d _ => Finding.tells_ofDiagnostic d)⟩
  | stop | delete => rfl
  | plan =>
    exact ⟨_, _, rfl, carries_encode _, List.forall₂_map_left_iff.2
      (List.forall₂_same.2 fun c _ => ChangeMessage.tells_ofChange c)⟩
  | create | read | update => exact ⟨_, rfl, carries_encode _⟩
  | importResource =>
    exact ⟨_, rfl, List.forall₂_map_left_iff.2
      (List.forall₂_same.2 fun i _ => ImportedMessage.tells_ofImported i)⟩

variable {r : Request} {o : Operation}

/-- The payloads of a request that asks for an operation all denote documents. -/
theorem Request.Asks.denotes (h : r.Asks o) : ∀ bytes ∈ r.payloads, ∃ v, Denotes bytes v := by
  cases h with
  | stop | importState => exact nofun
  | planNew _ h h' h'' | plan _ _ h h' h'' =>
    simp only [payloads, List.forall_mem_cons]
    exact ⟨⟨_, h⟩, ⟨_, h'⟩, ⟨_, h''⟩, nofun⟩
  | update _ h h' =>
    simp only [payloads, List.forall_mem_cons]
    exact ⟨⟨_, h⟩, ⟨_, h'⟩, nofun⟩
  | validateProviderConfig h | configure h | validateResourceConfig _ h | create _ h | read _ h
  | delete _ h =>
    simp only [payloads, List.forall_mem_cons]
    exact ⟨⟨_, h⟩, nofun⟩

theorem Request.Asks.not_malformed (h : r.Asks o) : ¬r.Malformed := by
  rintro ⟨bytes, hmem, hnone⟩
  obtain ⟨v, hv⟩ := h.denotes bytes hmem
  exact hnone v hv

/-- The answer to a fault refuses the request, unless it is one to stop. -/
theorem Request.Asks.refusal_eq (h : r.Asks o) (hstop : o ≠ .stop) (fault : Fault) :
    r.refusal fault.text = some (o.respond (.error fault)) := by
  cases h with
  | stop => exact absurd rfl hstop
  | _ => rfl

/-- **A request that asks for an operation** is served by performing it. -/
theorem serve_of_asks (p : Plugin σ) (h : r.Asks o) (z : σ) :
    serve p r z = answer o.respond (o.perform p) z := by
  cases h with
  | stop | importState => rfl
  | planNew _ h h' h'' =>
    exact (answer_of_denotes h).trans ((answer_of_denotes h').trans (answer_of_denotes h''))
  | @plan _ _ _ _ prior _ _ hprior h h' h'' =>
    have hsome : priorOf prior = some prior := by
      cases prior <;> first | exact absurd rfl hprior | rfl
    refine (answer_of_denotes h).trans ((answer_of_denotes h').trans ?_)
    rw [hsome]
    exact answer_of_denotes h''
  | update _ h h' => exact (answer_of_denotes h).trans (answer_of_denotes h')
  | validateProviderConfig h | configure h | validateResourceConfig _ h | create _ h | read _ h
  | delete _ h => exact answer_of_denotes h

/-- **A request that is refused for a payload**: nothing is performed, and the answer tells why the
payload could not be read. -/
def Request.Refused (r : Request) : Prop :=
  r.Malformed ∧ ∃ cause response, r.refusal (Fault.serialization cause).text = some response ∧
    ∀ {τ : Type} (p : Plugin τ) (z : τ), serve p r z = (response, z)

theorem Request.refused_of_decode_error {bytes : Bytes} {fault : Fault} {response : Response}
    (h : decode bytes = .error fault) (hmem : bytes ∈ r.payloads)
    (hrefusal : r.refusal fault.text = some response)
    (hserve : ∀ {τ : Type} (p : Plugin τ) (z : τ), serve p r z = (response, z)) : r.Refused := by
  obtain ⟨⟨cause, rfl⟩, hnone⟩ := serialization_of_decode h
  exact ⟨⟨bytes, hmem, hnone⟩, cause, response, hrefusal, hserve⟩

theorem decode_cases (bytes : Bytes) :
    (∃ fault, decode bytes = .error fault) ∨ ∃ v, Denotes bytes v := by
  cases h : decode bytes with
  | error fault => exact .inl ⟨fault, rfl⟩
  | ok v => exact .inr ⟨v, decode_eq_ok_iff.1 h⟩

/-- A request with one payload asks for an operation on what it denotes, or is refused for it. -/
theorem Request.asks_or_refused_of_payload {bytes : Bytes} {ask : Json → Operation}
    (hasks : ∀ v, Denotes bytes v → r.Asks (ask v)) (hmem : bytes ∈ r.payloads)
    (hrefused : ∀ fault, decode bytes = .error fault → ∃ response,
      r.refusal fault.text = some response ∧
        ∀ {τ : Type} (p : Plugin τ) (z : τ), serve p r z = (response, z)) :
    (∃ o, r.Asks o) ∨ r.Refused := by
  rcases decode_cases bytes with ⟨fault, h⟩ | ⟨v, h⟩
  · obtain ⟨response, hrefusal, hserve⟩ := hrefused fault h
    exact .inr (refused_of_decode_error h hmem hrefusal hserve)
  · exact .inl ⟨_, hasks v h⟩

/-- **A request with payloads** asks for an operation or is refused. -/
theorem Request.asks_or_refused (r : Request) (hmetadata : r ≠ .getMetadata)
    (hschema : r ≠ .getSchema) : (∃ o, r.Asks o) ∨ r.Refused := by
  cases r with
  | getMetadata => exact absurd rfl hmetadata
  | getSchema => exact absurd rfl hschema
  | stop => exact .inl ⟨_, .stop⟩
  | importState type id => exact .inl ⟨_, .importState type id⟩
  | plan type prior proposed config =>
    rcases decode_cases prior with ⟨fault, h⟩ | ⟨v, h⟩
    · exact .inr (refused_of_decode_error h (by simp [payloads]) rfl fun _ _ =>
        answer_of_decode_error h)
    rcases decode_cases proposed with ⟨fault, h'⟩ | ⟨v', h'⟩
    · exact .inr (refused_of_decode_error h' (by simp [payloads]) rfl fun _ _ =>
        (answer_of_denotes h).trans (answer_of_decode_error h'))
    rcases decode_cases config with ⟨fault, h''⟩ | ⟨v'', h''⟩
    · exact .inr (refused_of_decode_error h'' (by simp [payloads]) rfl fun _ _ =>
        (answer_of_denotes h).trans ((answer_of_denotes h').trans (answer_of_decode_error h'')))
    by_cases hnull : v = .null
    · subst hnull
      exact .inl ⟨_, .planNew type h h' h''⟩
    · exact .inl ⟨_, .plan type hnull h h' h''⟩
  | update type prior planned =>
    rcases decode_cases prior with ⟨fault, h⟩ | ⟨v, h⟩
    · exact .inr (refused_of_decode_error h (by simp [payloads]) rfl fun _ _ =>
        answer_of_decode_error h)
    rcases decode_cases planned with ⟨fault, h'⟩ | ⟨v', h'⟩
    · exact .inr (refused_of_decode_error h' (by simp [payloads]) rfl fun _ _ =>
        (answer_of_denotes h).trans (answer_of_decode_error h'))
    · exact .inl ⟨_, .update type h h'⟩
  | validateProviderConfig bytes =>
    exact asks_or_refused_of_payload (fun _ => .validateProviderConfig) List.mem_cons_self
      fun _ h => ⟨_, rfl, fun _ _ => answer_of_decode_error h⟩
  | configure bytes =>
    exact asks_or_refused_of_payload (fun _ => .configure) List.mem_cons_self
      fun _ h => ⟨_, rfl, fun _ _ => answer_of_decode_error h⟩
  | validateResourceConfig type bytes =>
    exact asks_or_refused_of_payload (fun _ => .validateResourceConfig type) List.mem_cons_self
      fun _ h => ⟨_, rfl, fun _ _ => answer_of_decode_error h⟩
  | create type bytes =>
    exact asks_or_refused_of_payload (fun _ => .create type) List.mem_cons_self
      fun _ h => ⟨_, rfl, fun _ _ => answer_of_decode_error h⟩
  | read type bytes =>
    exact asks_or_refused_of_payload (fun _ => .read type) List.mem_cons_self
      fun _ h => ⟨_, rfl, fun _ _ => answer_of_decode_error h⟩
  | delete type bytes =>
    exact asks_or_refused_of_payload (fun _ => .delete type) List.mem_cons_self
      fun _ h => ⟨_, rfl, fun _ _ => answer_of_decode_error h⟩

end Rpc

end LoggingProvider
