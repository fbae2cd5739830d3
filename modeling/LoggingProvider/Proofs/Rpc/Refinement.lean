import LoggingProvider.Proofs.Json.Printer
import LoggingProvider.Proofs.Provider.Operations
import LoggingProvider.Proofs.Rpc.Operation
import LoggingProvider.Remote.Store

/-!
# Serving is running in process

A sequence of requests served over a plugin is a sequence of its operations in process: those that
the requests ask for, on the documents that their payloads denote. To tell that nothing else is
performed, a plugin is wrapped in one that records its operations.

The state of the provider includes what is behind its connection, on whatever interface. A state
that stays the same says that no request was made, also of an interface that records its requests.

## Main definitions

* `Plugin.recorded`: a plugin that records its operations
* `Rpc.Serves`, `Rpc.Run`: what serving a request, and a sequence of them, amounts to in process

## Main results

* `Rpc.Serves.state_eq_nil_iff`: an answer has a state or a finding, but not both
* `Rpc.exists_serves`: one request served over the provider
* `Rpc.serving_refines_operations`: a sequence of requests served over the provider
-/

namespace LoggingProvider

open Rpc in
/-- The action of an operation, which is added to a record. -/
def Rpc.Operation.recording {σ α : Type} (o : Operation) (act : Action σ α) :
    Action (σ × List Operation) α := fun s =>
  ((act s.1).1, (act s.1).2, s.2 ++ [o])

/-- **A plugin that records its operations**, the first one first. -/
def Plugin.recorded {σ : Type} (p : Plugin σ) : Plugin (σ × List Rpc.Operation) where
  schema := p.schema
  metadata := p.metadata
  validateProviderConfig config :=
    Rpc.Operation.recording (.validateProviderConfig config) (p.validateProviderConfig config)
  configure config := Rpc.Operation.recording (.configure config) (p.configure config)
  stop := Rpc.Operation.recording .stop p.stop
  validateResourceConfig type config :=
    Rpc.Operation.recording (.validateResourceConfig type config)
      (p.validateResourceConfig type config)
  plan type prior proposed config :=
    Rpc.Operation.recording (.plan type prior proposed config) (p.plan type prior proposed config)
  create type planned := Rpc.Operation.recording (.create type planned) (p.create type planned)
  read type current := Rpc.Operation.recording (.read type current) (p.read type current)
  update type prior planned :=
    Rpc.Operation.recording (.update type prior planned) (p.update type prior planned)
  delete type current := Rpc.Operation.recording (.delete type current) (p.delete type current)
  importResource type id :=
    Rpc.Operation.recording (.importResource type id) (p.importResource type id)

namespace Rpc

variable {σ : Type} {p : Plugin σ} {z z' : σ} {r : Request} {response : Response}
  {os : List Operation}

theorem Operation.perform_recorded (p : Plugin σ) (o : Operation) :
    o.perform p.recorded = o.recording (o.perform p) := by
  cases o <;> rfl

/-! ## One request -/

/-- **What serving a request amounts to in process**: the answer, the state after it and the
operations that are performed. The last form is a request with a malformed payload, which performs
nothing and leaves the state as it is. -/
inductive Serves (p : Plugin σ) : σ → Request → Response → σ → List Operation → Prop
  | metadata (z : σ) :
    Serves p z .getMetadata (.metadata p.metadata.planDestroy p.metadata.resources []) z []
  | schema (z : σ) {provider : SchemaMessage} {resources : Dict SchemaMessage}
    (hprovider : provider.Tells p.schema.provider)
    (hresources : List.Forall₂ (fun m e => m.1 = e.1 ∧ m.2.Tells e.2) resources
      p.schema.resources) : Serves p z .getSchema (.schema provider resources []) z []
  | performed {z z' : σ} {r : Request} {o : Operation} {result : o.Result} {response : Response}
    (hasks : r.Asks o) (hrun : o.perform p z = (.ok result, z'))
    (hcarried : o.Carried result response) : Serves p z r response z' [o]
  | failed {z z' : σ} {r : Request} {o : Operation} {fault : Fault} {response : Response}
    (hasks : r.Asks o) (hrun : o.perform p z = (.error fault, z'))
    (hrefusal : r.refusal fault.text = some response) : Serves p z r response z' [o]
  | malformed {z : σ} {r : Request} {reason : String} {response : Response} (h : r.Malformed)
    (hrefusal : r.refusal ("Serialization error" ++ reason) = some response) :
    Serves p z r response z []

/-- **An answer with a state has no findings**, and one with findings has no state. -/
theorem Serves.state_eq_nil_iff {bytes : Bytes} {found : List Finding}
    (h : Serves p z r (.state bytes found) z' os) : bytes = [] ↔ found ≠ [] := by
  generalize hresponse : Response.state bytes found = response at h
  cases h with
  | metadata | schema => cases hresponse
  | @performed _ _ o _ _ _ _ hcarried =>
    subst hresponse
    cases o with
    | create | read | update =>
      obtain ⟨bytes, hstate, hcarries⟩ := hcarried
      obtain ⟨rfl, rfl⟩ := Response.state.inj hstate
      exact iff_of_false hcarries.ne_nil fun hfound => hfound rfl
    | validateProviderConfig | configure | validateResourceConfig | importResource =>
      obtain ⟨_, hother, -⟩ := hcarried
      cases hother
    | plan =>
      obtain ⟨_, _, hother, -⟩ := hcarried
      cases hother
    | stop | delete => cases hcarried
  | failed _ _ hrefusal | malformed _ hrefusal =>
    subst hresponse
    cases r <;> simp [Request.refusal] at hrefusal
    all_goals simp [← hrefusal.1, ← hrefusal.2]

/-- **A malformed request** performs nothing, leaves the state as it is, and is refused. -/
theorem Serves.of_malformed (h : Serves p z r response z' os) (hmalformed : r.Malformed) :
    z' = z ∧ os = [] ∧ ∃ reason, r.refusal ("Serialization error" ++ reason) = some response := by
  cases h with
  | metadata | schema =>
    obtain ⟨bytes, hmem, -⟩ := hmalformed
    cases hmem
  | performed hasks _ _ | failed hasks _ _ => exact absurd hmalformed hasks.not_malformed
  | malformed _ hrefusal => exact ⟨rfl, rfl, _, hrefusal⟩

/-- Performing over a plugin that records leads to the same outcome and adds one entry. -/
theorem answer_recorded (p : Plugin σ) (o : Operation) (z : σ) (record : List Operation) :
    answer o.respond (o.perform p.recorded) (z, record) =
      ((answer o.respond (o.perform p) z).1, (answer o.respond (o.perform p) z).2,
        record ++ [o]) := by
  rw [Operation.perform_recorded]
  rfl

variable (around : Surroundings σ)

/-- **One request served over the provider**, with the operations that are performed for it. -/
theorem exists_serves (r : Request) (z : Session σ) : ∃ response z' os,
    Serves (Provider.plugin around) z r response z' os ∧
      serve (Provider.plugin around) r z = (response, z') ∧
      ∀ record, serve (Provider.plugin around).recorded r (z, record) =
        (response, z', record ++ os) := by
  by_cases hmetadata : r = .getMetadata
  · subst hmetadata
    exact ⟨_, _, _, .metadata z, rfl, fun _ => by rw [List.append_nil]; rfl⟩
  by_cases hschema : r = .getSchema
  · subst hschema
    have hresources : List.Forall₂ (fun m e => m.1 = e.1 ∧ m.2.Tells e.2)
        (Dict.mapValues SchemaMessage.ofSchema (Provider.plugin around).schema.resources)
        (Provider.plugin around).schema.resources :=
      List.forall₂_map_left_iff.2
        (List.forall₂_same.2 fun e _ => ⟨rfl, SchemaMessage.tells_ofSchema e.2⟩)
    exact ⟨_, _, _, .schema z (SchemaMessage.tells_ofSchema _) hresources, rfl,
      fun _ => by rw [List.append_nil]; rfl⟩
  rcases r.asks_or_refused hmetadata hschema with
    ⟨o, hasks⟩ | ⟨hmalformed, cause, response, hrefusal, hserve⟩
  · rcases hrun : o.perform (Provider.plugin around) z with ⟨outcome, z'⟩
    refine ⟨o.respond outcome, z', [o], ?_, ?_, fun record => ?_⟩
    · cases outcome with
      | ok result => exact .performed hasks hrun (o.carried_respond result)
      | error fault =>
        -- Giving up the connection never fails, so the answer is a refusal.
        have hstop : o ≠ .stop := by
          rintro rfl
          cases hrun
        exact .failed hasks hrun (hasks.refusal_eq hstop fault)
    · rw [serve_of_asks _ hasks, answer_eq, hrun]
    · rw [serve_of_asks _ hasks, answer_recorded, answer_eq, hrun]
  · have htext : (Fault.serialization cause).text =
        "Serialization error" ++ (": " ++ cause.message) := by
      rw [← String.append_assoc]
      rfl
    rw [htext] at hrefusal
    exact ⟨response, z, [], .malformed hmalformed hrefusal, hserve _ _,
      fun record => by rw [hserve, List.append_nil]⟩

/-! ## A sequence of requests -/

/-- **What serving a sequence of requests amounts to in process**: each in the state that the one
before it leaves. -/
inductive Run (p : Plugin σ) : σ → List Request → List Response → σ → List Operation → Prop
  | nil (z : σ) : Run p z [] [] z []
  | cons {z z' z'' : σ} {r : Request} {rs : List Request} {response : Response}
    {responses : List Response} {os os' : List Operation} (h : Serves p z r response z' os)
    (hrest : Run p z' rs responses z'' os') :
    Run p z (r :: rs) (response :: responses) z'' (os ++ os')

theorem Run.state_eq_nil_iff {rs : List Request} {responses : List Response}
    (h : Run p z rs responses z' os) {bytes : Bytes} {found : List Finding}
    (hmem : .state bytes found ∈ responses) : bytes = [] ↔ found ≠ [] := by
  induction h with
  | nil => cases hmem
  | cons h _ ih =>
    rcases List.mem_cons.1 hmem with rfl | hmem
    · exact h.state_eq_nil_iff
    · exact ih hmem

theorem mapM_serve_cons (p : Plugin σ) (r : Request) (rs : List Request) (z : σ) :
    (r :: rs).mapM (serve p) z =
      ((serve p r z).1 :: (rs.mapM (serve p) (serve p r z).2).1,
        (rs.mapM (serve p) (serve p r z).2).2) := by
  rw [List.mapM_cons]
  rfl

/-- **Serving refines running in process.** A sequence of requests served over the provider, on any
interface, leads to the state and the answers of the operations that the requests ask for: from each
answer the result of its operation can be read, or it has nothing but the fault. A request with a
malformed payload performs no operation and leaves the state as it is. Of a state and findings, an
answer to a creation, a reading or an update has exactly one. -/
theorem serving_refines_operations (requests : List Request) (z : Session σ) :
    ∃ responses z' os, Run (Provider.plugin around) z requests responses z' os ∧
      requests.mapM (serve (Provider.plugin around)) z = (responses, z') ∧
      (∀ record, requests.mapM (serve (Provider.plugin around).recorded) (z, record) =
        (responses, z', record ++ os)) ∧
      ∀ bytes found, .state bytes found ∈ responses → (bytes = [] ↔ found ≠ []) := by
  suffices h : ∃ responses z' os, Run (Provider.plugin around) z requests responses z' os ∧
      requests.mapM (serve (Provider.plugin around)) z = (responses, z') ∧
      ∀ record, requests.mapM (serve (Provider.plugin around).recorded) (z, record) =
        (responses, z', record ++ os) by
    obtain ⟨responses, z', os, hrun, hserve, hrecord⟩ := h
    exact ⟨responses, z', os, hrun, hserve, hrecord, fun _ _ => hrun.state_eq_nil_iff⟩
  induction requests generalizing z with
  | nil => exact ⟨[], z, [], .nil z, rfl, fun record => by rw [List.append_nil]; rfl⟩
  | cons r rs ih =>
    obtain ⟨response, z₁, os, hone, hserve, hrecord⟩ := exists_serves around r z
    obtain ⟨responses, z', os', hrun, hserves, hrecords⟩ := ih z₁
    refine ⟨response :: responses, z', os ++ os', .cons hone hrun, ?_, fun record => ?_⟩
    · rw [mapM_serve_cons, hserve, hserves]
    · rw [mapM_serve_cons, hrecord, hrecords, List.append_assoc]

/-- A brace that is not closed denotes nothing. -/
theorem not_denotes_brace (v : Json) : ¬Denotes [0x7b] v := by
  rintro (_ | ⟨-, hv⟩)
  have hnone : (Json.parseBytes [0x7b]).toOption.isNone := by decide +kernel
  rw [hv] at hnone
  cases hnone

/-- An update with a broken prior state, and then a stop: the answer to the update has a finding,
the store is asked nothing, and the connection is given up. -/
theorem serving_refines_operations_of_broken_update : ∃ responses found,
    [Request.update "fastly_service_vcl" [0x7b] [], .stop].mapM
        (serve (Provider.plugin (.silent Store))) ⟨some Store.remote, Store.empty⟩ =
      (responses, ⟨none, Store.empty⟩) ∧ .state [] found ∈ responses ∧ found ≠ [] := by
  obtain ⟨responses, z', os, hrun, hserve, -, hone⟩ := serving_refines_operations (.silent Store)
    [.update "fastly_service_vcl" [0x7b] [], .stop] ⟨some Store.remote, Store.empty⟩
  rcases hrun with _ | ⟨hupdate, _ | ⟨hstop, ⟨⟩⟩⟩
  obtain ⟨rfl, rfl, reason, hrefusal⟩ :=
    hupdate.of_malformed ⟨_, List.mem_cons_self, not_denotes_brace⟩
  obtain rfl := Option.some.inj hrefusal
  have hfound := (hone _ _ List.mem_cons_self).1 rfl
  cases hstop with
  | performed hasks hrun hcarried =>
    cases hasks
    cases hrun
    cases hcarried
    exact ⟨_, _, hserve, List.mem_cons_self, hfound⟩
  | failed hasks hrun _ =>
    cases hasks
    cases hrun
  | malformed h _ =>
    obtain ⟨bytes, hmem, -⟩ := h
    cases hmem

end Rpc

end LoggingProvider
