import LoggingProvider.Diagnostic
import LoggingProvider.Provider.Change
import LoggingProvider.Remote.Basic
import LoggingProvider.Schema.Basic

/-!
# Plugins

A plugin is what a host sees of a provider: its schemas, and operations on states that are
documents. Some operations have a meaning when a provider does not give them one.

## Main definitions

* `Plugin`: the operations of a provider, as actions on states
-/

namespace LoggingProvider

/-- **The operations of a provider**, as actions on states `σ`. -/
structure Plugin (σ : Type) where
  /-- The schemas of the configuration and of the resource types. -/
  schema : ProviderSchema
  /-- The resource types and what the provider can do. -/
  metadata : Metadata := ⟨Dict.names schema.resources, false⟩
  /-- The findings about a configuration of the provider. -/
  validateProviderConfig : Json → Action σ (List Diagnostic) := fun _ => pure []
  /-- The provider is configured, or findings say why not. -/
  configure : Json → Action σ (List Diagnostic)
  /-- The provider gives up what it holds. -/
  stop : Action σ Unit := pure ()
  /-- The findings about a configuration of a resource. -/
  validateResourceConfig : String → Json → Action σ (List Diagnostic) := fun _ _ => pure []
  /-- The plan from a prior state, if there is one, to a proposed state. -/
  plan : String → Option Json → Json → Json → Action σ Plan
  /-- The state of a resource that is created as planned. -/
  create : String → Json → Action σ Json
  /-- The state of a resource as it is found. -/
  read : String → Json → Action σ Json
  /-- The state of a resource that is changed from a prior state as planned. -/
  update : String → Json → Json → Action σ Json
  /-- The resource of a state is given up. -/
  delete : String → Json → Action σ Unit
  /-- The resources found under an identity. -/
  importResource : String → String → Action σ (List Imported) := fun type _ =>
    throw (.unknownResource ("Import not supported for resource type: " ++ type))

end LoggingProvider
