import LoggingProvider.Binary64.Basic
import LoggingProvider.Binary64.Shortest
import LoggingProvider.Config
import LoggingProvider.Diagnostic
import LoggingProvider.Dict
import LoggingProvider.Domain.Direction
import LoggingProvider.Domain.Joining
import LoggingProvider.Domain.Name
import LoggingProvider.Domain.Punycode
import LoggingProvider.Domain.Spelling
import LoggingProvider.Endpoint.Basic
import LoggingProvider.Endpoint.Block
import LoggingProvider.Endpoint.Field
import LoggingProvider.Endpoint.Request
import LoggingProvider.Fault
import LoggingProvider.Http.Client
import LoggingProvider.Http.Form
import LoggingProvider.Http.Status
import LoggingProvider.Json.Basic
import LoggingProvider.Json.Decode
import LoggingProvider.Json.Number
import LoggingProvider.Json.Printer
import LoggingProvider.Json.Reader
import LoggingProvider.Json.Record
import LoggingProvider.Json.SyntaxFault
import LoggingProvider.Main
import LoggingProvider.Proofs.Binary64
import LoggingProvider.Proofs.Config.Address
import LoggingProvider.Proofs.Config.Settings
import LoggingProvider.Proofs.Dict
import LoggingProvider.Proofs.Endpoint.Block
import LoggingProvider.Proofs.Endpoint.Cleared
import LoggingProvider.Proofs.Endpoint.Conforming
import LoggingProvider.Proofs.Endpoint.Count
import LoggingProvider.Proofs.Endpoint.Coverage
import LoggingProvider.Proofs.Endpoint.Overlay
import LoggingProvider.Proofs.Endpoint.Record
import LoggingProvider.Proofs.Endpoint.Request
import LoggingProvider.Proofs.Endpoint.Secret
import LoggingProvider.Proofs.Endpoint.Spelling
import LoggingProvider.Proofs.Endpoint.Storable
import LoggingProvider.Proofs.Http.Address
import LoggingProvider.Proofs.Json.Number
import LoggingProvider.Proofs.Json.Printer
import LoggingProvider.Proofs.Json.Reading
import LoggingProvider.Proofs.Json.RoundTrip
import LoggingProvider.Proofs.Json.Same
import LoggingProvider.Proofs.Outcome
import LoggingProvider.Proofs.Provider.Accepted
import LoggingProvider.Proofs.Provider.Announced
import LoggingProvider.Proofs.Provider.Carried
import LoggingProvider.Proofs.Provider.Configuration
import LoggingProvider.Proofs.Provider.Confinement
import LoggingProvider.Proofs.Provider.Connection
import LoggingProvider.Proofs.Provider.Deletion
import LoggingProvider.Proofs.Provider.Duplicates
import LoggingProvider.Proofs.Provider.Identity
import LoggingProvider.Proofs.Provider.Import
import LoggingProvider.Proofs.Provider.Lifecycle
import LoggingProvider.Proofs.Provider.Operations
import LoggingProvider.Proofs.Provider.Paths
import LoggingProvider.Proofs.Provider.Plan
import LoggingProvider.Proofs.Provider.Reading
import LoggingProvider.Proofs.Provider.Refresh
import LoggingProvider.Proofs.Provider.Replacement
import LoggingProvider.Proofs.Provider.Reported
import LoggingProvider.Proofs.Provider.Requests
import LoggingProvider.Proofs.Provider.Schemas
import LoggingProvider.Proofs.Provider.Secret
import LoggingProvider.Proofs.Provider.Stable
import LoggingProvider.Proofs.Provider.State
import LoggingProvider.Proofs.Provider.Update
import LoggingProvider.Proofs.Provider.Verdicts
import LoggingProvider.Proofs.Reconcile.Convergence
import LoggingProvider.Proofs.Reconcile.Creation
import LoggingProvider.Proofs.Reconcile.Difference
import LoggingProvider.Proofs.Reconcile.Fate
import LoggingProvider.Proofs.Reconcile.Footprint
import LoggingProvider.Proofs.Reconcile.Interruption
import LoggingProvider.Proofs.Reconcile.Lockstep
import LoggingProvider.Proofs.Reconcile.Named
import LoggingProvider.Proofs.Reconcile.Order
import LoggingProvider.Proofs.Reconcile.Partition
import LoggingProvider.Proofs.Reconcile.Patch
import LoggingProvider.Proofs.Reconcile.Sameness
import LoggingProvider.Proofs.Reconcile.Secret
import LoggingProvider.Proofs.Reconcile.Stored
import LoggingProvider.Proofs.Remote.Action
import LoggingProvider.Proofs.Remote.History
import LoggingProvider.Proofs.Remote.Script
import LoggingProvider.Proofs.Remote.Steps
import LoggingProvider.Proofs.Remote.Store
import LoggingProvider.Proofs.Remote.Unseen
import LoggingProvider.Proofs.Rpc.Answer
import LoggingProvider.Proofs.Rpc.Operation
import LoggingProvider.Proofs.Rpc.Outline
import LoggingProvider.Proofs.Rpc.Payload
import LoggingProvider.Proofs.Rpc.Refinement
import LoggingProvider.Proofs.Schema.Acceptance
import LoggingProvider.Proofs.Schema.Allowed
import LoggingProvider.Proofs.Schema.Codec
import LoggingProvider.Proofs.Schema.Conformance
import LoggingProvider.Proofs.Schema.Idempotence
import LoggingProvider.Proofs.Schema.Int64
import LoggingProvider.Proofs.Schema.Integer
import LoggingProvider.Proofs.Schema.Limits
import LoggingProvider.Proofs.Schema.Settled
import LoggingProvider.Proofs.Schema.Unset
import LoggingProvider.Proofs.Schema.Verdicts
import LoggingProvider.Proofs.Text.Utf8
import LoggingProvider.Proofs.Url.Authority
import LoggingProvider.Proofs.Url.Segments
import LoggingProvider.Provider.Change
import LoggingProvider.Provider.Changes
import LoggingProvider.Provider.Expectation
import LoggingProvider.Provider.Lifecycle
import LoggingProvider.Provider.Plugin
import LoggingProvider.Provider.Session
import LoggingProvider.Provider.State
import LoggingProvider.Reconcile.Endpoints
import LoggingProvider.Reconcile.Named
import LoggingProvider.Reconcile.Partition
import LoggingProvider.Remote.Basic
import LoggingProvider.Remote.Store
import LoggingProvider.Rpc.Line
import LoggingProvider.Rpc.Message
import LoggingProvider.Rpc.Service
import LoggingProvider.Rpc.Status
import LoggingProvider.Schema.Basic
import LoggingProvider.Schema.Codec
import LoggingProvider.Schema.Normalize
import LoggingProvider.Schema.Validate
import LoggingProvider.Service
import LoggingProvider.Text.Blank
import LoggingProvider.Text.Canonical.Composition
import LoggingProvider.Text.Canonical.Decomposition
import LoggingProvider.Text.Canonical.Order
import LoggingProvider.Text.Hidden
import LoggingProvider.Text.Mark
import LoggingProvider.Text.Quoted
import LoggingProvider.Text.Table
import LoggingProvider.Text.Utf8
import LoggingProvider.Url.Basic
import LoggingProvider.Url.Host
import LoggingProvider.Url.Percent
