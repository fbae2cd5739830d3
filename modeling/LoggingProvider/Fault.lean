import LoggingProvider.Json.SyntaxFault
import LoggingProvider.Reconcile.Partition

/-!
# Faults of the provider

Why an operation of the provider fails: its input is not valid, the provider is not configured, a
request cannot be made, or the remote interface refuses it.

## Main definitions

* `Transmission`: why a request could not be completed
* `Fault`: why an operation fails
* `Fault.text`, `Fault.message`: its wording, with and without the kind of fault
* `Fault.isNotFound`: whether the remote interface does not know what was asked for
-/

namespace LoggingProvider

/-- **Why a request could not be completed.** -/
inductive Transmission where
  /-- The request cannot be built. -/
  | unbuildable
  /-- No answer arrives. -/
  | unanswered
  /-- The answer is not of the wanted shape. -/
  | unreadable
deriving DecidableEq

/-- The wording of an incomplete request. -/
def Transmission.text : Transmission → String
  | .unbuildable => "builder error"
  | .unanswered => "error sending request"
  | .unreadable => "error decoding response body"

/-- **Why an operation of the provider fails.** -/
inductive Fault where
  /-- The input is not valid. -/
  | validation (message : String)
  /-- The configuration is not valid. -/
  | configuration (message : String)
  /-- No resource has the type. -/
  | unknownResource (type : String)
  /-- The provider has no connection. -/
  | notConfigured
  /-- The bytes are no document. -/
  | serialization (cause : Json.SyntaxFault)
  /-- The request could not be completed. -/
  | transmission (cause : Transmission)
  /-- The remote interface refuses the request. -/
  | remote (status : UInt16) (message : String)
  /-- The sets of records cannot be compared. -/
  | diff (cause : Reconcile.DiffFault)
deriving DecidableEq

namespace Fault

/-- **The wording of a fault.** -/
def text : Fault → String
  | .validation m => "Validation error: " ++ m
  | .configuration m => "Configuration error: " ++ m
  | .unknownResource type => "Unknown resource type: " ++ type
  | .notConfigured => "Provider is not configured"
  | .serialization cause => "Serialization error: " ++ cause.message
  | .transmission cause => "HTTP error: " ++ cause.text
  | .remote status m => "Fastly API error (status " ++ toString status.toNat ++ "): " ++ m
  | .diff cause => "Set diff failed: " ++ cause.message

/-- The wording of a fault without its kind. -/
def message : Fault → String
  | .validation m | .configuration m | .unknownResource m | .remote _ m => m
  | .notConfigured => "provider is not configured"
  | .serialization _ => "serialization error (see Debug output)"
  | .transmission _ => "http error (see Debug output)"
  | .diff _ => "set diff error (see Debug output)"

/-- Whether the remote interface does not know what was asked for. -/
def isNotFound : Fault → Bool
  | .remote status _ => status = 404
  | _ => false

end Fault

end LoggingProvider
