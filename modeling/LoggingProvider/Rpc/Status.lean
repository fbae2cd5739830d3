import LoggingProvider.Fault

/-!
# Statuses of calls

A call that fails has a status: a code for the kind of failure, and a message.

## Main definitions

* `Rpc.Code`: the codes
* `Rpc.Status`: a code and a message
* `Rpc.Status.ofFault`: the status of a fault of the provider
-/

namespace LoggingProvider

namespace Rpc

/-- The kind of a failed call. -/
inductive Code where
  | invalidArgument
  | failedPrecondition
  | notFound
  | unavailable
  | permissionDenied
  | alreadyExists
  | resourceExhausted
  | unknown
deriving DecidableEq

/-- The name of a code. -/
def Code.name : Code → String
  | .invalidArgument => "InvalidArgument"
  | .failedPrecondition => "FailedPrecondition"
  | .notFound => "NotFound"
  | .unavailable => "Unavailable"
  | .permissionDenied => "PermissionDenied"
  | .alreadyExists => "AlreadyExists"
  | .resourceExhausted => "ResourceExhausted"
  | .unknown => "Unknown"

/-- **The status of a failed call.** -/
structure Status where
  code : Code
  message : String
deriving DecidableEq

/-- The code for a status of the remote interface. -/
def Code.ofRemote (status : UInt16) : Code :=
  if status = 404 then .notFound
  else if status = 401 || status = 403 then .permissionDenied
  else if status = 409 then .alreadyExists
  else if status = 429 then .resourceExhausted
  else if status = 400 || status = 422 then .invalidArgument
  else if 500 ≤ status && status ≤ 599 then .unavailable
  else .unknown

/-- **The status of a fault of the provider.** -/
def Status.ofFault : Fault → Status
  | .validation m => ⟨.invalidArgument, m⟩
  | .configuration m => ⟨.failedPrecondition, m⟩
  | .unknownResource type => ⟨.notFound, type⟩
  | .notConfigured => ⟨.failedPrecondition, "provider is not configured"⟩
  | .serialization cause => ⟨.invalidArgument, "Serialization error: " ++ cause.message⟩
  | .transmission cause => ⟨.unavailable, "HTTP error: " ++ cause.text⟩
  | .diff cause => ⟨.invalidArgument, cause.message⟩
  | .remote status m => ⟨.ofRemote status, m⟩

end Rpc

end LoggingProvider
