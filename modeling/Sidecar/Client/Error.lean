import Sidecar.Api.Answer
import Sidecar.Context

/-!
# Errors of calls

What goes wrong when the platform is called.
-/

namespace Sidecar

/-- What goes wrong when the platform is called. -/
inductive CallError where
  | missingAddress
  | transport
  /-- The platform has turned the call down. -/
  | rejected (rejection : Rejection)
  /-- The answer has another status than a successful one, and its body is no rejection. -/
  | unexpectedStatus (status : UInt16) (body : String)
  /-- The body of a successful answer is not what it should be. -/
  | unreadable (body : String) (fault : Json.Fault)
  | unwritable (fault : Json.Fault)
  | missingIdentifier
  | interrupted (stop : Stop)
  deriving DecidableEq, Repr

namespace CallError

def failure : CallError → Failure
  | .missingAddress => .plain "could not find environment variable AWS_LAMBDA_RUNTIME_API"
  | .transport => .because "HTTP request failed" Foreign.http.failure
  | .rejected rejection => .plain rejection.message
  | .unexpectedStatus status body =>
    .plain ("HTTP request failed with status " ++ toString status.toNat ++ " and body: " ++ body)
  | .unreadable body fault =>
    .because ("could not decode response body: " ++ body) (Foreign.json fault).failure
  | .unwritable fault => .because "could not encode request body" (Foreign.json fault).failure
  | .missingIdentifier =>
    .plain "could not find extension ID in register response header Lambda-Extension-Identifier"
  | .interrupted stop => .because "request interrupted" stop.failure

def message (e : CallError) : String := e.failure.message

end CallError

end Sidecar
