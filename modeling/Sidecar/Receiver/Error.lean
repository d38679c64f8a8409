import Sidecar.Client.Error
import Sidecar.Stream.Element

/-!
# Errors of a receiver

What goes wrong while batches are received and their events processed.
-/

namespace Sidecar

inductive ReceiverError where
  | processorInit (cause : Failure)
  | process (cause : Failure)
  | processorShutdown (cause : Failure)
  /-- The processor has panicked. -/
  | worker
  | bind (address : String)
  /-- The address is not of the form `host:port`. -/
  | invalidAddress (address : String)
  | server
  | serverPanic
  /-- The server was still busy when the context of the shutdown stopped. -/
  | serverShutdown (stop : Stop)
  /-- The platform would not subscribe the receiver. -/
  | subscribe (cause : CallError)
  /-- A batch was sent with a method other than `POST`. -/
  | methodNotAllowed (method : String)
  | decode (cause : DecodeError)
  /-- An invocation reached the receiver, which does not register for any. -/
  | unexpectedInvoke
  /-- The receiver has been started or shut down before. -/
  | alreadyStarted
  /-- The receiver has been shut down before. -/
  | alreadyShutDown
  deriving DecidableEq, Repr

namespace ReceiverError

def failure : ReceiverError → Failure
  | .processorInit cause => .because "processor init failed" cause
  | .process cause => .because "processor failed to process event" cause
  | .processorShutdown cause => .because "processor shutdown failed" cause
  | .worker => .because "event processing task failed" Foreign.panic.failure
  | .bind address =>
    .because ("could not bind event receiving HTTP server to " ++ address) Foreign.io.failure
  | .invalidAddress address =>
    .plain ("invalid destination address " ++ Text.quote address ++ ", want host:port")
  | .server => .because "event receiving HTTP server failed" Foreign.io.failure
  | .serverPanic => .because "event receiving HTTP server task failed" Foreign.panic.failure
  | .serverShutdown stop =>
    .because "could not gracefully shut down event receiving HTTP server" stop.failure
  | .subscribe cause => .because "could not subscribe to event stream" cause.failure
  | .methodNotAllowed method =>
    .plain ("got unexpected HTTP request method " ++ method ++ ", want POST")
  | .decode cause => .because "decoding failed or interrupted" cause.failure
  | .unexpectedInvoke =>
    .plain "unexpected invoke event, the receiver only registers for SHUTDOWN"
  | .alreadyStarted => .plain "receiver already started"
  | .alreadyShutDown => .plain "receiver already shut down"

def message (e : ReceiverError) : String := e.failure.message

end ReceiverError

end Sidecar
