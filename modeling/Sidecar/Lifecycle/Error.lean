import Sidecar.Client.Error

/-!
# Errors of a run

What ends the run of an extension before it is told to shut down, and what may go wrong then.
-/

namespace Sidecar

inductive RunError where
  | register (cause : CallError)
  | init (cause : Failure)
  | nextEvent (cause : CallError)
  | panic
  /-- The extension could not deal with an invocation. -/
  | invoke (cause : Failure)
  /-- The extension has reported an error through its signal. -/
  | signaled (cause : Failure)
  | stopped (stop : Stop)
  | shutdown (cause : Failure)
  deriving DecidableEq, Repr

namespace RunError

def failure : RunError → Failure
  | .register cause => .because "could not register extension" cause.failure
  | .init cause => .because "extension init failed" cause
  | .nextEvent cause => .because "next event call failed" cause.failure
  | .panic => .because "next event task failed" Foreign.panic.failure
  | .invoke cause => .because "extension failed to handle invoke event" cause
  | .signaled cause => .because "extension signaled an error" cause
  | .stopped stop => .because "context stopped before shutdown event" stop.failure
  | .shutdown cause => .because "extension shutdown failed" cause

def message (e : RunError) : String := e.failure.message

end RunError

end Sidecar
