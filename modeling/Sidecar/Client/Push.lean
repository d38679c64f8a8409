import Sidecar.Client.Basic

/-!
# The APIs that push

Batches come from the Logs API or from the Telemetry API. What an extension asks of either differs
in the request alone.
-/

namespace Sidecar

/-- An API that pushes batches. -/
inductive PushApi where
  | logs
  | telemetry
  deriving DecidableEq, Repr

/-- The call that subscribes a URL to the batches of an API. -/
def Client.subscribeTo (c : Client) (api : PushApi) (uri : String) (classes : List RecordClass)
    (buffering : Option Buffering) : Call Unit :=
  match api with
  | .logs => c.subscribeLogs (.pushingTo uri classes buffering)
  | .telemetry => c.subscribeTelemetry (.pushingTo uri classes buffering)

end Sidecar
