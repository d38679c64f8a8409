import Sidecar.Platform.State
import Sidecar.Time.Timespan

/-!
# Pushing batches from a stand-in

A stand-in pushes batches to the destination of the latest subscription, each with the next sequence
number. The pushes come one after the other, and what the destination answers is not looked at here.
-/

namespace Sidecar

inductive StandIn.Error where
  /-- What was waited for did not come in time. -/
  | timeout (limit : Timespan)
  | noSubscription
  deriving DecidableEq

namespace StandIn

namespace Error

def message : Error → String
  | .timeout limit => "Timeout occurred: Condition did not become true within " ++ limit.text
  | .noSubscription => "No stream subscription recorded"

end Error

def sequenceHeader : String := "sequence-id"

/-- Pushes a batch: where to, and the request that is sent there. -/
def push (p : StandIn) (body : List UInt8) : Except Error ((String × Request) × StandIn) :=
  match p.subscriptions.getLast? with
  | none => .error .noSubscription
  | some subscription =>
    let request :=
      { method := "POST"
        path := ""
        headers := [Client.jsonContent, (sequenceHeader, toString p.pushes)]
        body }
    .ok ((subscription.uri, request), { p with pushes := p.pushes + 1 })

/-- Waits for the first subscription, for as long as nothing else happens. -/
def awaitSubscription (p : StandIn) (limit : Timespan) : Except Error RecordedSubscription :=
  match p.subscriptions.head? with
  | some subscription => .ok subscription
  | none => .error (.timeout limit)

end StandIn

end Sidecar
