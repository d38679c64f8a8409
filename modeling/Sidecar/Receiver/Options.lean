import Sidecar.Client.Push
import Sidecar.Receiver.System

/-!
# Options of a receiver

What can be chosen about a receiver: where it listens, what it subscribes to, and what it registers
with.
-/

namespace Sidecar

structure ReceiverOptions where
  destination : String := Settings.standardDestination
  classes : List RecordClass := []
  buffering : Option Buffering := none
  registering : Registering := {}

namespace ReceiverOptions

/-- The classes that settings choose for an API. -/
def classesOf (s : Settings) : PushApi → List RecordClass
  | .logs => s.logClasses
  | .telemetry => s.telemetryClasses

/-- The options that settings choose for an API. -/
def ofSettings (api : PushApi) (s : Settings) : ReceiverOptions where
  destination := s.destination
  classes := classesOf s api
  buffering := s.subscriptionBuffering
  registering := ({} : Registering).configured s

/-- A receiver registers for the shutdown only, so that it is never told of an invocation. -/
def registration (o : ReceiverOptions) : Registering :=
  { o.registering with events := [.shutdown] }

def receiver (o : ReceiverOptions) : Receiver ε := { address := o.destination }

/-- The call that subscribes a receiver which listens at a port. -/
def subscription (o : ReceiverOptions) (api : PushApi) (client : Client) (port : Nat) :
    Except ReceiverError (Call Unit) :=
  (Destination.url o.destination port).map fun uri =>
    client.subscribeTo api uri o.classes o.buffering

end ReceiverOptions

end Sidecar
