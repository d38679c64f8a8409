import Sidecar.Api.Event
import Sidecar.Api.Subscription
import Sidecar.Stream.Element

/-!
# Records that both streams have

The Telemetry API and the Logs API tell of extensions, subscriptions and lost records in the same
way.
-/

namespace Sidecar

structure ExtensionRecord where
  name : String
  state : String
  events : List EventKind
  deriving DecidableEq, Repr

def ExtensionRecord.form : Json.Form ExtensionRecord ExtensionRecord :=
  Json.Form.make ExtensionRecord.mk
    |>.field "name" .string name
    |>.field "state" .string state
    |>.fieldOr "events" (.list EventKind.codec) [] events

structure SubscriptionRecord where
  name : String
  state : String
  classes : List RecordClass
  deriving DecidableEq, Repr

def SubscriptionRecord.form : Json.Form SubscriptionRecord SubscriptionRecord :=
  Json.Form.make SubscriptionRecord.mk
    |>.field "name" .string name
    |>.field "state" .string state
    |>.fieldOr "types" (.list RecordClass.codec) [] classes

structure DroppedRecord where
  bytes : UInt64
  records : UInt64
  reason : String
  deriving DecidableEq, Repr

def DroppedRecord.form : Json.Form DroppedRecord DroppedRecord :=
  Json.Form.make DroppedRecord.mk
    |>.field "droppedBytes" .uint64 bytes
    |>.field "droppedRecords" .uint64 records
    |>.field "reason" .string reason

end Sidecar
