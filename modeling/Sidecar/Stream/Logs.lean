import Sidecar.Stream.Record

/-!
# Records of the Logs API

The ten types of records that a logs subscription delivers, and `Logs.family`, which reads and
writes them. Most types have a namesake in the Telemetry API that says more.
-/

namespace Sidecar.Logs

open Json

structure Start where
  requestId : String
  version : Option String
  deriving DecidableEq, Repr

def Start.form : Form Start Start :=
  Form.make Start.mk
    |>.field "requestId" .string requestId
    |>.optional "version" .string version

structure End where
  requestId : String
  deriving DecidableEq, Repr

def End.form : Form End End :=
  Form.make End.mk
    |>.field "requestId" .string requestId

structure ReportMetrics where
  durationMs : Binary64
  billedDurationMs : Binary64
  memorySizeMB : UInt64
  maxMemoryUsedMB : UInt64
  /-- Only if the environment had to be initialized. -/
  initDurationMs : Option Binary64
  deriving DecidableEq, Repr

def ReportMetrics.form : Form ReportMetrics ReportMetrics :=
  Form.make ReportMetrics.mk
    |>.field "durationMs" .double durationMs
    |>.field "billedDurationMs" .double billedDurationMs
    |>.field "memorySizeMB" .uint64 memorySizeMB
    |>.field "maxMemoryUsedMB" .uint64 maxMemoryUsedMB
    |>.optional "initDurationMs" .double initDurationMs

structure Report where
  requestId : String
  metrics : ReportMetrics
  trace : Option TraceHeader
  deriving DecidableEq, Repr

def Report.form : Form Report Report :=
  Form.make Report.mk
    |>.field "requestId" .string requestId
    |>.field "metrics" (.record ReportMetrics.form) metrics
    |>.optional "tracing" TraceHeader.codec trace

structure RuntimeDone where
  requestId : String
  status : String
  deriving DecidableEq, Repr

def RuntimeDone.form : Form RuntimeDone RuntimeDone :=
  Form.make RuntimeDone.mk
    |>.field "requestId" .string requestId
    |>.field "status" .string status

inductive Record where
  | start (content : Start)
  | finish (content : End)
  | report (content : Report)
  | extension (content : ExtensionRecord)
  | logsSubscription (content : SubscriptionRecord)
  | logsDropped (content : DroppedRecord)
  /-- Something went wrong in the runtime or the environment. -/
  | fault (text : String)
  | runtimeDone (content : RuntimeDone)
  | functionLine (line : String)
  | extensionLine (line : String)
  deriving DecidableEq, Repr

namespace Record

def kind : Record → String
  | .start _ => "platform.start"
  | .finish _ => "platform.end"
  | .report _ => "platform.report"
  | .extension _ => "platform.extension"
  | .logsSubscription _ => "platform.logsSubscription"
  | .logsDropped _ => "platform.logsDropped"
  | .fault _ => "platform.fault"
  | .runtimeDone _ => "platform.runtimeDone"
  | .functionLine _ => "function"
  | .extensionLine _ => "extension"

def readers : List (String × (Json → Option Record)) :=
  [("platform.start", fun v => ((Codec.record Start.form).ofJson? v).map .start),
   ("platform.end", fun v => ((Codec.record End.form).ofJson? v).map .finish),
   ("platform.report", fun v => ((Codec.record Report.form).ofJson? v).map .report),
   ("platform.extension", fun v => ((Codec.record ExtensionRecord.form).ofJson? v).map .extension),
   ("platform.logsSubscription",
    fun v => ((Codec.record SubscriptionRecord.form).ofJson? v).map .logsSubscription),
   ("platform.logsDropped",
      fun v => ((Codec.record DroppedRecord.form).ofJson? v).map .logsDropped),
   ("platform.fault", fun v => (Codec.string.ofJson? v).map .fault),
   ("platform.runtimeDone", fun v => ((Codec.record RuntimeDone.form).ofJson? v).map .runtimeDone),
   ("function", fun v => (Codec.string.ofJson? v).map .functionLine),
   ("extension", fun v => (Codec.string.ofJson? v).map .extensionLine)]

/-- The type that the record is written with. -/
def tag : Record → String
  | .start _ => "platform.start"
  | .finish _ => "platform.end"
  | .report _ => "platform.report"
  | .extension _ => "platform.extension"
  | .logsSubscription _ => "platform.logsSubscription"
  | .logsDropped _ => "platform.logsDropped"
  | .fault _ => "platform.fault"
  | .runtimeDone _ => "platform.runtimeDone"
  | .functionLine _ => "function"
  | .extensionLine _ => "extension"

def write : Record → Json
  | .start r => (Codec.record Start.form).write r
  | .finish r => (Codec.record End.form).write r
  | .report r => (Codec.record Report.form).write r
  | .extension r => (Codec.record ExtensionRecord.form).write r
  | .logsSubscription r => (Codec.record SubscriptionRecord.form).write r
  | .logsDropped r => (Codec.record DroppedRecord.form).write r
  | .fault text => .string text
  | .runtimeDone r => (Codec.record RuntimeDone.form).write r
  | .functionLine line => .string line
  | .extensionLine line => .string line

end Record

def family : RecordFamily Record where
  kind := Record.kind
  reader type := Record.readers.lookup type
  tag := Record.tag
  write := Record.write

end Sidecar.Logs
