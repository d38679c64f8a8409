import Sidecar.Stream.Record

/-!
# Records of the Telemetry API

The eleven types of records that a telemetry subscription delivers, and `Telemetry.family`, which
reads and writes them.
-/

namespace Sidecar.Telemetry

open Json

structure Span where
  name : String
  start : Instant
  durationMs : Binary64
  deriving DecidableEq, Repr

def Span.form : Form Span Span :=
  Form.make Span.mk
    |>.field "name" .string name
    |>.field "start" Instant.codec start
    |>.field "durationMs" .double durationMs

/-- The spans of a phase; none if there is no such field. -/
def spansField (before : Form σ (List Span → α)) (get : σ → List Span) : Form σ α :=
  before.fieldOr "spans" (.list (.record Span.form)) [] get

/-- The trace that a record belongs to. -/
structure TraceContext where
  spanId : Option String
  kind : String
  value : String
  deriving DecidableEq, Repr

def TraceContext.form : Form TraceContext TraceContext :=
  Form.make TraceContext.mk
    |>.optional "spanId" .string spanId
    |>.field "type" .string kind
    |>.field "value" .string value

structure InitStart where
  initializationType : String
  phase : String
  runtimeVersion : Option String
  runtimeVersionArn : Option String
  deriving DecidableEq, Repr

def InitStart.form : Form InitStart InitStart :=
  Form.make InitStart.mk
    |>.field "initializationType" .string initializationType
    |>.fieldOr "phase" .string "" phase
    |>.optional "runtimeVersion" .string runtimeVersion
    |>.optional "runtimeVersionArn" .string runtimeVersionArn

structure InitRuntimeDone where
  initializationType : String
  phase : String
  status : String
  spans : List Span
  deriving DecidableEq, Repr

def InitRuntimeDone.form : Form InitRuntimeDone InitRuntimeDone :=
  spansField (Form.make InitRuntimeDone.mk
    |>.field "initializationType" .string initializationType
    |>.fieldOr "phase" .string "" phase
    |>.field "status" .string status) spans

structure InitMetrics where
  durationMs : Binary64
  deriving DecidableEq, Repr

def InitMetrics.form : Form InitMetrics InitMetrics :=
  Form.make InitMetrics.mk
    |>.field "durationMs" .double durationMs

structure InitReport where
  initializationType : String
  phase : String
  metrics : InitMetrics
  spans : List Span
  deriving DecidableEq, Repr

def InitReport.form : Form InitReport InitReport :=
  spansField (Form.make InitReport.mk
    |>.field "initializationType" .string initializationType
    |>.fieldOr "phase" .string "" phase
    |>.field "metrics" (.record InitMetrics.form) metrics) spans

structure Start where
  requestId : String
  version : Option String
  trace : Option TraceContext
  deriving DecidableEq, Repr

def Start.form : Form Start Start :=
  Form.make Start.mk
    |>.field "requestId" .string requestId
    |>.optional "version" .string version
    |>.optional "tracing" (.record TraceContext.form) trace

/-- What the runtime took for an invocation. -/
structure RuntimeMetrics where
  durationMs : Binary64
  producedBytes : Option UInt64
  deriving DecidableEq, Repr

def RuntimeMetrics.form : Form RuntimeMetrics RuntimeMetrics :=
  Form.make RuntimeMetrics.mk
    |>.field "durationMs" .double durationMs
    |>.optional "producedBytes" .uint64 producedBytes

structure RuntimeDone where
  requestId : String
  status : String
  metrics : Option RuntimeMetrics
  trace : Option TraceContext
  spans : List Span
  deriving DecidableEq, Repr

def RuntimeDone.form : Form RuntimeDone RuntimeDone :=
  spansField (Form.make RuntimeDone.mk
    |>.field "requestId" .string requestId
    |>.field "status" .string status
    |>.optional "metrics" (.record RuntimeMetrics.form) metrics
    |>.optional "tracing" (.record TraceContext.form) trace) spans

structure ReportMetrics where
  durationMs : Binary64
  billedDurationMs : Binary64
  memorySizeMB : UInt64
  maxMemoryUsedMB : UInt64
  /-- Only if the environment had to be initialized. -/
  initDurationMs : Option Binary64
  /-- Only if the environment was restored from a snapshot. -/
  restoreDurationMs : Option Binary64
  deriving DecidableEq, Repr

def ReportMetrics.form : Form ReportMetrics ReportMetrics :=
  Form.make ReportMetrics.mk
    |>.field "durationMs" .double durationMs
    |>.field "billedDurationMs" .double billedDurationMs
    |>.field "memorySizeMB" .uint64 memorySizeMB
    |>.field "maxMemoryUsedMB" .uint64 maxMemoryUsedMB
    |>.optional "initDurationMs" .double initDurationMs
    |>.optional "restoreDurationMs" .double restoreDurationMs

structure Report where
  requestId : String
  status : String
  metrics : ReportMetrics
  trace : Option TraceContext
  spans : List Span
  deriving DecidableEq, Repr

def Report.form : Form Report Report :=
  spansField (Form.make Report.mk
    |>.field "requestId" .string requestId
    |>.field "status" .string status
    |>.field "metrics" (.record ReportMetrics.form) metrics
    |>.optional "tracing" (.record TraceContext.form) trace) spans

inductive Record where
  | initStart (content : InitStart)
  | initRuntimeDone (content : InitRuntimeDone)
  | initReport (content : InitReport)
  | start (content : Start)
  | runtimeDone (content : RuntimeDone)
  | report (content : Report)
  | extension (content : ExtensionRecord)
  | telemetrySubscription (content : SubscriptionRecord)
  | logsDropped (content : DroppedRecord)
  | functionLine (line : String)
  | extensionLine (line : String)
  deriving DecidableEq, Repr

namespace Record

def kind : Record → String
  | .initStart _ => "platform.initStart"
  | .initRuntimeDone _ => "platform.initRuntimeDone"
  | .initReport _ => "platform.initReport"
  | .start _ => "platform.start"
  | .runtimeDone _ => "platform.runtimeDone"
  | .report _ => "platform.report"
  | .extension _ => "platform.extension"
  | .telemetrySubscription _ => "platform.telemetrySubscription"
  | .logsDropped _ => "platform.logsDropped"
  | .functionLine _ => "function"
  | .extensionLine _ => "extension"

def readers : List (String × (Json → Option Record)) :=
  [("platform.initStart", fun v => ((Codec.record InitStart.form).ofJson? v).map .initStart),
   ("platform.initRuntimeDone",
    fun v => ((Codec.record InitRuntimeDone.form).ofJson? v).map .initRuntimeDone),
   ("platform.initReport", fun v => ((Codec.record InitReport.form).ofJson? v).map .initReport),
   ("platform.start", fun v => ((Codec.record Start.form).ofJson? v).map .start),
   ("platform.runtimeDone", fun v => ((Codec.record RuntimeDone.form).ofJson? v).map .runtimeDone),
   ("platform.report", fun v => ((Codec.record Report.form).ofJson? v).map .report),
   ("platform.extension", fun v => ((Codec.record ExtensionRecord.form).ofJson? v).map .extension),
   ("platform.telemetrySubscription",
    fun v => ((Codec.record SubscriptionRecord.form).ofJson? v).map .telemetrySubscription),
   ("platform.logsDropped",
      fun v => ((Codec.record DroppedRecord.form).ofJson? v).map .logsDropped),
   ("function", fun v => (Codec.string.ofJson? v).map .functionLine),
   ("extension", fun v => (Codec.string.ofJson? v).map .extensionLine)]

/-- The type that the record is written with. -/
def tag : Record → String
  | .initStart _ => "platform.initStart"
  | .initRuntimeDone _ => "platform.initRuntimeDone"
  | .initReport _ => "platform.initReport"
  | .start _ => "platform.start"
  | .runtimeDone _ => "platform.runtimeDone"
  | .report _ => "platform.report"
  | .extension _ => "platform.extension"
  | .telemetrySubscription _ => "platform.telemetrySubscription"
  | .logsDropped _ => "platform.logsDropped"
  | .functionLine _ => "function"
  | .extensionLine _ => "extension"

def write : Record → Json
  | .initStart r => (Codec.record InitStart.form).write r
  | .initRuntimeDone r => (Codec.record InitRuntimeDone.form).write r
  | .initReport r => (Codec.record InitReport.form).write r
  | .start r => (Codec.record Start.form).write r
  | .runtimeDone r => (Codec.record RuntimeDone.form).write r
  | .report r => (Codec.record Report.form).write r
  | .extension r => (Codec.record ExtensionRecord.form).write r
  | .telemetrySubscription r => (Codec.record SubscriptionRecord.form).write r
  | .logsDropped r => (Codec.record DroppedRecord.form).write r
  | .functionLine line => .string line
  | .extensionLine line => .string line

end Record

def family : RecordFamily Record where
  kind := Record.kind
  reader type := Record.readers.lookup type
  tag := Record.tag
  write := Record.write

end Sidecar.Telemetry
