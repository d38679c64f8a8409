import Sidecar.Json.Codec

/-!
# Lifecycle events

What the platform tells an extension: the function that it was registered for, and then, event by
event, that the function is invoked or that the environment shuts down. Each type comes with the
form of its JSON.
-/

namespace Sidecar

/-- The events that an extension can register for. -/
inductive EventKind where
  | invoke
  | shutdown
  deriving DecidableEq, Repr

namespace EventKind

def name : EventKind → String
  | .invoke => "INVOKE"
  | .shutdown => "SHUTDOWN"

def codec : Json.Codec EventKind :=
  .choice name [.invoke, .shutdown]

end EventKind

/-- The function that an extension was registered for. -/
structure Registration where
  functionName : String
  functionVersion : String
  handler : String
  /-- The account of the function; empty unless it was asked for. -/
  accountId : String
  deriving DecidableEq, Repr

namespace Registration

def form : Json.Form Registration Registration :=
  Json.Form.make Registration.mk
    |>.field "functionName" .string functionName
    |>.field "functionVersion" .string functionVersion
    |>.field "handler" .string handler
    |>.fieldOr "accountId" .string "" accountId

def codec : Json.Codec Registration :=
  .record form

end Registration

/-- The trace that an invocation belongs to. -/
structure TraceHeader where
  kind : String
  value : String
  deriving DecidableEq, Repr

namespace TraceHeader

def form : Json.Form TraceHeader TraceHeader :=
  Json.Form.make TraceHeader.mk
    |>.field "type" .string kind
    |>.field "value" .string value

def codec : Json.Codec TraceHeader :=
  .record form

end TraceHeader

structure Invocation where
  /-- When the invocation must have ended, in milliseconds since 1970. -/
  deadlineMs : Int64
  requestId : String
  functionArn : String
  trace : TraceHeader
  deriving DecidableEq, Repr

namespace Invocation

def form : Json.Form Invocation Invocation :=
  Json.Form.make Invocation.mk
    |>.field "deadlineMs" .int64 deadlineMs
    |>.field "requestId" .string requestId
    |>.field "invokedFunctionArn" .string functionArn
    |>.field "tracing" TraceHeader.codec trace

def codec : Json.Codec Invocation :=
  .record form

end Invocation

/-- Why an environment shuts down. -/
inductive ShutdownReason where
  | spindown
  | timeout
  | failure
  /-- The extension itself failed. -/
  | extensionError
  deriving DecidableEq, Repr

namespace ShutdownReason

def name : ShutdownReason → String
  | .spindown => "spindown"
  | .timeout => "timeout"
  | .failure => "failure"
  | .extensionError => "extension_error"

/-- The reason with a name, in capital or small letters. No letter outside ASCII has a small form
that occurs in these names. -/
def ofName? (text : String) : Option ShutdownReason :=
  [.spindown, .timeout, .failure, .extensionError].find? (·.name = text.toLower)

def codec : Json.Codec ShutdownReason :=
  Json.Codec.string.refine ofName? name

end ShutdownReason

structure Shutdown where
  reason : ShutdownReason
  /-- When the extension must have ended, in milliseconds since 1970. -/
  deadlineMs : Int64
  deriving DecidableEq, Repr

namespace Shutdown

def form : Json.Form Shutdown Shutdown :=
  Json.Form.make Shutdown.mk
    |>.field "shutdownReason" ShutdownReason.codec reason
    |>.field "deadlineMs" .int64 deadlineMs

def codec : Json.Codec Shutdown :=
  .record form

end Shutdown

/-- What an extension that waits is told next. -/
inductive Event where
  | invoke (invocation : Invocation)
  | shutdown (details : Shutdown)
  deriving DecidableEq, Repr

namespace Event

def kind : Event → EventKind
  | .invoke _ => .invoke
  | .shutdown _ => .shutdown

/-- When the event must have been dealt with, in milliseconds since 1970. -/
def deadlineMs : Event → Int64
  | .invoke invocation => invocation.deadlineMs
  | .shutdown details => details.deadlineMs

def readers (kindName : String) : Option (Json → Option Event) :=
  if kindName = EventKind.invoke.name then
    some fun value => (Invocation.codec.ofJson? value).map .invoke
  else if kindName = EventKind.shutdown.name then
    some fun value => (Shutdown.codec.ofJson? value).map .shutdown
  else none

/-- The members of an event beside the one that tells its kind. -/
def members : Event → List (String × Json)
  | .invoke invocation => Invocation.form.members invocation
  | .shutdown details => Shutdown.form.members details

/-- An event is written as the record of its kind with one more member, which tells that kind. -/
def codec : Json.Codec Event :=
  .tagged "eventType" readers fun event =>
    .object (("eventType", .string event.kind.name) :: event.members)

end Event

end Sidecar
