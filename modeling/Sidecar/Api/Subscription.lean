import Sidecar.Json.Codec

/-!
# Subscriptions

An extension asks the platform to push batches of records to it, either from the Logs API or from
the Telemetry API. The two requests differ in their schema version and in what may be said about the
destination.
-/

namespace Sidecar

/-- The classes of records that a subscription may ask for. -/
inductive RecordClass where
  /-- What the platform records about the function. -/
  | platform
  /-- What the function writes. -/
  | function
  /-- What extensions write. -/
  | extension
  deriving DecidableEq, Repr

namespace RecordClass

def name : RecordClass → String
  | .platform => "platform"
  | .function => "function"
  | .extension => "extension"

def all : List RecordClass := [.platform, .function, .extension]

def codec : Json.Codec RecordClass :=
  .choice name all

end RecordClass

/-- When a batch is sent off: as soon as one of the thresholds is reached. -/
structure Buffering where
  maxItems : UInt32
  maxBytes : UInt32
  timeoutMs : UInt32
  deriving DecidableEq, Repr

namespace Buffering

/-- The thresholds of the platform itself. -/
def standard : Buffering := ⟨10000, 262144, 1000⟩

def form : Json.Form Buffering Buffering :=
  Json.Form.make Buffering.mk
    |>.field "maxItems" .uint32 maxItems
    |>.field "maxBytes" .uint32 maxBytes
    |>.field "timeoutMs" .uint32 timeoutMs

def codec : Json.Codec Buffering :=
  .record form

end Buffering

/-- How batches are carried to their destination. -/
inductive Transport where
  | http
  deriving DecidableEq, Repr

def Transport.codec : Json.Codec Transport :=
  .choice (fun .http => "HTTP") [.http]

/-- The method with which the Logs API pushes. -/
inductive PushMethod where
  | post
  | put
  deriving DecidableEq, Repr

namespace PushMethod

def name : PushMethod → String
  | .post => "POST"
  | .put => "PUT"

def codec : Json.Codec PushMethod :=
  .choice name [.post, .put]

end PushMethod

/-- The encoding in which the Logs API pushes. -/
inductive PushEncoding where
  | json
  deriving DecidableEq, Repr

def PushEncoding.codec : Json.Codec PushEncoding :=
  .choice (fun .json => "JSON") [.json]

/-- The classes to ask for: the given ones or, if there are none, the usual ones. -/
def classesOr (usual given : List RecordClass) : List RecordClass :=
  if given.isEmpty then usual else given

/-- Where the Logs API pushes to. -/
structure LogsDestination where
  transport : Transport
  uri : String
  method : Option PushMethod
  encoding : Option PushEncoding
  deriving DecidableEq, Repr

namespace LogsDestination

def form : Json.Form LogsDestination LogsDestination :=
  Json.Form.make LogsDestination.mk
    |>.field "protocol" Transport.codec transport
    |>.field "URI" .string uri
    |>.omittable "method" PushMethod.codec method
    |>.omittable "encoding" PushEncoding.codec encoding

def codec : Json.Codec LogsDestination :=
  .record form

end LogsDestination

/-- A subscription to the Logs API. -/
structure LogsSubscription where
  /-- Without a version the platform takes its oldest one. -/
  schemaVersion : Option String
  classes : List RecordClass
  buffering : Option Buffering
  destination : LogsDestination
  deriving DecidableEq, Repr

namespace LogsSubscription

/-- The version of the records that the library reads. -/
def currentSchema : String := "2021-03-18"

/-- A subscription that has batches pushed to `uri`, usually of all classes. -/
def pushingTo (uri : String) (classes : List RecordClass) (buffering : Option Buffering) :
    LogsSubscription where
  schemaVersion := some currentSchema
  classes := classesOr [.platform, .function, .extension] classes
  buffering := buffering
  destination := ⟨.http, uri, none, none⟩

def form : Json.Form LogsSubscription LogsSubscription :=
  Json.Form.make LogsSubscription.mk
    |>.omittable "schemaVersion" .string schemaVersion
    |>.field "types" (.list RecordClass.codec) classes
    |>.omittable "buffering" Buffering.codec buffering
    |>.field "destination" LogsDestination.codec destination

def codec : Json.Codec LogsSubscription :=
  .record form

end LogsSubscription

/-- Where the Telemetry API pushes to. -/
structure TelemetryDestination where
  transport : Transport
  uri : String
  deriving DecidableEq, Repr

namespace TelemetryDestination

def form : Json.Form TelemetryDestination TelemetryDestination :=
  Json.Form.make TelemetryDestination.mk
    |>.field "protocol" Transport.codec transport
    |>.field "URI" .string uri

def codec : Json.Codec TelemetryDestination :=
  .record form

end TelemetryDestination

/-- A subscription to the Telemetry API. -/
structure TelemetrySubscription where
  schemaVersion : String
  classes : List RecordClass
  buffering : Option Buffering
  destination : TelemetryDestination
  deriving DecidableEq, Repr

namespace TelemetrySubscription

/-- The version of the records that the library reads. -/
def currentSchema : String := "2022-07-01"

/-- A subscription that has batches pushed to `uri`. Without a choice of classes it leaves out what
extensions write, so that an extension does not get its own output back. -/
def pushingTo (uri : String) (classes : List RecordClass) (buffering : Option Buffering) :
    TelemetrySubscription where
  schemaVersion := currentSchema
  classes := classesOr [.platform, .function] classes
  buffering := buffering
  destination := ⟨.http, uri⟩

def form : Json.Form TelemetrySubscription TelemetrySubscription :=
  Json.Form.make TelemetrySubscription.mk
    |>.field "schemaVersion" .string schemaVersion
    |>.field "types" (.list RecordClass.codec) classes
    |>.omittable "buffering" Buffering.codec buffering
    |>.field "destination" TelemetryDestination.codec destination

def codec : Json.Codec TelemetrySubscription :=
  .record form

end TelemetrySubscription

end Sidecar
