import Sidecar.Api.Subscription
import Sidecar.Time.Timespan

/-!
# Settings

What can be configured about an extension: its name, the addresses at both ends, and what its
subscriptions ask for.
-/

namespace Sidecar

/-- When a batch is sent off, as it is configured. -/
structure BufferSettings where
  maxItems : UInt32
  maxBytes : UInt32
  timeout : Timespan
  deriving DecidableEq

namespace BufferSettings

/-- The thresholds of the platform itself. -/
def standard : BufferSettings where
  maxItems := Buffering.standard.maxItems
  maxBytes := Buffering.standard.maxBytes
  timeout := .ofMillis Buffering.standard.timeoutMs.toUInt64

/-- The thresholds of a subscription. A timeout that a subscription cannot hold becomes the longest
one that it can. -/
def toBuffering (s : BufferSettings) : Buffering where
  maxItems := s.maxItems
  maxBytes := s.maxBytes
  timeoutMs := UInt32.ofNat (min s.timeout.millis (UInt32.size - 1))

/-- A timeout is written as its whole milliseconds, modulo 2⁶⁴. -/
def timeoutCodec : Json.Codec Timespan :=
  Json.Codec.uint64.refine (some ∘ Timespan.ofMillis) fun t => UInt64.ofNat t.millis

def form : Json.Form BufferSettings BufferSettings :=
  Json.Form.make BufferSettings.mk
    |>.fieldOr "max_items" .uint32 standard.maxItems maxItems
    |>.fieldOr "max_bytes" .uint32 standard.maxBytes maxBytes
    |>.fieldOr "timeout" timeoutCodec standard.timeout timeout

def codec : Json.Codec BufferSettings :=
  .record form

end BufferSettings

structure Settings where
  /-- The name to register under, unless it is that of the program. -/
  extensionName : Option String
  runtimeApi : Option String
  /-- The address at which batches are received; its host is also where they are sent to. -/
  destination : String
  buffering : Option BufferSettings
  telemetryClasses : List RecordClass
  logClasses : List RecordClass
  deriving DecidableEq

namespace Settings

/-- The address at which batches are received unless another one is given. A port of 0 stands for
any free port. -/
def standardDestination : String := "sandbox.localdomain:0"

/-- The settings that hold when nothing is configured. -/
def standard : Settings := ⟨none, none, standardDestination, none, [], []⟩

/-- The thresholds for a subscription, if any are configured. -/
def subscriptionBuffering (s : Settings) : Option Buffering :=
  s.buffering.map BufferSettings.toBuffering

def form : Json.Form Settings Settings :=
  Json.Form.make Settings.mk
    |>.optional "extension_name" .string extensionName
    |>.optional "runtime_api" .string runtimeApi
    |>.fieldOr "destination_addr" .string standardDestination destination
    |>.optional "buffering" BufferSettings.codec buffering
    |>.fieldOr "telemetry_types" (.list RecordClass.codec) [] telemetryClasses
    |>.fieldOr "log_types" (.list RecordClass.codec) [] logClasses

def codec : Json.Codec Settings :=
  .record form

end Settings

end Sidecar
