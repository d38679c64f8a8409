import Sidecar.Failure
import Sidecar.Json.Codec
import Sidecar.Text.Quoted
import Sidecar.Time.Instant

/-!
# Elements of a batch

The platform pushes records as elements of an array. An element has a time, a type and a record
whose shape the type decides. Reading it takes two steps: first the envelope is read, with any
value as its record, then the record is read as its type demands. So an element whose envelope is at
fault never counts as one of unknown type, and the type is looked at before the record.
-/

namespace Sidecar

/-- What goes wrong when a batch is decoded. -/
inductive DecodeError where
  | malformedArray (finding : String)
  | body (cause : Failure)
  /-- An element is not an envelope. -/
  | element (fault : Json.Fault)
  /-- An element has a type that the stream does not know. -/
  | unknownType (type : String)
  /-- The record of an element does not have the shape of its type. -/
  | record (type : String) (fault : Json.Fault)
  /-- Decoding was given up. -/
  | interrupted
  /-- Nobody receives events any more. -/
  | channelClosed
  deriving DecidableEq, Repr

namespace DecodeError

def failure : DecodeError → Failure
  | .malformedArray finding => .plain ("malformed json array: " ++ finding)
  | .body cause => .because "could not read batch body" cause
  | .element fault =>
    .because "could not decode event from json array" (Foreign.json fault).failure
  | .unknownType type => .plain ("could not decode unknown event type " ++ Text.quote type)
  | .record type fault =>
    .because ("could not decode record for event type " ++ type) (Foreign.json fault).failure
  | .interrupted => .plain "decoding was interrupted"
  | .channelClosed => .plain "event channel closed"

def message (e : DecodeError) : String := e.failure.message

end DecodeError

def Instant.codec : Json.Codec Instant :=
  Json.Codec.string.refine parse? text

/-- An element before its record has been looked at. -/
structure Envelope where
  type : String
  time : Instant
  /-- Null if there is none. -/
  record : Json

namespace Envelope

def form : Json.Form Envelope Envelope :=
  Json.Form.make Envelope.mk
    |>.field "type" .string type
    |>.field "time" Instant.codec time
    |>.fieldOr "record" .anything .null record

def codec : Json.Codec Envelope :=
  .record form

end Envelope

/-- A record with the time at which the platform made it. -/
structure Stamped (ρ : Type) where
  time : Instant
  record : ρ
  deriving DecidableEq, Repr

/-- The records of a stream: their types, and how each is read and written. -/
structure RecordFamily (ρ : Type) where
  kind : ρ → String
  reader : String → Option (Json → Option ρ)
  /-- The type that a record is written with. -/
  tag : ρ → String
  write : ρ → Json

namespace RecordFamily

/-- Reads a record of a given type. -/
def readRecord (family : RecordFamily ρ) (type : String) (record : Json) : Except DecodeError ρ :=
  match family.reader type with
  | none => .error (.unknownType type)
  | some read =>
    match read record with
    | some record => .ok record
    | none => .error (.record type .mismatched)

def decode (family : RecordFamily ρ) (raw : List UInt8) : Except DecodeError (Stamped ρ) :=
  match Envelope.codec.decode raw with
  | .error fault => .error (.element fault)
  | .ok envelope => (family.readRecord envelope.type envelope.record).map (⟨envelope.time, ·⟩)

def writeTagged (family : RecordFamily ρ) (record : ρ) : Json :=
  .object [("type", .string (family.tag record)), ("record", family.write record)]

end RecordFamily

end Sidecar
