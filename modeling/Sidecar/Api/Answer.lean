import Sidecar.Json.Codec

/-!
# Answers of the platform

A report of an error is acknowledged. A call that is turned down is answered with a rejection, which
says why.
-/

namespace Sidecar

structure Acknowledgement where
  /-- `OK` if the report was taken. -/
  status : String
  deriving DecidableEq, Repr

namespace Acknowledgement

def form : Json.Form Acknowledgement Acknowledgement :=
  Json.Form.make Acknowledgement.mk
    |>.field "status" .string status

def codec : Json.Codec Acknowledgement :=
  .record form

end Acknowledgement

/-- Why the platform turns a call down. -/
structure Rejection where
  /-- The status of the answer, which is not part of its body. -/
  status : UInt16
  type : String
  details : String
  deriving DecidableEq, Repr

namespace Rejection

def form (status : UInt16) : Json.Form Rejection Rejection :=
  Json.Form.make (Rejection.mk status)
    |>.field "errorType" .string type
    |>.field "errorMessage" .string details

def codec (status : UInt16) : Json.Codec Rejection :=
  .record (form status)

def message (r : Rejection) : String :=
  "Lambda API returned status " ++ toString r.status.toNat ++ ": type=" ++ r.type ++
    ", message=" ++ r.details

end Rejection

end Sidecar
