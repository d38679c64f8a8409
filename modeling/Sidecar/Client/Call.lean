import Sidecar.Client.Error
import Sidecar.Client.Http

/-!
# Calls

A call is a request, the status that says that it was taken, and the reading of the response then.
Any other status means that the platform has turned the call down.
-/

namespace Sidecar

structure Call (α : Type) where
  request : Request
  expected : UInt16
  read : Response → Except CallError α

namespace Call

def readBody (codec : Json.Codec α) (r : Response) : Except CallError α :=
  match codec.decode r.body with
  | .ok value => .ok value
  | .error fault => .error (.unreadable (Utf8.lossy r.body) fault)

def refusal (r : Response) : CallError :=
  let body := Utf8.lossy r.body
  match (Rejection.codec r.status).decode (Utf8.encode body) with
  | .ok rejection => .rejected rejection
  | .error _ => .unexpectedStatus r.status body

/-- The result of the call, once something has come of its request. -/
def result (call : Call α) : Exchange → Except CallError α
  | .answered r => if r.status = call.expected then call.read r else .error (refusal r)
  | .lost => .error .transport
  | .abandoned stop => .error (.interrupted stop)

/-- The error of a call whose request cannot be made. That its context has stopped is noticed first. -/
def unmade : Option Stop → CallError
  | some stop => .interrupted stop
  | none => .transport

/-- Makes a call in a context that has stopped or goes on: its result, and the request if it was
sent. `exchange` is what comes of the request. -/
def perform (call : Call α) (stopped : Option Stop) (exchange : Exchange) :
    Except CallError α × Option Request :=
  match stopped with
  | some stop => (.error (.interrupted stop), none)
  | none =>
    if call.request.isSendable then (call.result exchange, some call.request)
    else (.error .transport, none)

end Call

end Sidecar
