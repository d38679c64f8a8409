import Sidecar.Context

/-!
# Requests and responses

What is sent to the platform and what comes back. How the two are carried is no concern of the
library: looking up an address, connections and the headers that these need are left out, and what
matters of them is in `Exchange`.
-/

namespace Sidecar

structure Request where
  method : String
  path : String
  headers : List (String × String)
  body : List UInt8
  deriving DecidableEq, Repr

namespace Request

/-- The characters that the value of a header may have. -/
def isHeaderChar (c : Char) : Bool :=
  c = '\t' || (0x20 ≤ c.toNat && c.toNat ≠ 0x7F)

/-- A request whose headers cannot be written is not sent. -/
def isSendable (r : Request) : Bool :=
  r.headers.all fun (_, value) => value.toList.all isHeaderChar

end Request

/-- A response; the names of headers are in small letters. -/
structure Response where
  status : UInt16
  headers : List (String × List UInt8)
  body : List UInt8
  deriving DecidableEq, Repr

namespace Response

/-- The value of a header, if all of it can be printed. -/
def header? (r : Response) (name : String) : Option String :=
  ((r.headers.lookup name).filter (·.all fun b => b = 9 || (0x20 ≤ b && b < 0x7F))).map
    fun bytes => String.ofList (bytes.map fun b => Char.ofNat b.toNat)

end Response

inductive Exchange where
  | answered (response : Response)
  /-- The connection could not be made or broke. -/
  | lost
  /-- The context of the request stopped before there was an answer. -/
  | abandoned (stop : Stop)
  deriving DecidableEq, Repr

end Sidecar
