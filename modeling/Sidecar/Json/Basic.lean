import Sidecar.Named
import Sidecar.Number.Binary64

/-!
# JSON values

The values that JSON text denotes. An object keeps its members in the order in which they were
written, and a name may stand in it more than once; `Json.withoutDuplicates` is the policy that the
last member of a name counts.
-/

namespace Sidecar

namespace Json

/-- A number without fraction and exponent stays an integer while it fits into 64 bits, signed or
unsigned; every other number is a double. -/
inductive Number where
  | integer (value : Int)
  | real (value : Binary64)
  deriving DecidableEq, Repr

/-- The integers that a number written in JSON may be. -/
def Number.InRange : Number → Prop
  | .integer value => -0x8000000000000000 ≤ value ∧ value < 0x10000000000000000
  | .real value => value.isFinite

end Json

inductive Json where
  | null
  | bool (value : Bool)
  | number (value : Json.Number)
  | string (value : String)
  | array (items : List Json)
  | object (members : List (String × Json))
  deriving Inhabited, Repr

namespace Json

def ofInt (value : Int) : Json :=
  .number (.integer value)

/-- The members of an object, of each name only the last one. -/
def lastOfEach (members : List (String × Json)) : List (String × Json) :=
  members.foldl (fun kept member => Named.put member.1 member.2 kept) []

def get? (name : String) : Json → Option Json
  | .object members => members.lookup name
  | _ => none

mutual

/-- The value in which every object has only the last member of each name. -/
def withoutDuplicates : Json → Json
  | .array items => .array (itemsWithoutDuplicates items)
  | .object members => .object (lastOfEach (membersWithoutDuplicates members))
  | value => value

def itemsWithoutDuplicates : List Json → List Json
  | [] => []
  | item :: rest => withoutDuplicates item :: itemsWithoutDuplicates rest

def membersWithoutDuplicates : List (String × Json) → List (String × Json)
  | [] => []
  | member :: rest => memberWithoutDuplicates member :: membersWithoutDuplicates rest

def memberWithoutDuplicates : String × Json → String × Json
  | (name, value) => (name, withoutDuplicates value)

end

end Json

end Sidecar
