import Sidecar.Config.Settings
import Sidecar.Config.Value

/-!
# Settings from values

The table that all layers make up is read field by field, in the order of the names. The first field
that does not fit is the error, with the path that leads to it.
-/

namespace Sidecar.Config

/-- How a value does not fit. -/
inductive Misfit where
  | invalidType
  | invalidValue
  | unknownVariant
  /-- The file is no text or no document. -/
  | unreadable
  deriving DecidableEq, Repr

structure Error where
  misfit : Misfit
  /-- The names and positions that lead to the value. -/
  path : List String
  deriving DecidableEq, Repr

abbrev Reading (α : Type) := Except Error α

namespace Reading

def fail (misfit : Misfit) : Reading α := .error ⟨misfit, []⟩

/-- Reads something further down the path. -/
def under (name : String) (r : Reading α) : Reading α :=
  match r with
  | .error e => .error { e with path := name :: e.path }
  | .ok value => .ok value

end Reading

open Reading

/-- Reads the items of a list, each under its position. -/
def readItems (read : Value → Reading α) : (position : Nat) → List Value → Reading (List α)
  | _, [] => .ok []
  | position, value :: rest => do
    let first ← under (toString position) (read value)
    return first :: (← readItems read (position + 1) rest)

def readText : Value → Reading String
  | .text value => .ok value
  | .char value => .ok (String.ofList [value])
  | _ => fail .invalidType

def readOptional (read : Value → Reading α) : Value → Reading (Option α)
  | .nothing => .ok none
  | value => (read value).map some

def readUnsigned (bound : Nat) : Value → Reading Nat
  | .integer n => if 0 ≤ n ∧ n < bound then .ok n.toNat else fail .invalidValue
  | _ => fail .invalidType

/-- The first name of a table in alphabetical order. -/
def firstName? : Members → Option String
  | [] => none
  | (name, _) :: rest =>
    match firstName? rest with
    | none => some name
    | some other => some (if other < name then other else name)

/-- The name of a class of records, as a text or as the first name in a table, with no value. -/
def readClass (value : Value) : Reading RecordClass :=
  let find (name : String) : Reading RecordClass :=
    match RecordClass.all.find? (·.name = name) with
    | some c => .ok c
    | none => fail .unknownVariant
  match value with
  | .text name => find name
  | .table members =>
    match firstName? members with
    | none => fail .invalidType
    | some name => do
      -- the path goes on with the name, also if nothing is known by it
      let c ← under name (find name)
      match members.lookup name with
      | some .nothing => .ok c
      | _ => under name (fail .invalidType)
  | _ => fail .invalidType

def readClasses : Value → Reading (List RecordClass)
  | .list items => readItems readClass 0 items
  | _ => fail .invalidType

/-- Reads a member of a table, or takes its default. -/
def readMember (members : Members) (name : String) (default : α) (read : Value → Reading α) :
    Reading α :=
  match members.lookup name with
  | some value => under name (read value)
  | none => .ok default

def readUInt32 (value : Value) : Reading UInt32 :=
  (readUnsigned UInt32.size value).map UInt32.ofNat

def readTimeout (value : Value) : Reading Timespan :=
  (readUnsigned UInt64.size value).map fun ms => .ofMillis (UInt64.ofNat ms)

/-- The thresholds, as a table or as a list in the order of the fields. What is left out has its
default. -/
def readBuffer : Value → Reading BufferSettings
  | .table members => do
    let standard := BufferSettings.standard
    let maxBytes ← readMember members "max_bytes" standard.maxBytes readUInt32
    let maxItems ← readMember members "max_items" standard.maxItems readUInt32
    let timeout ← readMember members "timeout" standard.timeout readTimeout
    return ⟨maxItems, maxBytes, timeout⟩
  | .list items => do
    let standard := BufferSettings.standard
    let members := ["0", "1", "2"].zip items
    let maxItems ← readMember members "0" standard.maxItems readUInt32
    let maxBytes ← readMember members "1" standard.maxBytes readUInt32
    let timeout ← readMember members "2" standard.timeout readTimeout
    return ⟨maxItems, maxBytes, timeout⟩
  | _ => fail .invalidType

def readSettings (members : Members) : Reading Settings := do
  let standard := Settings.standard
  let field {α : Type} := @readMember α members
  let buffering ← field "buffering" standard.buffering (readOptional readBuffer)
  let destination ← field "destination_addr" standard.destination readText
  let extensionName ← field "extension_name" standard.extensionName (readOptional readText)
  let logClasses ← field "log_types" standard.logClasses readClasses
  let runtimeApi ← field "runtime_api" standard.runtimeApi (readOptional readText)
  let telemetryClasses ← field "telemetry_types" standard.telemetryClasses readClasses
  return ⟨extensionName, runtimeApi, destination, buffering, telemetryClasses, logClasses⟩

end Sidecar.Config
