import Sidecar.Config.Reading
import Sidecar.Config.Toml.Document
import Sidecar.Config.Variable

/-!
# Layers of settings

Settings come from four layers, each of which is laid over the one before it: what holds when
nothing is configured, a file, the address of the platform that the platform itself has put into the
environment, and the variables that configure.
-/

namespace Sidecar.Config

/-- What holds when nothing is configured. -/
def standardLayer : Value :=
  .table [("extension_name", .nothing), ("runtime_api", .nothing),
    ("destination_addr", .text Settings.standardDestination), ("buffering", .nothing),
    ("telemetry_types", .list []), ("log_types", .list [])]

def fileLayer : Option (List UInt8) → Reading Value
  | none => .ok (.table [])
  | some bytes =>
    match (Utf8.decode? bytes).bind Toml.parse? with
    | some members => .ok (.table members)
    | none => .error ⟨.unreadable, []⟩

/-- The layer of the address that the platform has put into the environment. -/
def platformLayer (env : Environment) : Value :=
  match env.runtimeApi with
  | some address => .table [("runtime_api", .text address)]
  | none => .table []

def layers (file : Value) (env : Environment) : Value :=
  [file, platformLayer env, Variable.layer env].foldl Value.merge standardLayer

def load (file : Option (List UInt8)) (env : Environment) : Reading Settings := do
  match layers (← fileLayer file) env with
  | .table members => readSettings members
  | _ => Reading.fail .invalidType

end Sidecar.Config
