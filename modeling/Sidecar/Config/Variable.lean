import Sidecar.Config.Environment
import Sidecar.Config.Literal

/-!
# Variables that configure

A variable whose name starts with `LAMBDA_EXTENSION_`, in capital or small letters, configures what
the rest of its name says. Two underscores lead into a table:
`LAMBDA_EXTENSION_BUFFERING__MAX_ITEMS` is the member `max_items` of the table `buffering`.
-/

namespace Sidecar.Config.Variable

/-- What the names start with, in small letters. -/
def start : List Char := "lambda_extension_".toList

/-- Puts a dot in the place of every two underscores. -/
def dotted : List Char → List Char
  | [] => []
  | '_' :: '_' :: rest => '.' :: dotted rest
  | c :: rest => c :: dotted rest

def splitAtDots : List Char → List (List Char)
  | [] => [[]]
  | c :: rest =>
    match splitAtDots rest with
    | [] => [[c]]
    | part :: parts => if c = '.' then [] :: part :: parts else (c :: part) :: parts

/-- The path of names that the name of a variable spells, if it is one that configures. -/
def path? (name : String) : Option (List String) :=
  let cs := (Text.trim name.toList).map Char.toLower
  if start.isPrefixOf cs then
    let parts := splitAtDots (Text.trim (dotted (cs.drop start.length)))
    if parts.any List.isEmpty then none else some (parts.map String.ofList)
  else none

/-- The layer of one variable. Bytes that are no text are replaced. -/
def layer? (name : String) (value : List UInt8) : Option Value :=
  (path? name).map fun path => nest path (Literal.parse (Utf8.lossy value).toList)

/-- The layer of all variables; a later one is laid over the ones before it. -/
def layer (env : Environment) : Value :=
  (env.filterMap fun (name, value) => layer? name value).foldl Value.merge (.table [])

end Sidecar.Config.Variable
