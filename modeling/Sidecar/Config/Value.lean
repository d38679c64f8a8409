import Sidecar.Named

/-!
# Configured values

Settings come from several layers: the defaults, a file and two sets of environment variables. Each
layer is a table of values, and `Value.merge` lays one layer over another: tables are merged name by
name, everything else is replaced.
-/

namespace Sidecar.Config

inductive Value where
  /-- A value that is left open. -/
  | nothing
  | truth (value : Bool)
  | integer (value : Int)
  /-- A number that is not written as an integer. No setting is of this kind, so it has no value. -/
  | real
  | text (value : String)
  | char (value : Char)
  | list (items : List Value)
  | table (members : List (String × Value))
  deriving Inhabited, Repr

abbrev Members := List (String × Value)

mutual

/-- Lays a value over another one. -/
def Value.merge (lower : Value) : Value → Value
  | .table upper =>
    match lower with
    | .table members => .table (mergeMembers members upper)
    | _ => .table upper
  | upper => upper

def mergeMembers (lower : Members) : Members → Members
  | [] => lower
  | member :: rest => mergeMembers (mergeMember lower member) rest

def mergeMember (lower : Members) : String × Value → Members
  | (name, upper) =>
    match lower.lookup name with
    | some value => Named.put name (value.merge upper) lower
    | none => Named.put name upper lower

end

/-- The value at the end of a path of names, as a layer of its own. -/
def nest (path : List String) (value : Value) : Value :=
  path.foldr (fun name inner => .table [(name, inner)]) value

end Sidecar.Config
