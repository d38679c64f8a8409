import Sidecar.Config.Value

/-!
# Tables of TOML

A table grows statement by statement: by a header, by the keys under a header, or by dotted keys.
How it came about decides what may still be added to it.
-/

namespace Sidecar.Config.Toml

/-- How a table came about. -/
inductive Origin where
  | header
  /-- As part of the name in a header. -/
  | implied
  /-- As part of a dotted key. -/
  | dotted
  deriving DecidableEq, Repr

inductive Entry where
  | leaf (value : Value)
  | table (origin : Origin) (entries : List (String × Entry))
  /-- An array of tables, the newest first. -/
  | tables (items : List (List (String × Entry)))

abbrev Entries := List (String × Entry)

mutual

def Entry.value : Entry → Value
  | .leaf value => value
  | .table _ entries => .table (membersOf entries)
  | .tables items => .list (tablesOf items).reverse

def membersOf : List (String × Entry) → Members
  | [] => []
  | entry :: rest => memberOf entry :: membersOf rest

def memberOf : String × Entry → String × Value
  | (key, entry) => (key, entry.value)

def tablesOf : List (List (String × Entry)) → List Value
  | [] => []
  | entries :: rest => .table (membersOf entries) :: tablesOf rest

end

/-- Changes the table at the end of a path. Tables on the way that are not there yet are made; of an
array of tables the newest one counts. A dotted key does not lead into a table with a header. -/
def descend (isDotted : Bool) (change : Origin → Entries → Option Entries) :
    List String → Origin → Entries → Option Entries
  | [], origin, entries => change origin entries
  | key :: path, _, entries =>
    match entries.lookup key with
    | none => do
      let origin := if isDotted then Origin.dotted else .implied
      return Named.put key (.table origin (← descend isDotted change path origin [])) entries
    | some (.table origin inner) => do
      if isDotted && origin = .header then none
      return Named.put key (.table origin (← descend isDotted change path origin inner)) entries
    | some (.tables (newest :: others)) => do
      let newest ← descend isDotted change path .header newest
      return Named.put key (.tables (newest :: others)) entries
    | _ => none

/-- Gives a key its value. No key has two values, and dotted keys add to none but the tables that
dotted keys have made. -/
def assign (path : List String) (key : String) (value : Value) : Entries → Option Entries :=
  let add (origin : Origin) (entries : Entries) : Option Entries :=
    if path.isEmpty = (origin = .dotted) then none
    else if (entries.lookup key).isSome then none
    else some (Named.put key (.leaf value) entries)
  descend true add path .header

/-- Opens the table with a name in a header. It must not have been opened before. -/
def openTable (path : List String) (key : String) : Entries → Option Entries :=
  let add (_ : Origin) (entries : Entries) : Option Entries :=
    match entries.lookup key with
    | none => some (Named.put key (.table .header []) entries)
    | some (.table .implied inner) => some (Named.put key (.table .header inner) entries)
    | _ => none
  descend false add path .header

/-- Opens one more table of an array. -/
def openItem (path : List String) (key : String) : Entries → Option Entries :=
  let add (_ : Origin) (entries : Entries) : Option Entries :=
    match entries.lookup key with
    | none => some (Named.put key (.tables [[]]) entries)
    | some (.tables items) => some (Named.put key (.tables ([] :: items)) entries)
    | _ => none
  descend false add path .header

end Sidecar.Config.Toml
