import MediaCatalog.Dict
import MediaCatalog.Number.Shortest
import MediaCatalog.Moment

/-!
# Values of configuration files

What a configuration file holds, whatever its format: scalars, lists, and tables of named values.

* `Value.find?`: the value at a path of names.
* `Value.overlay`: a value with another one laid over it; tables are joined, all else is replaced.
* `Value.put`: a value put at a path of names.
-/

namespace MediaCatalog

/-- A value of a configuration file. -/
inductive Value where
  | null
  | bool (b : Bool)
  | integer (n : Int)
  | float (x : Number.Binary64)
  | text (s : String)
  | moment (m : Moment)
  | list (items : List Value)
  /-- Entries are in ascending order of their names. -/
  | table (entries : List (String × Value))

/-- Named values, in ascending order of the names. -/
abbrev Entries := List (String × Value)

namespace Value

/-- The name of the one field that a moment has where a table is expected. -/
def momentField : String := "$__toml_private_datetime"

/-- The fields of a value: the entries of a table, the text of a moment. Other values have none. -/
def fields? : Value → Option Entries
  | table entries => some entries
  | moment m => some [(momentField, text m.text)]
  | _ => none

/-- The value at a path of names. -/
def find? (v : Value) : List String → Option Value
  | [] => some v
  | name :: path => match v with
    | table entries => (Pairs.get? name entries).bind fun child => child.find? path
    | _ => none

mutual

/-- A value with another one laid over it. -/
def overlay (below : Value) : Value → Value
  | table entries => table (overlayEntries (below.fields?.getD []) entries)
  | above => above

/-- Entries with others laid over them. -/
def overlayEntries (below : Entries) : Entries → Entries
  | [] => below
  | (name, v) :: rest =>
    let joined := match Pairs.get? name below with
      | some w => overlay w v
      | none => v
    Pairs.insert name joined (overlayEntries below rest)

end

/-- Puts a value at a path of names. Missing tables on the way are made and entered; another value in
the way stays and ends the attempt, as does a path without names. Tells whether the value was put, with
the entries as they are then. -/
def put (entries : Entries) (v : Value) : List String → Bool × Entries
  | [] => (false, entries)
  | [name] => (true, Pairs.insert name v entries)
  | name :: path =>
    match Pairs.get? name entries with
    | none =>
      let (done, inner) := put [] v path
      (done, Pairs.insert name (table inner) entries)
    | some (table inner) =>
      let (done, inner) := put inner v path
      (done, Pairs.replace name (table inner) entries)
    | some _ => (false, entries)

end Value

end MediaCatalog
