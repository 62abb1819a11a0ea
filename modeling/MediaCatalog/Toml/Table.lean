import MediaCatalog.Value

/-!
# Tables under construction

A table grows statement by statement. A finished value takes no further entries; a table that a
header opened may be extended only by headers of tables within it, and one that a dotted key made
only by dotted keys in the same place.

* `putValue?`, `openTable?`, `addElement?`: what the statements do to the tables.
* `plainEntries`: the finished entries.
-/

namespace MediaCatalog.Toml

/-- A path of names. -/
abbrev Path := List String

/-- How a table came about. -/
inductive Origin where
  /-- A header names the table. -/
  | header
  /-- A dotted key passed through the table. -/
  | dotted
  /-- Only headers of tables within it mentioned the table so far. -/
  | implied
  deriving DecidableEq, Repr

/-- A named part of a table under construction. -/
inductive Item where
  | value (v : Value)
  | table (origin : Origin) (items : List (String × Item))
  /-- A list of tables, of which the last may still grow. -/
  | elements (earlier : List (List (String × Item))) (last : List (String × Item))

/-- The named parts of a table, in ascending order of their names. -/
abbrev Items := List (String × Item)

/-! ### Growing -/

/-- Changes the table at a path below another. Missing tables are made; a path goes on in the last
element of a list of tables. A dotted path does not enter a table that a header opened. -/
def alter? (dotted : Bool) (change : Origin → Items → Option Items) (origin : Origin) (items : Items) :
    Path → Option Items
  | [] => change origin items
  | name :: path =>
    match Pairs.get? name items with
    | none =>
      let made := if dotted then Origin.dotted else .implied
      (alter? dotted change made [] path).map fun inner => Pairs.insert name (.table made inner) items
    | some (.value _) => none
    | some (.table known inner) =>
      if dotted && known = .header then none
      else (alter? dotted change known inner path).map fun inner => Pairs.insert name (.table known inner) items
    | some (.elements earlier last) =>
      (alter? dotted change .header last path).map fun last =>
        Pairs.insert name (.elements earlier last) items

/-- Puts a value at a dotted path below a table. The name must be new, and a table takes entries
either directly or through dotted keys, not both. -/
def putBelow? (path : Path) (v : Value) (origin : Origin) (items : Items) : Option Items :=
  match path.getLast? with
  | none => none
  | some name =>
    let way := path.dropLast
    alter? true (fun reached inner =>
      if (reached = .dotted) = way.isEmpty then none
      else if (Pairs.get? name inner).isSome then none
      else some (Pairs.insert name (.value v) inner)) origin items way

/-- Puts a value at a path below the table of a header. -/
def putValue? (header path : Path) (v : Value) (items : Items) : Option Items :=
  alter? false (putBelow? path v) .header items header

/-- Opens the table at a path, which is new or was only implied. -/
def openTable? (path : Path) (items : Items) : Option Items :=
  match path.getLast? with
  | none => none
  | some name =>
    alter? false (fun _ inner =>
      match Pairs.get? name inner with
      | none => some (Pairs.insert name (.table .header []) inner)
      | some (.table .implied known) => some (Pairs.insert name (.table .header known) inner)
      | some _ => none) .header items path.dropLast

/-- Adds an element to the list of tables at a path, which is new or has such elements already. -/
def addElement? (path : Path) (items : Items) : Option Items :=
  match path.getLast? with
  | none => none
  | some name =>
    alter? false (fun _ inner =>
      match Pairs.get? name inner with
      | none => some (Pairs.insert name (.elements [] []) inner)
      | some (.elements earlier last) => some (Pairs.insert name (.elements (earlier ++ [last]) []) inner)
      | some _ => none) .header items path.dropLast

/-! ### Finished tables -/

mutual

/-- The value that an item has become. -/
def Item.plain : Item → Value
  | .value v => v
  | .table _ items => .table (plainEntries items)
  | .elements earlier last => .list (plainElements earlier ++ [.table (plainEntries last)])

/-- The entries that items have become. -/
def plainEntries : Items → Entries
  | [] => []
  | (name, item) :: rest => (name, item.plain) :: plainEntries rest

/-- The elements that tables have become. -/
def plainElements : List Items → List Value
  | [] => []
  | items :: rest => .table (plainEntries items) :: plainElements rest

end

/-- The entries of a table on one line with the given pairs. -/
def entriesOfPairs? (pairs : List (Path × Value)) : Option Entries :=
  (pairs.foldlM (fun items (path, v) => putBelow? path v .header items) []).map plainEntries

end MediaCatalog.Toml
