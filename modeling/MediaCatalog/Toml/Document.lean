import MediaCatalog.Toml.Statement

/-!
# Documents

A document is a table of named values, written as statements.

* `entriesOf?`: the table that statements describe; `statementsOf`: statements that describe a
  table.
* `read?`, `render`: the same for texts.
-/

namespace MediaCatalog.Toml

/-! ### From statements to tables -/

/-- The tables that statements have built so far, and the path of the last header. -/
structure Progress where
  items : Items
  header : Path

/-- What a statement adds. -/
def Progress.add? (p : Progress) : Statement → Option Progress
  | .entry path v => (putValue? p.header path v p.items).map fun items => ⟨items, p.header⟩
  | .table path => (openTable? path p.items).map fun items => ⟨items, path⟩
  | .element path => (addElement? path p.items).map fun items => ⟨items, path⟩

/-- The table that statements describe, unless they contradict each other. -/
def entriesOf? (statements : List Statement) : Option Entries :=
  (statements.foldlM Progress.add? ⟨[], []⟩).map fun p => plainEntries p.items

/-- The entries of a document. -/
def read? (text : String) : Option Entries := (readStatements? text).bind entriesOf?

/-! ### From tables to statements -/

/-- Whether a value is written under a header of its own: a table, or a list of nothing but
tables. -/
def needsHeader : Value → Bool
  | .table _ => true
  | .list items => !items.isEmpty && items.all fun item => match item with
    | .table _ => true
    | _ => false
  | _ => false

/-- The statements for the entries of a table that need no header. -/
def plainStatements (entries : Entries) : List Statement :=
  (entries.filter fun e => !needsHeader e.2).map fun e => .entry [e.1] e.2

/-- The header of a table, left out if the table only holds what has headers itself. -/
def headerOf (path : Path) (entries : Entries) : List Statement :=
  if entries.isEmpty || !(plainStatements entries).isEmpty then [.table path] else []

mutual

/-- The statements for a value at a path, if it needs a header. -/
def partStatements (path : Path) : Value → List Statement
  | .table entries => headerOf path entries ++ plainStatements entries ++ innerStatements path entries
  | .list items => if needsHeader (.list items) then elementStatements path items else []
  | _ => []

/-- The statements for those entries of the table at a path that need headers. -/
def innerStatements (path : Path) : Entries → List Statement
  | [] => []
  | (name, v) :: rest => partStatements (path ++ [name]) v ++ innerStatements path rest

/-- The statements for the elements of a list of tables. -/
def elementStatements (path : Path) : List Value → List Statement
  | [] => []
  | .table entries :: rest =>
    .element path :: plainStatements entries ++ innerStatements path entries ++ elementStatements path rest
  | _ :: rest => elementStatements path rest

end

/-- Statements that describe a table: the entries without headers come before those with one, in
the order of their names. -/
def statementsOf (entries : Entries) : List Statement :=
  plainStatements entries ++ innerStatements [] entries

/-- The written form of a table. -/
def render (entries : Entries) : String := writeStatements (statementsOf entries)

end MediaCatalog.Toml
