import MediaCatalog.Query.Selection
import MediaCatalog.Store.Table

/-!
# Narrowing a search in the database

Before entries are tested in memory, the database leaves out entries that cannot match: comparisons
for equality and for a common start are made there, and a clause on a field needs that field. The
database compares starts with `substr` and `length`, which see a text only up to its first NUL
character.

* `Clause.keeps`: the condition that the database puts on a key for one clause.
* `Table.candidates`: the entries of the keys that every clause keeps.
-/

namespace MediaCatalog

namespace Query

/-- The part of a text that the database's string functions see. -/
def visible (text : String) : List Char := text.toList.takeWhile (· ≠ '\x00')

/-- The database's test for a common start: the first characters of the text, as many as the
argument is long, are the argument. -/
def startsInDatabase (argument text : String) : Bool :=
  (visible text).take (visible argument).length == argument.toList

/-- The part of a test that the database makes. -/
def Test.admits (text : String) : Test → Bool
  | equals argument => text == argument
  | beginsWith argument => startsInDatabase argument text
  | _ => true

/-- Whether the database keeps a key for a clause, given the rows of the table. A clause on a field
needs a row of that key and field, with a value that passes. -/
def Clause.keeps (rows : List Row) (c : Clause) (key : String) : Bool :=
  match c.target with
  | .key => c.test.admits key
  | .field name => rows.any fun r => r.key == key && r.field == name && c.test.admits r.value

end Query

namespace Table

/-- The keys that the database keeps for every clause. -/
def keptKeys (t : Table) (clauses : List Query.Clause) : List String :=
  (t.rows.filter fun r => clauses.all fun c => c.keeps t.rows r.key).map (·.key)

/-- The entries that the database lets pass for every clause, with all their fields: the rows of
the kept keys, put together. -/
def candidates (t : Table) (clauses : List Query.Clause) : List Entry :=
  let keys := t.keptKeys clauses
  Rows.collect (t.rows.filter fun r => keys.contains r.key)

end Table

end MediaCatalog
