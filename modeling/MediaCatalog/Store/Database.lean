import MediaCatalog.Store.Table
import MediaCatalog.Text.Utf8

/-!
# Database files

A table kept in a file. The file begins with a mark that no text begins with; then follow the rows,
each as three texts with their lengths in front.

* `Table.bytes`: the content of a file that keeps a table.
* `Database.ofBytes`: what the content of a file is.
-/

namespace MediaCatalog

/-! ### Writing -/

namespace Database

/-- How the content of a database file begins. -/
def mark : List UInt8 := [0xFF, 0x63, 0x61, 0x74, 0x0A]

/-- The byte after a length. -/
def colon : UInt8 := 58

/-- A text with its length in bytes in front. -/
def textBytes (s : String) : List UInt8 :=
  let content := Text.Utf8.bytes s
  Text.Utf8.bytes (toString content.length) ++ colon :: content

/-- The bytes of a row. -/
def rowBytes (r : Row) : List UInt8 := textBytes r.key ++ textBytes r.field ++ textBytes r.value

end Database

/-- The content of a file that keeps a table. -/
def Table.bytes (t : Table) : ByteArray :=
  ⟨(Database.mark ++ t.rows.flatMap Database.rowBytes).toArray⟩

/-! ### Reading -/

namespace Database

/-- The number that decimal digits denote. -/
def lengthOf (digits : List UInt8) : Nat := digits.foldl (fun n b => n * 10 + (b.toNat - 48)) 0

/-- Whether a byte is a decimal digit. -/
def isDigit (b : UInt8) : Bool := 48 ≤ b && b ≤ 57

/-- A text at the beginning of bytes, and the bytes after it. -/
def text? (bytes : List UInt8) : Option (String × List UInt8) :=
  let digits := bytes.takeWhile isDigit
  match bytes.drop digits.length with
  | b :: rest =>
    let n := lengthOf digits
    if b = colon ∧ !digits.isEmpty ∧ n ≤ rest.length then
      (Text.Utf8.strict? (rest.take n)).map fun s => (s, rest.drop n)
    else none
  | [] => none

/-- A row at the beginning of bytes, and the bytes after it. -/
def row? (bytes : List UInt8) : Option (Row × List UInt8) := do
  let (key, bytes) ← text? bytes
  let (field, bytes) ← text? bytes
  let (value, bytes) ← text? bytes
  return (⟨key, field, value⟩, bytes)

/-- The rows in bytes, at most `n` of them. -/
def rows? : Nat → List UInt8 → Option (List Row)
  | _, [] => some []
  | 0, _ => none
  | n + 1, bytes => do
    let (row, rest) ← row? bytes
    return row :: (← rows? n rest)

/-- What the content of a file is. -/
inductive Content where
  /-- The file is empty; a table can still be kept in it. -/
  | blank
  | table (t : Table)
  /-- The file holds something else. -/
  | foreign

/-- What the content of a file is. -/
def ofBytes (content : ByteArray) : Content :=
  let bytes := content.toList
  if bytes.isEmpty then .blank
  else if mark.isPrefixOf bytes then
    match rows? bytes.length (bytes.drop mark.length) with
    | some rows => .table (rows.foldr (fun row t => t.upsert row) Table.empty)
    | none => .foreign
  else .foreign

end Database

end MediaCatalog
