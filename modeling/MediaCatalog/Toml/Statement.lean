import MediaCatalog.Toml.Scalar
import MediaCatalog.Toml.Table

/-!
# Statements

A document is a sequence of statements, one on a line: a key with its value, the header of a table,
or the header of an element of a list of tables. A key is a path of names.

* `readStatements?`: the statements of a document.
* `writeStatements`: the document with given statements.
-/

namespace MediaCatalog.Toml

open Text

/-- A statement of a document. -/
inductive Statement where
  /-- A value at a path below the last header. -/
  | entry (path : Path) (value : Value)
  /-- What follows belongs to the table at a path. -/
  | table (path : Path)
  /-- What follows belongs to a new element of the list at a path. -/
  | element (path : Path)

/-! ### Reading -/

/-- Neither keys nor lists and tables within each other reach this depth. -/
def maxDepth : Nat := 80

/-- Reads blanks, however many there are. -/
def readSpaces : Reader Unit := discard (Reader.takeWhile isSpace)

/-- Reads a line break. -/
def readLineBreak : Reader Unit := fun text => (lineBreak? text).map fun rest => ((), rest)

/-- Reads a comment, which goes on to the end of the line. -/
def readComment : Reader Unit := do
  Reader.exactly "#"
  discard (Reader.takeWhile isPlain)

/-- Reads what may stand between a statement and the next: blanks, a comment, and the line break
unless the document ends. -/
def readLineEnd : Reader Unit := do
  readSpaces
  discard (Reader.optional readComment)
  readLineBreak <|> Reader.atEnd

/-- Reads blanks, comments and line breaks between the items of a list. -/
def readGap : Reader Unit :=
  discard (Reader.repeated (discard (Reader.takeSome isSpace) <|> readLineBreak <|> readComment))

/-- Reads a key: names with points between them. -/
def readKey : Reader Path := do
  let name := do readSpaces; let n ← readName; readSpaces; return n
  let path ← Reader.separated name (Reader.exactly ".")
  if path.isEmpty || maxDepth ≤ path.length then failure else return path

/-- Reads the items of a list after its opening bracket. -/
def readItems (value : Reader Value) : Reader (List Value) := do
  let items ← Reader.separated (do readGap; let v ← value; readGap; return v) (Reader.exactly ",")
  if !items.isEmpty then discard (Reader.optional (Reader.exactly ","))
  readGap
  Reader.exactly "]"
  return items

/-- Reads a key with its value. -/
def readPair (value : Reader Value) : Reader (Path × Value) := do
  let path ← readKey
  Reader.exactly "="
  readSpaces
  let v ← value
  readSpaces
  return (path, v)

/-- Reads the pairs of a table on one line after its opening brace. -/
def readPairs (value : Reader Value) : Reader (List (Path × Value)) := do
  let pairs ← Reader.separated (readPair value) (Reader.exactly ",")
  readSpaces
  Reader.exactly "\x7d"
  return pairs

/-- Reads a value with lists and tables to a given depth within it. -/
def readValue : Nat → Reader Value
  | 0 => do
    match ← Reader.peek with
    | some '[' => failure
    | some '\x7b' => failure
    | _ => readScalar
  | depth + 1 => do
    match ← Reader.peek with
    | some '[' => Reader.exactly "["; Value.list <$> readItems (readValue depth)
    | some '\x7b' =>
      Reader.exactly "\x7b"
      match entriesOfPairs? (← readPairs (readValue depth)) with
      | some entries => return .table entries
      | none => failure
    | _ => readScalar

/-- Reads a statement up to the next one; nothing comes of a line without one. -/
def readStatement : Reader (Option Statement) := do
  readSpaces
  match ← get with
  | [] => failure
  | '#' :: _ => readLineEnd; return none
  | '\n' :: _ => readLineEnd; return none
  | '\r' :: _ => readLineEnd; return none
  | '[' :: '[' :: _ =>
    Reader.exactly "[["
    let path ← readKey
    Reader.exactly "]]"
    readLineEnd
    return some (.element path)
  | '[' :: _ =>
    Reader.exactly "["
    let path ← readKey
    Reader.exactly "]"
    readLineEnd
    return some (.table path)
  | _ =>
    let (path, v) ← readPair (readValue (maxDepth - 1))
    readLineEnd
    return some (.entry path v)

/-- The statements of a document, which may begin with a byte order mark. -/
def readStatements? (text : String) : Option (List Statement) :=
  let text := match text.toList with
    | '\uFEFF' :: rest => rest
    | rest => rest
  (Reader.whole? (do
    let lines ← Reader.repeated readStatement
    readSpaces
    return lines.filterMap id) text)

/-! ### Writing -/

mutual

/-- The written form of a value. A list of two or more items has a line for each of them. -/
def writeValue : Value → String
  | .null => "\"\""
  | .bool b => if b then "true" else "false"
  | .integer n => toString n
  | .float x => writeFloat x
  | .text s => write s
  | .moment m => m.text
  | .list [] => "[]"
  | .list [item] => "[" ++ writeValue item ++ "]"
  | .list items => "[" ++ writeItems items ++ "\n]"
  | .table [] => "\x7b\x7d"
  | .table ((name, v) :: rest) =>
    "\x7b " ++ writeName name ++ " = " ++ writeValue v ++ writePairs rest ++ " \x7d"

/-- The items of a list, each on its own line and with a comma after it. -/
def writeItems : List Value → String
  | [] => ""
  | item :: rest => "\n    " ++ writeValue item ++ "," ++ writeItems rest

/-- Further pairs of a table on one line. -/
def writePairs : Entries → String
  | [] => ""
  | (name, v) :: rest => ", " ++ writeName name ++ " = " ++ writeValue v ++ writePairs rest

end

/-- The written form of a key. -/
def writeKey (path : Path) : String := ".".intercalate (path.map writeName)

/-- The written form of a statement. -/
def writeStatement : Statement → String
  | .entry path v => writeKey path ++ " = " ++ writeValue v ++ "\n"
  | .table path => "[" ++ writeKey path ++ "]\n"
  | .element path => "[[" ++ writeKey path ++ "]]\n"

/-- Whether a statement is a header. -/
def Statement.isHeader : Statement → Bool
  | .entry _ _ => false
  | _ => true

/-- The document with given statements: each header but a first one follows an empty line. -/
def writeStatements : List Statement → String
  | [] => ""
  | first :: rest =>
    writeStatement first ++
      String.join (rest.map fun s => (if s.isHeader then "\n" else "") ++ writeStatement s)

end MediaCatalog.Toml
