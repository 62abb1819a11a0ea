import MediaCatalog.Text.Blank
import MediaCatalog.Toml.Quoted
import MediaCatalog.Value

/-!
# Environment variables

Variables whose names begin with `HASHFS_` override single values of the configuration. Two
underscores in a name lead into a table.

* `settingPath?`: the path that the name of a variable stands for.
* `settingOf`: the value that the text of a variable denotes.
* `Environment.entries`: what all variables together say.
* `Environment.configDirectory?`, `Environment.dataDirectory?`: where the user's files are.
-/

namespace MediaCatalog

open Text

namespace Setting

/-! ### Names -/

/-- How the names of the variables begin, in any case. -/
def namePrefix : List Char := "hashfs_".toList

/-- The text with each pair of underscores replaced by a point. -/
def withPoints : List Char → List Char
  | '_' :: '_' :: rest => '.' :: withPoints rest
  | c :: rest => c :: withPoints rest
  | [] => []

/-- The path that the name of a variable stands for; a name without the prefix stands for none, nor
does the bare prefix. An empty part ends the path. -/
def settingPath? (name : String) : Option (List String) :=
  let name := (trimChars name.toList).map Char.toLower
  if namePrefix.isPrefixOf name && namePrefix.length < name.length then
    let parts := (withPoints (name.drop namePrefix.length)).splitOnP (· == '.')
    some ((parts.takeWhile fun part => !part.isEmpty).map String.ofList)
  else none

/-! ### Values -/

/-- A blank around values. -/
def isSpace (c : Char) : Bool := c == ' ' || c == '\t'

/-- A character that begins, ends or separates values. -/
def isDelimiter (c : Char) : Bool :=
  c == ',' || c == '[' || c == ']' || c == '\x7b' || c == '\x7d'

/-- Reads blanks, however many there are. -/
def readSpaces : Reader Unit := discard (Reader.takeWhile isSpace)

/-- Reads a string between double quotes. -/
def readQuoted : Reader String := do
  Reader.exactly "\""
  fun text => (Toml.basic? text).map fun (content, rest) => (String.ofList content, rest)

/-- Reads a single character between quotes. -/
def readCharacter : Reader Value := do
  Reader.exactly "'"
  let c ← Reader.one fun _ => true
  Reader.exactly "'"
  return .text c.toString

/-- Whether a text is an integer of 64 bits, with a sign or without. -/
def integer? : List Char → Option Int
  | '-' :: digits =>
    if digits.isEmpty then none
    else (Number.digitsValue? digits).bind fun n => if n ≤ Number.signedBound64 then some (-(n : Int)) else none
  | text => (Number.word64? text).map fun n => (n : Int)

/-- The value of a bare word: a number if it reads as one, else the word itself. -/
def wordValue (word : List Char) : Value :=
  let float := if word.contains '.' then Number.Binary64.ofText? word else none
  match float, integer? word with
  | some x, _ => .float x
  | none, some n => .integer n
  | none, none => .text (String.ofList word)

/-- Reads a bare word, which may be empty. -/
def readWord : Reader Value := do
  return wordValue (trimChars (← Reader.takeWhile fun c => !isDelimiter c))

/-- Reads what stands between commas up to the closing bracket; a comma may precede the bracket. At
most `n` items are read. -/
def readListed {α : Type} (item : Reader α) (closing : Char) : Nat → Reader (List α)
  | 0 => failure
  | n + 1 => do
    if (← Reader.peek) == some closing then
      Reader.exactly closing.toString
      return []
    else
      let a ← item
      match ← Reader.optional (Reader.exactly ",") with
      | some _ => return a :: (← readListed item closing n)
      | none =>
        Reader.exactly closing.toString
        return [a]

/-- Reads the name of an entry and the equals sign. -/
def readName : Reader String := do
  readSpaces
  let name ← if (← Reader.peek) == some '"' then readQuoted
    else String.ofList <$> Reader.takeSome fun c => c.isAlphanum || c == '_' || c == '-'
  readSpaces
  Reader.exactly "="
  return name

/-- Reads a value with lists and tables to a given depth. -/
def readValue : Nat → Reader Value
  | 0 => failure
  | depth + 1 => do
    readSpaces
    let text ← get
    let v ← if "true".toList.isPrefixOf text then do Reader.exactly "true"; return Value.bool true
      else if "false".toList.isPrefixOf text then do Reader.exactly "false"; return Value.bool false
      else match text.head? with
        | some '\x7b' => do
          Reader.exactly "\x7b"
          let pair := do return (← readName, ← readValue depth)
          let pairs ← readListed pair '\x7d' (text.length + 1)
          return Value.table (pairs.foldl (fun entries (name, v) => Pairs.insert name v entries) [])
        | some '[' => do
          Reader.exactly "["
          return Value.list (← readListed (readValue depth) ']' (text.length + 1))
        | some '"' => Value.text <$> readQuoted
        | some '\'' => readCharacter
        | _ => readWord
    readSpaces
    return v

/-- The value that the text of a variable denotes; a text that is no value denotes itself. -/
def settingOf (text : String) : Value :=
  let chars := text.toList
  (Reader.whole? (readValue (chars.length + 1)) chars).getD (.text text)

/-- A value at the end of a path of tables. -/
def nested (v : Value) : List String → Value
  | [] => v
  | name :: path => .table [(name, nested v path)]

end Setting

/-- The environment of a program. -/
structure Environment where
  /-- The variables with their texts. -/
  pairs : List (String × String)

namespace Environment

/-- The text of a variable. -/
def get? (env : Environment) (name : String) : Option String :=
  (env.pairs.find? fun v => v.1 = name).map (·.2)

/-- What the variables say about the configuration; a later one counts more. -/
def entries (env : Environment) : Entries :=
  env.pairs.foldl (fun entries (name, text) =>
    match Setting.settingPath? name with
    | none => entries
    | some path =>
      Value.overlayEntries entries ((Setting.nested (Setting.settingOf text) path).fields?.getD [])) []

/-- The name of the program's own directories. -/
def application : String := "hashfs"

/-- The path of something in a directory. -/
def inside (directory name : String) : String :=
  if directory.isEmpty || directory.toList.getLast? = some '/' then directory ++ name
  else directory ++ "/" ++ name

/-- The program's directory below that which the named variable gives with an absolute path, or else below
a place in the home directory. Without a home directory there is none. -/
def ownDirectory? (env : Environment) (name usual : String) : Option String := do
  let home ← (env.get? "HOME").filter (!·.isEmpty)
  let base := ((env.get? name).filter fun path => path.toList.head? = some '/').getD (inside home usual)
  return inside base application

/-- The directory of the user's configuration files. -/
def configDirectory? (env : Environment) : Option String :=
  env.ownDirectory? "XDG_CONFIG_HOME" ".config"

/-- The directory of the user's data. -/
def dataDirectory? (env : Environment) : Option String :=
  env.ownDirectory? "XDG_DATA_HOME" ".local/share"

end Environment

end MediaCatalog
