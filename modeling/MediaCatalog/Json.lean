import MediaCatalog.Text.Hex
import MediaCatalog.Text.Reader
import MediaCatalog.Value

/-!
# JSON

* `read?`: the entries of the object that a text denotes.
* `pretty`: a value as text on several lines, indented by two blanks.
-/

namespace MediaCatalog.Json

open Text

/-! ### Reading -/

/-- How deep arrays and objects may stand within each other. -/
def maxDepth : Nat := 127

/-- Reads blanks and line breaks, however many there are. -/
def readBlanks : Reader Unit :=
  discard (Reader.takeWhile fun c => c == ' ' || c == '\n' || c == '\t' || c == '\r')

/-- Reads four hexadecimal digits. -/
def readUnit : Reader Nat := do
  match Text.hexNat? (← Reader.count (fun c => (Text.hexValue? c).isSome) 4) with
  | some n => return n
  | none => failure

/-- The character of two halves that stand for one code point. -/
def joined (high low : Nat) : Char := Char.ofNat (0x10000 + (high - 0xD800) * 0x400 + (low - 0xDC00))

/-- Reads an escaped code point after its letter. A code point beyond 16 bits is written as two
halves, which do not stand alone. -/
def readCodePoint : Reader Char := do
  let n ← readUnit
  if 0xDC00 ≤ n && n ≤ 0xDFFF then failure
  else if 0xD800 ≤ n && n ≤ 0xDBFF then
    Reader.exactly "\\u"
    let low ← readUnit
    if 0xDC00 ≤ low && low ≤ 0xDFFF then return joined n low else failure
  else return Char.ofNat n

/-- Reads what follows a backslash. -/
def readEscape : Reader Char := do
  match ← Reader.one fun _ => true with
  | '"' => return '"'
  | '\\' => return '\\'
  | '/' => return '/'
  | 'b' => return '\x08'
  | 'f' => return '\x0c'
  | 'n' => return '\n'
  | 'r' => return '\r'
  | 't' => return '\t'
  | 'u' => readCodePoint
  | _ => failure

/-- Reads one character of a string. -/
def readCharacter : Reader Char := do
  let c ← Reader.one fun c => c != '"' && 0x20 ≤ c.toNat
  if c == '\\' then readEscape else return c

/-- Reads a string. -/
def readString : Reader String := do
  Reader.exactly "\""
  let content ← Reader.repeated readCharacter
  Reader.exactly "\""
  return String.ofList content

/-- Reads the digits after a point, with the point. -/
def readFraction : Reader (List Char) := do
  if (← Reader.peek) == some '.' then
    Reader.exactly "."
    return '.' :: (← Reader.takeSome Char.isDigit)
  else return []

/-- Reads an exponent with its letter. -/
def readExponent : Reader (List Char) := do
  match ← Reader.optional (Reader.one fun c => c == 'e' || c == 'E') with
  | none => return []
  | some _ =>
    let sign ← Reader.optional (Reader.one fun c => c == '+' || c == '-')
    let digits ← Reader.takeSome Char.isDigit
    return 'e' :: (if sign == some '-' then '-' :: digits else digits)

/-- The float that digits denote, in the range of the format. -/
def floatOf (negative : Bool) (text : List Char) : Reader Value :=
  match Number.Binary64.decimal? text with
  | some magnitude =>
    if magnitude < Number.Binary64.infinite then return .float ⟨negative, magnitude⟩ else failure
  | none => failure

/-- Reads a number. An integer beyond 64 bits becomes a float. -/
def readNumber : Reader Value := do
  let negative := (← Reader.optional (Reader.exactly "-")).isSome
  let whole ← Reader.takeSome Char.isDigit
  if whole.length > 1 && whole.head? == some '0' then failure
  let fraction ← readFraction
  let exponent ← readExponent
  let n := (Number.digitsValue? whole).getD 0
  if !fraction.isEmpty || !exponent.isEmpty then floatOf negative (whole ++ fraction ++ exponent)
  else if negative && n ≤ Number.signedBound64 then return .integer (-n)
  else if !negative && n ≤ Number.maxWord64 then return .integer n
  else floatOf negative whole

/-- Reads values between brackets, with commas between them. -/
def readBetween {α : Type} (item : Reader α) (opening closing : String) : Reader (List α) := do
  Reader.exactly opening
  let items ← Reader.separated (do readBlanks; let a ← item; readBlanks; return a) (Reader.exactly ",")
  readBlanks
  Reader.exactly closing
  return items

/-- Reads a word that stands for a value. -/
def readWord (word : String) (v : Value) : Reader Value := do
  Reader.exactly word
  return v

/-- Reads a name with its value. -/
def readPair (value : Reader Value) : Reader (String × Value) := do
  let name ← readString
  readBlanks
  Reader.exactly ":"
  readBlanks
  return (name, ← value)

/-- The entries that pairs denote; of those with one name the last one counts. -/
def entriesOf (pairs : List (String × Value)) : Entries :=
  pairs.foldl (fun entries (name, v) => Pairs.insert name v entries) []

/-- Reads a value that begins with a given character, with arrays and objects to a given depth. -/
def readValue : Nat → Reader Value
  | 0 => failure
  | depth + 1 => do
    let inner : Reader Value := do
      match ← Reader.peek with
      | some '"' => Value.text <$> readString
      | some 'n' => readWord "null" .null
      | some 't' => readWord "true" (.bool true)
      | some 'f' => readWord "false" (.bool false)
      | some '[' => readValue depth
      | some '\x7b' => readValue depth
      | _ => readNumber
    match ← Reader.peek with
    | some '[' => Value.list <$> readBetween inner "[" "]"
    | _ => (fun pairs => Value.table (entriesOf pairs)) <$> readBetween (readPair inner) "\x7b" "\x7d"

/-- The entries of the object that a text denotes. -/
def read? (text : String) : Option Entries :=
  match Reader.whole? (do readBlanks; let v ← readValue maxDepth; readBlanks; return v) text.toList with
  | some (.table entries) => some entries
  | _ => none

/-! ### Writing -/

/-- A character as it stands in a string. -/
def escaped (c : Char) : String :=
  match c with
  | '"' => "\\\""
  | '\\' => "\\\\"
  | '\x08' => "\\b"
  | '\x0c' => "\\f"
  | '\n' => "\\n"
  | '\r' => "\\r"
  | '\t' => "\\t"
  | c =>
    if c.toNat < 0x20 then "\\u00" ++ String.ofList [Text.hexDigit (c.toNat / 16), Text.hexDigit (c.toNat % 16)]
    else c.toString

/-- A string between quotes. -/
def quoted (s : String) : String := "\"" ++ String.join (s.toList.map escaped) ++ "\""

/-- The start of a line at a depth. -/
def lineStart (depth : Nat) : String := "\n" ++ String.ofList (List.replicate (2 * depth) ' ')

mutual

/-- The text of a value whose lines begin at a depth. -/
def prettyAt (depth : Nat) : Value → String
  | .null => "null"
  | .bool b => if b then "true" else "false"
  | .integer n => toString n
  | .float x => if x.magnitude < Number.Binary64.infinite then x.text ++ if x.isWhole then ".0" else "" else "null"
  | .text s => quoted s
  | .moment m => quoted m.text
  | .list [] => "[]"
  | .list (item :: rest) =>
    "[" ++ lineStart (depth + 1) ++ prettyAt (depth + 1) item ++ prettyItems (depth + 1) rest ++ lineStart depth ++ "]"
  | .table [] => "\x7b\x7d"
  | .table ((name, v) :: rest) =>
    "\x7b" ++ lineStart (depth + 1) ++ quoted name ++ ": " ++ prettyAt (depth + 1) v ++
      prettyPairs (depth + 1) rest ++ lineStart depth ++ "\x7d"

/-- The texts of further items. -/
def prettyItems (depth : Nat) : List Value → String
  | [] => ""
  | item :: rest => "," ++ lineStart depth ++ prettyAt depth item ++ prettyItems depth rest

/-- The texts of further pairs. -/
def prettyPairs (depth : Nat) : Entries → String
  | [] => ""
  | (name, v) :: rest =>
    "," ++ lineStart depth ++ quoted name ++ ": " ++ prettyAt depth v ++ prettyPairs depth rest

end

/-- A value as text on several lines. -/
def pretty (v : Value) : String := prettyAt 0 v

end MediaCatalog.Json
