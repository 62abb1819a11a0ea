import MediaCatalog.Toml.Quoted
import MediaCatalog.Value

/-!
# Scalars

Numbers, truth values, moments and strings.

* `readScalar`: reads a scalar.
* `writeFloat`: the written form of a float.
-/

namespace MediaCatalog.Toml

open Text

/-! ### Reading -/

/-- A run of digits of some base in which single underscores may stand between digits. -/
def readDigits (digit : Char → Bool) : Reader (List Char) := do
  let run ← Reader.takeSome fun c => digit c || c == '_'
  let groups := run.splitOnP (· == '_')
  if groups.any List.isEmpty then failure else return groups.flatten

/-- Whether digits begin with a zero that does not stand alone. -/
def hasLeadingZero (digits : List Char) : Bool := digits.length > 1 && digits.head? == some '0'

/-- The number that digits denote in a base. -/
def valueOf (base : Nat) (digits : List Char) : Nat :=
  digits.foldl (fun n c => n * base + (Text.hexValue? c).getD 0) 0

/-- An integer that fits into 64 bits with a sign. -/
def fitting (n : Int) : Reader Value :=
  if -(Number.signedBound64 : Int) ≤ n ∧ n < Number.signedBound64 then return .integer n else failure

/-- Reads the digits after a base prefix. -/
def readBased (base : Nat) (digit : Char → Bool) : Reader Value := do
  fitting (valueOf base (← readDigits digit))

/-- Reads a sign, which may be missing: whether it is a minus. -/
def readSign : Reader (Option Bool) := do
  match ← Reader.peek with
  | some '+' => Reader.exactly "+"; return some false
  | some '-' => Reader.exactly "-"; return some true
  | _ => return none

/-- Reads the exponent of a float, if there is one, as text. -/
def readExponent : Reader (List Char) := do
  match ← Reader.peek with
  | some c =>
    if c == 'e' || c == 'E' then
      discard (Reader.one fun _ => true)
      let sign ← readSign
      let digits ← readDigits Char.isDigit
      return 'e' :: (if sign == some true then '-' :: digits else digits)
    else return []
  | none => return []

/-- Reads the fraction of a float, if there is one, as text. -/
def readFraction : Reader (List Char) := do
  if (← Reader.peek) == some '.' then
    Reader.exactly "."
    return '.' :: (← readDigits Char.isDigit)
  else return []

/-- Reads a decimal integer or a float whose sign has been read. A positive float must be in the
range of the format. -/
def readDecimal (negative : Bool) : Reader Value := do
  let whole ← readDigits Char.isDigit
  if hasLeadingZero whole then failure
  let fraction ← readFraction
  let exponent ← readExponent
  if fraction.isEmpty && exponent.isEmpty then
    let n : Int := valueOf 10 whole
    fitting (if negative then -n else n)
  else
    match Number.Binary64.decimal? (whole ++ fraction ++ exponent) with
    | some magnitude =>
      if !negative && magnitude = Number.Binary64.infinite then failure
      else return .float ⟨negative, magnitude⟩
    | none => failure

/-- Reads a word that stands for a value. -/
def readWord (word : String) (v : Value) : Reader Value := do
  Reader.exactly word
  return v

/-- Reads a number that begins with a digit or a sign, or infinity, or what is not a number. -/
def readNumber : Reader Value := do
  let text ← get
  match text with
  | '0' :: 'x' :: _ => Reader.exactly "0x"; readBased 16 fun c => (Text.hexValue? c).isSome
  | '0' :: 'o' :: _ => Reader.exactly "0o"; readBased 8 fun c => '0' ≤ c && c ≤ '7'
  | '0' :: 'b' :: _ => Reader.exactly "0b"; readBased 2 fun c => c == '0' || c == '1'
  | _ =>
    let negative := (← readSign) == some true
    match ← Reader.peek with
    | some 'i' => readWord "inf" (.float ⟨negative, Number.Binary64.infinite⟩)
    | some 'n' => readWord "nan" (.float ⟨false, Number.Binary64.notNumber⟩)
    | _ => readDecimal negative

/-- Reads a scalar. Its first characters tell what it is. -/
def readScalar : Reader Value := do
  let text ← get
  match text.head? with
  | some '"' => Value.text <$> readText
  | some '\'' => Value.text <$> readText
  | some 't' => readWord "true" (.bool true)
  | some 'f' => readWord "false" (.bool false)
  | _ => if Moment.begins text then Value.moment <$> Moment.read else readNumber

/-! ### Writing -/

/-- The written form of a float: positional, with a fraction even if it is whole. -/
def writeFloat (x : Number.Binary64) : String :=
  if x.magnitude > Number.Binary64.infinite then "nan"
  else x.text ++ if x.isWhole then ".0" else ""

end MediaCatalog.Toml
