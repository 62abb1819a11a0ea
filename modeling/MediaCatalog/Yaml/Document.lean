import MediaCatalog.Number.Decimal
import MediaCatalog.Value
import MediaCatalog.Yaml.Node

/-!
# Documents

The values of a document's nodes. A plain scalar is a number, a truth value or null if it reads as
one, and otherwise text; a tag of the language itself says which of them is meant.

* `plainValue`: the value of a plain scalar.
* `read?`: the entries of the mapping that a text denotes.
-/

namespace MediaCatalog.Yaml

/-! ### Plain scalars -/

/-- Whether a word stands for nothing. -/
def isNull (text : String) : Bool := ["null", "Null", "NULL", "~"].contains text

/-- The flag for which a word stands. -/
def flag? (text : String) : Option Bool :=
  if ["true", "True", "TRUE"].contains text then some true
  else if ["false", "False", "FALSE"].contains text then some false
  else none

/-- Whether a text is a run of digits with a leading zero, which is no number. -/
def isPaddedNumber (text : List Char) : Bool :=
  let digits := match text with
    | '+' :: rest => rest
    | '-' :: rest => rest
    | rest => rest
  digits.length > 1 && digits.head? == some '0' && digits.all Char.isDigit

/-- The number that digits of a base denote; there is at least one. -/
def basedNat? (base : Nat) (digits : List Char) : Option Nat :=
  if digits.isEmpty then none
  else digits.foldl (fun acc c => do
    let n ← acc
    let d ← Text.hexValue? c
    if d < base then some (n * base + d) else none) (some 0)

/-- The number that unsigned text denotes: decimal, or in the base of its prefix. -/
def unsigned? : List Char → Option Nat
  | '0' :: 'x' :: digits => basedNat? 16 digits
  | '0' :: 'o' :: digits => basedNat? 8 digits
  | '0' :: 'b' :: digits => basedNat? 2 digits
  | digits => basedNat? 10 digits

/-- The bound of unsigned numbers of 128 bits. -/
def bound128 : Nat := 0x100000000000000000000000000000000

/-- The integer that a text denotes, within 128 bits. -/
def integer? (text : List Char) : Option Int :=
  if isPaddedNumber text then none
  else
    match text with
    | '-' :: rest => (unsigned? rest).bind fun n => if 2 * n ≤ bound128 then some (-(n : Int)) else none
    | '+' :: rest => (unsigned? rest).bind fun n => if n < bound128 then some (n : Int) else none
    | rest => (unsigned? rest).bind fun n => if n < bound128 then some (n : Int) else none

/-- The float that a text denotes. Infinity and what is no number are words that begin with a
point; other text must denote a finite number. -/
def float? (text : List Char) : Option Number.Binary64 :=
  let unsigned := match text with
    | '+' :: rest => rest
    | rest => rest
  let word := String.ofList unsigned
  if [".inf", ".Inf", ".INF"].contains word then some ⟨false, Number.Binary64.infinite⟩
  else if ["-.inf", "-.Inf", "-.INF"].contains (String.ofList text) then
    some ⟨true, Number.Binary64.infinite⟩
  else if [".nan", ".NaN", ".NAN"].contains (String.ofList text) then
    some ⟨false, Number.Binary64.notNumber⟩
  else
    let twice := text.head? == some '+' && (unsigned.head? == some '+' || unsigned.head? == some '-')
    if twice then none
    else (Number.Binary64.ofText? unsigned).filter fun x => x.magnitude < Number.Binary64.infinite

/-- The value of a plain scalar. -/
def plainValue (text : String) : Value :=
  let chars := text.toList
  if text.isEmpty || isNull text then .null
  else
    match flag? text, integer? chars with
    | some b, _ => .bool b
    | none, some n => .integer n
    | none, none =>
      match if isPaddedNumber chars then none else float? chars with
      | some x => .float x
      | none => .text text

/-! ### Nodes -/

/-- Whether a tag belongs to a particular program. -/
def isLocal (tag : Option String) : Bool := tag.any fun t => t.toList.head? == some '!'

/-- The value of a scalar. The content has to be what the tag says. -/
def scalarValue? (tag : Option String) (plain : Bool) (content : String) : Option Value :=
  match tag with
  | none => some (if plain then plainValue content else .text content)
  | some t =>
    if t = Node.standardTags ++ "bool" then (flag? content).map .bool
    else if t = Node.standardTags ++ "int" then (integer? content.toList).map .integer
    else if t = Node.standardTags ++ "float" then (float? content.toList).map .float
    else if t = Node.standardTags ++ "null" then if isNull content then some .null else none
    else some (.text content)

/-- The name that a node stands for as a key. -/
def keyText? : Node → Option String
  | .scalar _ _ content => some content
  | _ => none

/-- How deep lists and tables may stand within each other. -/
def maxDepth : Nat := 128

mutual

/-- The value of a node with lists and tables to a given depth. Nodes with tags of a particular
program have no value. -/
def nodeValue? (depth : Nat) : Node → Option Value
  | .scalar tag plain content => if isLocal tag then none else scalarValue? tag plain content
  | .list tag items =>
    match depth with
    | 0 => none
    | depth + 1 => if isLocal tag then none else (itemValues? depth items).map .list
  | .table tag pairs =>
    match depth with
    | 0 => none
    | depth + 1 => if isLocal tag then none else (pairValues? depth [] pairs).map .table

/-- The values of nodes. -/
def itemValues? (depth : Nat) : List Node → Option (List Value)
  | [] => some []
  | node :: rest => do return (← nodeValue? depth node) :: (← itemValues? depth rest)

/-- The entries of pairs, added to others; of those with one name the last one counts. -/
def pairValues? (depth : Nat) (entries : Entries) : List (Node × Node) → Option Entries
  | [] => some entries
  | (k, v) :: rest => do
    let name ← keyText? k
    pairValues? depth (Pairs.insert name (← nodeValue? depth v) entries) rest

end

/-- The entries of a document; one without content has none. -/
def entriesOf? : Option Node → Option Entries
  | none => some []
  | some (.scalar _ _ content) => if content.isEmpty then some [] else none
  | some (.table _ pairs) => pairValues? (maxDepth - 1) [] pairs
  | some (.list _ _) => none

/-- The entries of the mapping that a text denotes. -/
def read? (text : String) : Option Entries := do
  entriesOf? (← Node.ofTokens? (← tokens? text))

end MediaCatalog.Yaml
