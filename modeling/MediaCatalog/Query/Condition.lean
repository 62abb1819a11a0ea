import MediaCatalog.Record.Entry
import MediaCatalog.Regex.Basic
import MediaCatalog.Text.Blank

/-!
# Conditions on entries

A clause looks at one target of an entry, its key or a field, and tests the text found there. An
entry without the field satisfies no clause on it.

* `Operator`, `Test`: the seven operators, and an operator with its argument (`Test.holds`).
* `Target`, `Clause`: what is looked at, and a whole clause (`Clause.holds`).
-/

namespace MediaCatalog.Query

/-- The operators of the condition language. -/
inductive Operator where
  /-- The text is the argument. -/
  | equals
  /-- The argument occurs in the text. -/
  | contains
  /-- The text starts with the argument. -/
  | beginsWith
  /-- The text ends with the argument. -/
  | endsWith
  /-- Every word of the argument is a word of the text. -/
  | includeAll
  /-- Some word of the argument is a word of the text. -/
  | includeAny
  /-- The argument, a regular expression, matches some part of the text. -/
  | regexp
  deriving DecidableEq, Repr

namespace Operator

/-- The name of an operator in the condition language. -/
def name : Operator → String
  | equals => "Equals"
  | contains => "Contains"
  | beginsWith => "BeginsWith"
  | endsWith => "EndsWith"
  | includeAll => "IncludeAll"
  | includeAny => "Include"
  | regexp => "Regexp"

/-- All operators. -/
def all : List Operator :=
  [equals, contains, beginsWith, endsWith, includeAll, includeAny, regexp]

/-- The operator with a name, which is compared exactly. -/
def ofName? (name : String) : Option Operator := all.find? fun op => op.name == name

/-- An operator is found by its name. -/
theorem ofName?_name (op : Operator) : ofName? op.name = some op := by
  cases op <;> decide +kernel

end Operator

/-- An operator with its argument. -/
inductive Test where
  | equals (argument : String)
  | contains (argument : String)
  | beginsWith (argument : String)
  | endsWith (argument : String)
  | includeAll (words : List String)
  | includeAny (words : List String)
  | regexp (pattern : Regex)

namespace Test

/-- The operator applied to an argument; nothing if the argument should be a regular expression
and is none. -/
def ofArgument? (op : Operator) (argument : String) : Option Test :=
  match op with
  | .equals => some (equals argument)
  | .contains => some (contains argument)
  | .beginsWith => some (beginsWith argument)
  | .endsWith => some (endsWith argument)
  | .includeAll => some (includeAll (Text.pieces argument))
  | .includeAny => some (includeAny (Text.pieces argument))
  | .regexp => (Regex.ofText? argument).map regexp

/-- The operator of a test. -/
def operator : Test → Operator
  | equals _ => .equals
  | contains _ => .contains
  | beginsWith _ => .beginsWith
  | endsWith _ => .endsWith
  | includeAll _ => .includeAll
  | includeAny _ => .includeAny
  | regexp _ => .regexp

/-- Whether a text passes the test. -/
def holds (text : String) : Test → Bool
  | equals argument => text == argument
  | contains argument => Text.occursIn argument.toList text.toList
  | beginsWith argument => argument.toList.isPrefixOf text.toList
  | endsWith argument => argument.toList.isSuffixOf text.toList
  | includeAll words => words.all fun w => (Text.pieces text).contains w
  | includeAny words => words.any fun w => (Text.pieces text).contains w
  | regexp pattern => pattern.isMatch text

end Test

/-- What a clause or an ordering looks at. -/
inductive Target where
  /-- The key of the entry. -/
  | key
  /-- A field of the entry. -/
  | field (name : String)
  deriving DecidableEq, Repr

namespace Target

/-- The target with a name: `pkey` names the key, every other name a field. -/
def ofName (name : String) : Target := if name = Entry.keyField then key else field name

/-- The name that stands for a target. -/
def name : Target → String
  | key => Entry.keyField
  | field name => name

/-- The text found at the target. -/
def get? (e : Entry) : Target → Option String
  | key => some e.key.text
  | field name => e.get? name

/-- The target with a name reads the key or the field of that name. -/
theorem get?_ofName (e : Entry) (name : String) : (ofName name).get? e = e.keyOrField? name := by
  unfold ofName Entry.keyOrField?
  split <;> rfl

end Target

/-- A compiled clause and the text it was compiled from. -/
structure Clause where
  target : Target
  test : Test
  source : String

/-- Whether an entry satisfies a clause. -/
def Clause.holds (c : Clause) (e : Entry) : Bool := (c.target.get? e).any fun text => c.test.holds text

end MediaCatalog.Query
