import MediaCatalog.Unicode.CharSet
import MediaCatalog.Unicode.Word
import MediaCatalog.Unicode.CategoryTable
import MediaCatalog.Unicode.PropertyTable
import MediaCatalog.Unicode.ScriptExtensionTable
import MediaCatalog.Unicode.ScriptTable

/-!
# Sets of characters by property

Names of properties and of their values are compared loosely: case, spaces, dashes, underscores and
a leading `is` do not count.

* `namedSet?`: the set behind a bare name: a binary property, a general category or a script.
* `valuedSet?`: the set behind a property's name and a value.
-/

namespace MediaCatalog.Unicode

/-- A name without what does not count in comparisons. -/
def looseName (name : List Char) : String :=
  let lower := name.map Char.toLower
  let hasIs := ['i', 's'].isPrefixOf lower
  let body := (if hasIs then lower.drop 2 else lower).filter fun c =>
    c.toNat < 128 && c != ' ' && c != '_' && c != '-'
  if hasIs && body == ['c'] then "isc" else String.ofList body

/-- The row of a table with a name. -/
def row? (table : List (List String × String)) (name : String) : Option (List String × CharSet) :=
  (table.find? fun r => r.1.contains name).map fun r => (r.1, CharSet.ofText r.2)

/-- The general categories that are unions of others. -/
def groupedCategories : List (List String × List String) := [
  (["lc", "casedletter"], ["lu", "ll", "lt"]),
  (["l", "letter"], ["lu", "ll", "lt", "lm", "lo"]),
  (["m", "mark", "combiningmark"], ["mn", "mc", "me"]),
  (["n", "number"], ["nd", "nl", "no"]),
  (["p", "punctuation", "punct"], ["pc", "pd", "ps", "pe", "pi", "pf", "po"]),
  (["s", "symbol"], ["sm", "sc", "sk", "so"]),
  (["z", "separator"], ["zs", "zl", "zp"]),
  (["c", "other"], ["cc", "cf", "cn", "co"])]

/-- The characters of a general category. -/
def category? (name : String) : Option CharSet :=
  if name = "any" then some CharSet.full
  else if name = "ascii" then some [(0, 0x7F)]
  else if name = "assigned" then (row? categoryTable "cn").map fun r => r.2.compl
  else match groupedCategories.find? fun r => r.1.contains name with
    | some (_, members) =>
      some (CharSet.ofRanges (members.flatMap fun m => ((row? categoryTable m).map (·.2)).getD []))
    | none => (row? categoryTable name).map (·.2)

/-- The characters of a script. -/
def script? (name : String) : Option CharSet := (row? scriptTable name).map (·.2)

/-- The characters whose script extensions contain a script. -/
def scriptExtension? (name : String) : Option CharSet := do
  let (names, chars) ← row? scriptTable name
  match names.findSome? (row? scriptExtensionTable) with
  | some (_, extended) => return extended
  | none => return chars

/-- The set behind a bare name. Three abbreviations name a general category although they also
abbreviate the name of a property. -/
def namedSet? (name : List Char) : Option CharSet :=
  let name := looseName name
  let property := if name ∈ ["cf", "sc", "lc"] then none else (row? propertyTable name).map (·.2)
  property <|> category? name <|> script? name

/-- The set behind a property's name and a value. -/
def valuedSet? (property value : List Char) : Option CharSet :=
  let property := looseName property
  let value := looseName value
  if property ∈ ["gc", "generalcategory"] then category? value
  else if property ∈ ["sc", "script"] then script? value
  else if property ∈ ["scx", "scriptextensions"] then scriptExtension? value
  else none

/-- The alphabetic characters. -/
def alphabetic : CharSet := (namedSet? "alphabetic".toList).getD []

/-- The decimal digits, number letters and other numbers. -/
def numeric : CharSet := (category? "n").getD []

end MediaCatalog.Unicode
