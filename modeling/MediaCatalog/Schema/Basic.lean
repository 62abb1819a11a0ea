import MediaCatalog.Query.Selection
import MediaCatalog.Schema.Attribute
import MediaCatalog.Schema.QueryTemplate

/-!
# Schemas of mounts

A schema says what appears below a mount: one level per path segment. A level's query finds the
entries, its label template names them; they may be grouped (`g`), ordered (`o`) and limited (`l`).

* `Schema.ofText`: reads a schema, or says what is wrong with it (`SchemaError`).
-/

namespace MediaCatalog

/-- What is wrong with a mount; levels are counted from one. -/
inductive SchemaError where
  /-- The text is blank. -/
  | noLevels
  /-- A level has no attribute `q`. -/
  | noQuery (level : Nat)
  /-- A level has no attribute `d`. -/
  | noLabel (level : Nat)
  /-- The attribute `o` of a level is malformed. -/
  | badOrder (level : Nat) (value : String)
  /-- The attribute `l` of a level is malformed. -/
  | badPage (level : Nat) (value : String)
  /-- A mount's name could not be a path segment. -/
  | badName (name : String)
  deriving DecidableEq, Repr

/-- The wording of what is wrong. -/
def SchemaError.message : SchemaError → String
  | noLevels => "schema has no levels"
  | noQuery level => s!"level {level} has no query (`q`)"
  | noLabel level => s!"level {level} has no display template (`d`)"
  | badOrder level value => s!"level {level} has an invalid order `{value}`"
  | badPage level value => s!"level {level} has an invalid limit `{value}`"
  | badName name => s!"mount name `{name}` is not a single path segment"

/-- What appears at one depth below a mount. -/
structure Level where
  /-- Which entries. -/
  query : QueryTemplate
  /-- Under which names. -/
  label : LabelTemplate
  /-- The field of which each value is shown once. -/
  group : Option String
  order : Option Query.Arrangement
  page : Option Query.Page
  deriving DecidableEq, Repr

namespace Level

/-- The attributes of a level as far as they have been read. -/
structure Draft where
  query : Option String
  label : Option String
  group : Option String
  order : Option Query.Arrangement
  page : Option Query.Page

/-- The parts before and after the first occurrence of a character, if there is one. -/
def splitAt? (c : Char) (s : List Char) : Option (List Char × List Char) :=
  match s.dropWhile (· ≠ c) with
  | [] => none
  | _ :: after => some (s.takeWhile (· ≠ c), after)

/-- An ordering `field`, `field:str` or `field:num`, descending after a `-`. -/
def order? (value : List Char) : Option Query.Arrangement := do
  let (descending, rest) := match value with
    | '-' :: rest => (true, rest)
    | rest => (false, rest)
  let (field, numeric) ← match splitAt? ':' rest with
    | none => some (rest, false)
    | some (field, kind) =>
      if kind = "str".toList then some (field, false)
      else if kind = "num".toList then some (field, true)
      else none
  if !Text.isIdent field then none
  let mode := match numeric, descending with
    | false, false => Query.Mode.textAscending
    | false, true => .textDescending
    | true, false => .numberAscending
    | true, true => .numberDescending
  return ⟨Query.Target.ofName (String.ofList field), mode⟩

/-- A page `limit` or `skip,limit`. -/
def page? (value : List Char) : Option Query.Page := do
  let (skip, limit) := (splitAt? ',' value).getD (['0'], value)
  let skip ← Number.word64? (Text.trimChars skip)
  let limit ← Number.word64? (Text.trimChars limit)
  return ⟨limit, skip⟩

/-- Takes over one attribute; a later one of the same key replaces an earlier one. -/
def Draft.put (number : Nat) (draft : Draft) (item : List Char × List Char) :
    Except SchemaError Draft :=
  let value := String.ofList item.2
  match item.1 with
  | ['q'] => .ok { draft with query := some value }
  | ['d'] => .ok { draft with label := some value }
  | ['g'] => .ok { draft with group := some value }
  | ['o'] => match order? item.2 with
    | some order => .ok { draft with order := some order }
    | none => .error (.badOrder number value)
  | ['l'] => match page? item.2 with
    | some page => .ok { draft with page := some page }
    | none => .error (.badPage number value)
  | _ => .ok draft

/-- The level that a draft describes once all attributes are read. -/
def Draft.finish (number : Nat) (draft : Draft) : Except SchemaError Level :=
  match draft.query, draft.label with
  | none, _ => .error (.noQuery number)
  | some _, none => .error (.noLabel number)
  | some query, some label =>
    .ok ⟨⟨query⟩, ⟨label⟩, draft.group.filter (· ≠ ""), draft.order, draft.page⟩

/-- Reads the level with a given number. -/
def ofText (number : Nat) (text : List Char) : Except SchemaError Level := do
  let draft ← (Schema.attributes text).foldlM (Draft.put number) ⟨none, none, none, none, none⟩
  draft.finish number

end Level

/-- What appears below a mount. -/
structure Schema where
  /-- The text of the schema. -/
  source : String
  levels : List Level
  deriving DecidableEq, Repr

namespace Schema

/-- Reads levels whose first has a given number. -/
def levelsFrom (number : Nat) : List (List Char) → Except SchemaError (List Level)
  | [] => .ok []
  | text :: texts => do
    let level ← Level.ofText number text
    let levels ← levelsFrom (number + 1) texts
    return level :: levels

/-- Reads a schema. -/
def ofText (text : String) : Except SchemaError Schema := do
  if (Text.trimChars text.toList).isEmpty then throw .noLevels
  let levels ← levelsFrom 1 (levelTexts text.toList)
  return ⟨text, levels⟩

end Schema

end MediaCatalog
