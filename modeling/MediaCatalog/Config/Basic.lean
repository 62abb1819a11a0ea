import MediaCatalog.Backend.Registry
import MediaCatalog.Json
import MediaCatalog.Text.Blank
import MediaCatalog.Value

/-!
# The configuration

Where the catalogue is kept, how it is browsed, and what the backends may do.

* `Config.initial`: what holds where nothing else is said.
* `Config.ofEntries?`, `Config.entries`: a configuration as the values of a configuration file.
* `Config.check`: whether the mounts are usable.
* `Config.find?`: the value at a dotted key.
-/

namespace MediaCatalog

/-- Why a configuration cannot be used. -/
inductive InvalidConfig where
  | missingFile (path : String)
  | unknownFormat (path : String)
  /-- Only one format can be written. -/
  | unwritableFormat (path : String)
  | mountName (name : String)
  | emptySchema (mount : String)
  | unsettableKey (key : String)
  | noHome
  deriving DecidableEq, Repr

/-- Why a configuration could not be loaded or changed. -/
inductive ConfigError where
  /-- A source could not be read, or does not hold a configuration. -/
  | load
  | invalid (reason : InvalidConfig)
  /-- The file could not be written. -/
  | save
  deriving DecidableEq, Repr

/-- The wording of a reason. -/
def InvalidConfig.message : InvalidConfig → String
  | missingFile path => s!"configuration file {path} does not exist"
  | unknownFormat path => s!"unsupported configuration format: {path}"
  | unwritableFormat path => s!"only TOML files can be written: {path}"
  | mountName name => s!"mount name `{name}` is not a single path segment"
  | emptySchema mount => s!"mount `{mount}` has an empty schema"
  | unsettableKey key => s!"`{key}` cannot be set"
  | noHome => "no home directory for a configuration file"

/-- The wording of an error. -/
def ConfigError.message : ConfigError → String
  | load => "could not load configuration"
  | invalid reason => s!"invalid configuration: {reason.message}"
  | save => "could not save configuration"

/-- A mount as it is configured. -/
structure MountSettings where
  name : String
  schema : String
  deriving DecidableEq, Repr

/-- A configuration. -/
structure Config where
  /-- The path of the database. -/
  database : String
  /-- Whether malformed conditions are refused. -/
  strictQueries : Bool
  mounts : List MountSettings
  backends : Dict BackendSettings

namespace Config

/-! ### The initial configuration -/

/-- Files below their titles. -/
def titleSchema : String :=
  "q=\"pkey.BeginsWith(set:release:anime:)\", d=\"$name\"/" ++
  "q=\"pkey.BeginsWith(file:), anime.Equals($prev[1].pkey)\", d=\"$title - $episode [$group_name].$ext\""

/-- Release groups, below them the titles that each has released, and below these the files. -/
def groupSchema : String :=
  "q=\"pkey.BeginsWith(set:release:group:)\", d=\"$name\"/" ++
  "q=\"pkey.BeginsWith(file:), group.Equals($prev[1].pkey)\", g=\"anime\", d=\"$title\"/" ++
  "q=\"pkey.BeginsWith(file:), group.Equals($prev[2].pkey), anime.Equals($prev[1].anime)\", " ++
  "d=\"$title - $episode [$group_name].$ext\""

/-- The configuration where nothing else is said, with a given path of the database. -/
def initial (database : String) : Config :=
  ⟨database, false, [⟨"by-name", titleSchema⟩, ⟨"by-group", groupSchema⟩], Dict.empty⟩

/-- What holds for a backend. -/
def backend (c : Config) (name : String) : BackendSettings := (c.backends.get? name).getD .initial

/-! ### From values -/

/-- The text that a value is. -/
def textOf? : Value → Option String
  | .text s => some s
  | _ => none

/-- The flag that a value is. -/
def flagOf? : Value → Option Bool
  | .bool b => some b
  | _ => none

/-- The items of a list, each read in the same way. -/
def listOf? {α : Type} (item : Value → Option α) : Value → Option (List α)
  | .list items => items.mapM item
  | _ => none

/-- A value read if it is there; what is missing has a value of its own. -/
def readOr? {α : Type} (read : Value → Option α) (missing : α) : Option Value → Option α
  | none => some missing
  | some v => read v

/-- A mount: a table with both fields, or a list of the two. -/
def mountOf? : Value → Option MountSettings
  | .list (name :: schema :: _) => return ⟨← textOf? name, ← textOf? schema⟩
  | v => do
    let fields ← v.fields?
    return ⟨← (Pairs.get? "name" fields).bind textOf?, ← (Pairs.get? "schema" fields).bind textOf?⟩

/-- Settings of a backend: a table, or a list in the order of the fields. -/
def backendOf? (v : Value) : Option BackendSettings := do
  let (enabled, globs) ← match v with
    | .list items => some (items[0]?, items[1]?)
    | _ => v.fields?.map fun fields => (Pairs.get? "enabled" fields, Pairs.get? "globs" fields)
  let standard := BackendSettings.initial
  return ⟨← readOr? flagOf? standard.enabled enabled, ← readOr? (listOf? textOf?) standard.globs globs⟩

/-- Settings of backends by name. -/
def backendsOf? (v : Value) : Option (Dict BackendSettings) := do
  let pairs ← (← v.fields?).mapM fun (name, v) => (backendOf? v).map fun settings => (name, settings)
  return Dict.ofList pairs

/-- The configuration that entries describe, with the values of another where they say nothing.
Entries of other names do not matter. -/
def ofEntries? (standard : Config) (entries : Entries) : Option Config := do
  return {
    database := ← readOr? textOf? standard.database (Pairs.get? "database" entries)
    strictQueries := ← readOr? flagOf? standard.strictQueries (Pairs.get? "strict_queries" entries)
    mounts := ← readOr? (listOf? mountOf?) standard.mounts (Pairs.get? "mounts" entries)
    backends := ← readOr? backendsOf? standard.backends (Pairs.get? "backends" entries) }

/-! ### To values -/

/-- A mount as a value. -/
def mountValue (m : MountSettings) : Value := .table [("name", .text m.name), ("schema", .text m.schema)]

/-- The settings of a backend as a value. -/
def backendValue (s : BackendSettings) : Value :=
  .table [("enabled", .bool s.enabled), ("globs", .list (s.globs.map .text))]

/-- The values of a configuration by their names, in the order in which they are shown. -/
def outline (c : Config) : Entries :=
  [("database", .text c.database), ("strict_queries", .bool c.strictQueries),
    ("mounts", .list (c.mounts.map mountValue)),
    ("backends", .table (c.backends.toList.map fun (name, s) => (name, backendValue s)))]

/-- The values of a configuration by their names. -/
def entries (c : Config) : Entries :=
  c.outline.foldl (fun entries (name, v) => Pairs.insert name v entries) []

/-! ### Dotted keys -/

/-- The names in a dotted key. -/
def keyNames (key : String) : List String := (key.toList.splitOnP (· == '.')).map String.ofList

/-- The value at a dotted key. An empty name ends the key. -/
def find? (c : Config) (key : String) : Option Value :=
  (Value.table c.entries).find? ((keyNames key).takeWhile fun name => !name.isEmpty)

/-! ### Checks -/

/-- Whether a mount can be used: its name is a single segment of a path, and its schema is not
empty. -/
def checkMount (m : MountSettings) : Except ConfigError Unit :=
  if m.name.isEmpty || m.name.toList.contains '/' then .error (.invalid (.mountName m.name))
  else if (Text.trim m.schema).isEmpty then .error (.invalid (.emptySchema m.name))
  else .ok ()

/-- Whether all mounts can be used. Of several faults the first mount's counts. -/
def check (c : Config) : Except ConfigError Unit := c.mounts.forM checkMount

end Config

end MediaCatalog
