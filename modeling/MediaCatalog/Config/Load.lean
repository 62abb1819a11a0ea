import MediaCatalog.Config.Basic
import MediaCatalog.Config.Environment
import MediaCatalog.Files.Path
import MediaCatalog.Files.Tree
import MediaCatalog.Text.Utf8
import MediaCatalog.Toml.Document
import MediaCatalog.Yaml.Document

/-!
# Loading and changing the configuration

A configuration is laid together from what initially holds, the configuration files, and the
environment; what comes later counts more.

* `Config.load`: the configuration of a file, or of the user's files.
* `Config.edited`: the text of a configuration file in which one key is set.
* `Config.set`: sets a key in a file and loads the result.
-/

namespace MediaCatalog.Config

/-! ### Files -/

/-- The formats of configuration files. -/
inductive Format where
  | toml
  | yaml
  | json
  deriving DecidableEq, Repr

/-- The extension of the name of a file as text. -/
def extension? (path : String) : Option String :=
  (FilePath.ofText path).extension?.bind Text.Utf8.strict?

/-- The format of a file, told by its extension. -/
def formatOf? (path : String) : Option Format :=
  match extension? path with
  | some "toml" => some .toml
  | some "yaml" => some .yaml
  | some "yml" => some .yaml
  | some "json" => some .json
  | _ => none

/-- The entries that a text in some format describes. -/
def Format.read? : Format → String → Option Entries
  | toml => Toml.read?
  | yaml => Yaml.read?
  | json => Json.read?

/-- What comes of opening a path for reading. -/
inductive Opened where
  | file (data : FileData)
  /-- Nothing is there yet, but a file could be. -/
  | missing
  /-- Something other than a file is there or in the way. -/
  | blocked

/-- What comes of opening a path for reading. -/
def openFile (files : FileTree) (path : String) : Opened :=
  match files.node? path with
  | some (.file data) => .file data
  | some _ => .blocked
  | none =>
    match files.lookUp false path with
    | .error .missing => .missing
    | _ => .blocked

/-- The text of a file, unless it cannot be read. -/
def fileText? (data : FileData) : Option String :=
  if data.readable then Text.Utf8.strict? data.content.toList else none

/-- The entries of a file in some format. -/
def fileEntries? (data : FileData) (format : Format) : Option Entries :=
  (fileText? data).bind format.read?

/-! ### Loading -/

/-- The path of the database where nothing else is said. -/
def usualDatabase (env : Environment) : String :=
  match env.dataDirectory? with
  | some directory => Environment.inside directory "metadata.db"
  | none => "metadata.db"

/-- What holds in an environment where nothing else is said. -/
def initialIn (env : Environment) : Config := initial (usualDatabase env)

/-- The names of the user's configuration files, in the order in which they are read. -/
def userFileNames : List String := ["hashfs.toml", "hashfs.yaml", "hashfs.json"]

/-- The path of the user's configuration file that can be changed. -/
def userFile (env : Environment) : Except ConfigError String :=
  match env.configDirectory? with
  | some directory => .ok (Environment.inside directory "hashfs.toml")
  | none => .error (.invalid .noHome)

/-- The files to read: the given one, or those of the user that exist. -/
def sources (files : FileTree) (env : Environment) (path : Option String) :
    Except ConfigError (List (FileData × Format)) :=
  match path with
  | some path =>
    match openFile files path, formatOf? path with
    | .file data, some format => .ok [(data, format)]
    | .file _, none => .error (.invalid (.unknownFormat path))
    | _, _ => .error (.invalid (.missingFile path))
  | none => .ok (userFileNames.filterMap fun name => do
      let path := Environment.inside (← env.configDirectory?) name
      match openFile files path, formatOf? path with
      | .file data, some format => some (data, format)
      | _, _ => none)

/-- Entries laid over each other, the later over the earlier. -/
def layered (layers : List Entries) : Entries := layers.foldl Value.overlayEntries []

/-- The configuration that layers of entries describe together. -/
def ofLayers (standard : Config) (layers : List Entries) : Except ConfigError Config :=
  match ofEntries? standard (layered (standard.entries :: layers)) with
  | none => .error .load
  | some c => do
    c.check
    return c

/-- Loads the configuration from a file, or from the user's files, and from the environment. -/
def load (files : FileTree) (env : Environment) (path : Option String) : Except ConfigError Config := do
  match (← sources files env path).mapM fun (data, format) => fileEntries? data format with
  | none => .error .load
  | some layers => ofLayers (initialIn env) (layers ++ [env.entries])

/-! ### Changing a file -/

/-- The value that a text denotes: what it is in a configuration file if it is a single value
there, and else the text itself. -/
def valueOf (text : String) : Value :=
  match Toml.read? ("value = " ++ text) with
  | some [("value", v)] => v
  | _ => .text text

/-- Puts a value at a dotted key of a document. Tells whether that could be done, with the document as
it is then. -/
def put (document : Entries) (key : String) (v : Value) : Except ConfigError Unit × Entries :=
  let names := keyNames key
  if names.any String.isEmpty then (.error (.invalid (.unsettableKey key)), document)
  else
    match Value.put document v names with
    | (true, document) => (.ok (), document)
    | (false, document) => (.error (.invalid (.unsettableKey key)), document)

/-- Entries with a value put at a dotted key. -/
def insert (entries : Entries) (key : String) (v : Value) : Except ConfigError Entries :=
  let (outcome, document) := put entries key v
  outcome.map fun _ => document

/-- The entries of a configuration file, perhaps missing. -/
def entriesOf : Option String → Except ConfigError Entries
  | none => .ok []
  | some text =>
    match Toml.read? text with
    | some entries => .ok entries
    | none => .error .load

/-- Checks that a text describes a usable configuration. -/
def checkText (standard : Config) (text : String) : Except ConfigError Unit := do
  discard (ofLayers standard [← entriesOf text])

/-- The text of a configuration file, perhaps missing before, in which a key has been set. The
result has to describe a usable configuration. -/
def edited (standard : Config) (before : Option String) (key text : String) : Except ConfigError String := do
  let after := Toml.render (← insert (← entriesOf before) key (valueOf text))
  checkText standard after
  return after

/-- The text that stands in a file before a change. -/
def textBefore (files : FileTree) (path : String) : Except ConfigError (Option String) :=
  match openFile files path with
  | .missing => .ok none
  | .blocked => .error .load
  | .file data =>
    match fileText? data with
    | some text => .ok (some text)
    | none => .error .load

/-- The text of a configuration file after a key has been set in it. -/
def planned (files : FileTree) (env : Environment) (path key text : String) : Except ConfigError String := do
  if extension? path ≠ some "toml" then .error (.invalid (.unwritableFormat path))
  edited (initialIn env) (← textBefore files path) key text

/-- Sets a key in a configuration file and loads the result; `now` is the time of the change.
The file is written if its new text is usable without the environment. -/
def set (files : FileTree) (env : Environment) (now : Int) (path key text : String) :
    Except ConfigError Config × FileTree :=
  match planned files env path key text with
  | .error e => (.error e, files)
  | .ok after =>
    match files.save path after.toUTF8 now with
    | (false, files) => (.error .save, files)
    | (true, files) => (load files env (some path), files)

end MediaCatalog.Config
