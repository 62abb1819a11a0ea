import MediaCatalog.Command.Help
import MediaCatalog.Config.Load
import MediaCatalog.Namespace.Handles
import MediaCatalog.Scan.Walk
import MediaCatalog.Store.Database

/-!
# Running a command

What a command prints, how it ends, and what it does to the files.

* `Machine`: what a command finds around it.
* `run`: a command; `runArguments`: the whole program.
-/

namespace MediaCatalog.Command

/-- What a command finds around it. -/
structure Machine where
  files : FileTree
  environment : Environment
  /-- The time in nanoseconds since the epoch. -/
  now : Int

/-- Why a command failed. -/
inductive CommandError where
  | config (cause : ConfigError)
  /-- The database could not be opened. -/
  | database
  | mount (cause : NamespaceError)
  | backends (cause : Failure)
  /-- The scan did not come to its end, or files failed. -/
  | scan
  | cannotList (path : String) (cause : NamespaceError)
  | cannotRead (path : String) (cause : NamespaceError)
  | unknownKey (key : String)

/-- The wording of an error. -/
def CommandError.message : CommandError → String
  | config cause => s!"configuration error: {cause.message}"
  | database => "could not open the entry store"
  | mount cause => s!"invalid mount configuration: {cause.message}"
  | backends cause => s!"could not set up backends: {cause.fault.message}"
  | scan => "update scan failed"
  | cannotList path cause => s!"cannot list `{path}`: {cause.message}"
  | cannotRead path cause => s!"cannot read `{path}`: {cause.message}"
  | unknownKey key => s!"no configuration key `{key}`"

/-- What a command has done. -/
structure Outcome where
  output : ByteArray
  /-- Why the command failed, if it did; it may have printed something before. -/
  error : Option CommandError
  files : FileTree

namespace Outcome

/-- A command printed a text and is done. -/
def done (files : FileTree) (text : String) : Outcome := ⟨text.toUTF8, none, files⟩

/-- A command failed before it printed anything. -/
def failed (files : FileTree) (error : CommandError) : Outcome := ⟨ByteArray.empty, some error, files⟩

end Outcome

/-! ### Databases -/

/-- A database without a file of its own, which is gone when the command ends. -/
def isTemporary (path : String) : Bool := path.isEmpty || path == ":memory:"

/-- The files that stand beside a database as long as it is open for writing. -/
def companions (path : String) : List String := [path ++ "-wal", path ++ "-shm"]

/-- The files with a database kept at a path. -/
def saveDatabase (files : FileTree) (now : Int) (path : String) (t : Table) : FileTree :=
  if isTemporary path then files else files.writeFile path t.bytes now

/-- Opens a database for writing. A missing one is made, with the directories on the way to it. -/
def openDatabase (files : FileTree) (now : Int) (path : String) : Option (Table × FileTree) :=
  if isTemporary path then some (Table.empty, files)
  else
    let fresh := some (Table.empty, saveDatabase files now path Table.empty)
    match Config.openFile files path with
    | .missing => fresh
    | .blocked => none
    | .file data =>
      match Database.ofBytes data.content with
      | .blank => fresh
      | .table t => some (t, files)
      | .foreign => none

/-- Opens a database for browsing. One without a table opens, but nothing can be read from it. -/
def browseDatabase? (files : FileTree) (path : String) : Option Store :=
  let without : Store := ⟨Table.empty, .readOnly, false, false⟩
  if isTemporary path then some without
  else
    match Config.openFile files path with
    | .file data =>
      match Database.ofBytes data.content with
      | .blank => some without
      | .table t => some ⟨t, .readOnly, false, true⟩
      | .foreign => none
    | _ => none

/-! ### Commands -/

/-- The totals of a scan that came to its end. -/
def summary? (items : List ScanItem) : Option ScanSummary :=
  items.findSome? fun item => match item.event with
    | .ok (.complete summary) => some summary
    | _ => none

/-- The line about the totals of a scan. -/
def summaryLine (s : ScanSummary) : String :=
  s!"{s.discovered} files: {s.processed} processed, {s.cached} unchanged, {s.skipped} skipped, {s.failed} failed\n"

/-- Scans a directory into the database. -/
def update (d : Digests) (m : Machine) (c : Config) (directory : String) (names : List String)
    (force dryRun : Bool) : Outcome :=
  match (Registry.ofSettings c.backends).bind fun registry => registry.select names with
  | .error cause => .failed m.files (.backends cause)
  | .ok registry =>
    match openDatabase m.files m.now c.database with
    | none => .failed m.files .database
    | some (table, files) =>
      let during := if isTemporary c.database then files
        else (companions c.database).foldl (fun files (path : String) => files.writeFile path ByteArray.empty m.now) files
      let items := scan d during registry force ⟨table, .readWrite, dryRun, true⟩ directory
      let store := (items.getLast?.map (·.store)).getD ⟨table, .readWrite, dryRun, true⟩
      let files := saveDatabase files m.now c.database store.table
      match summary? items with
      | none => .failed files .scan
      | some summary =>
        ⟨(summaryLine summary).toUTF8, if summary.failed = 0 then none else some .scan, files⟩

/-- The namespace of the configured mounts over the database. -/
def browse (m : Machine) (c : Config) : Except CommandError (Store × Namespace) :=
  match browseDatabase? m.files c.database with
  | none => .error .database
  | some store =>
    match c.mounts.foldlM (fun n (mount : MountSettings) => Namespace.withMount n mount.name mount.schema)
      (Namespace.new c.strictQueries) with
    | .error cause => .error (.mount cause)
    | .ok n => .ok (store, n)

/-- The lines of a listing: a slash marks a directory. -/
def listingLine : String × NodeKind → String
  | (name, .directory) => name ++ "/\n"
  | (name, .file) => name ++ "\n"

/-- Lists a directory of the namespace. -/
def list (m : Machine) (c : Config) (path : String) : Outcome :=
  match browse m c with
  | .error e => .failed m.files e
  | .ok (store, n) =>
    match n.browser.list store path with
    | .error cause => .failed m.files (.cannotList path cause)
    | .ok entries =>
      let shown := entries.filter fun e => e.1 ≠ "." && e.1 ≠ ".."
      .done m.files (String.join (shown.map listingLine))

/-- How many bytes are asked for at a time when a file is printed. -/
def chunkLength : Nat := 64 * 1024

/-- The bytes that reads give from an offset on until one gives none, and why reading ended early,
if it did. -/
def readAll (read : Nat → Except NamespaceError ByteArray) (offset : Nat) (before : ByteArray) :
    Nat → ByteArray × Option NamespaceError
  | 0 => (before, none)
  | n + 1 =>
    match read offset with
    | .error cause => (before, some cause)
    | .ok chunk =>
      if chunk.isEmpty then (before, none)
      else readAll read (offset + chunk.size) (before ++ chunk) n

/-- A bound on the number of reads that an open file takes. -/
def readCount (n : Namespace) (handle : Nat) : Nat :=
  match n.openFile? handle with
  | some (.file data) => data.content.size + 1
  | _ => 1

/-- Prints a file of the namespace. -/
def print (m : Machine) (c : Config) (path : String) : Outcome :=
  match browse m c with
  | .error e => .failed m.files e
  | .ok (store, n) =>
    match n.open store m.files path false with
    | (.error cause, _) => .failed m.files (.cannotRead path cause)
    | (.ok handle, n) =>
      let read (offset : Nat) := n.read [] handle offset chunkLength
      let (output, cause) := readAll read 0 ByteArray.empty (readCount n handle)
      ⟨output, cause.map (.cannotRead path), m.files⟩

/-- Lists the backends. -/
def backends (m : Machine) (c : Config) : Outcome :=
  match Registry.ofSettings c.backends with
  | .error cause => .failed m.files (.backends cause)
  | .ok registry =>
    .done m.files (String.join (registry.values.map fun r =>
      r.backend.name ++ "\t" ++ r.backend.description ++ "\n\taccepts: " ++ ", ".intercalate r.patterns ++ "\n"))

/-- Shows the configuration, or the value of a key. -/
def showConfig (files : FileTree) (c : Config) (key : Option String) : Outcome :=
  match key with
  | none => .done files (Json.pretty (.table c.outline) ++ "\n")
  | some key =>
    match c.find? key with
    | none => .failed files (.unknownKey key)
    | some v => .done files (Json.pretty v ++ "\n")

/-- Sets a key in the configuration file and shows its value. -/
def setConfig (m : Machine) (config : Option String) (key value : String) : Outcome :=
  match config.map Except.ok |>.getD (Config.userFile m.environment) with
  | .error cause => .failed m.files (.config cause)
  | .ok path =>
    match Config.set m.files m.environment m.now path key value with
    | (.error cause, files) => .failed files (.config cause)
    | (.ok c, files) => showConfig files c (some key)

/-- Runs a command that needs the configuration. -/
def withConfig (m : Machine) (config : Option String) (command : Config → Outcome) : Outcome :=
  match Config.load m.files m.environment config with
  | .error cause => .failed m.files (.config cause)
  | .ok c => command c

/-- Runs a command. A key can be set even in a file that does not load as it is. -/
def run (d : Digests) (m : Machine) (i : Invocation) : Outcome :=
  match i.request with
  | .set key value => setConfig m i.config key value
  | .update directory names force dryRun =>
    withConfig m i.config fun c => update d m c directory names force dryRun
  | .list path => withConfig m i.config fun c => list m c path
  | .print path => withConfig m i.config fun c => print m c path
  | .backends => withConfig m i.config fun c => backends m c
  | .show key => withConfig m i.config fun c => showConfig m.files c key

/-! ### The program -/

/-- How the program ends: with success, with a failure, or because its arguments are wrong. -/
def exitSuccess : Nat := 0

/-- The program failed. -/
def exitFailure : Nat := 1

/-- The arguments were wrong. -/
def exitUsage : Nat := 2

/-- How the program ends with given arguments, and what it has done. -/
def runArguments (d : Digests) (m : Machine) (arguments : List String) : Nat × Outcome :=
  let variableText := m.environment.get? configVariable
  match Invocation.ofArguments variableText arguments with
  | .error .usage => (exitUsage, .done m.files "")
  | .error .version => (exitSuccess, .done m.files (programName ++ " " ++ programVersion ++ "\n"))
  | .error (.help topic) => (exitSuccess, .done m.files (helpText variableText topic))
  | .ok invocation =>
    let outcome := run d m invocation
    (if outcome.error.isSome then exitFailure else exitSuccess, outcome)

end MediaCatalog.Command
