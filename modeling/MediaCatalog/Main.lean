import MediaCatalog.Command.Run

/-!
# The program

The outer layer around the commands: it takes from the disk what a command may look at, runs the
command, prints its output, and writes back the files that it changed.

A scan is told by its caller which files there are: standard input holds a line for each of them,
the time of its last modification in seconds since the epoch, a tab, and its path.
-/

namespace MediaCatalog.Program

open Command

/-- The variables that a command may look at. -/
def variableNames : List String :=
  ["HOME", "XDG_CONFIG_HOME", "XDG_DATA_HOME", "HASHFS_CONFIG", "HASHFS_DATABASE", "HASHFS_STRICT_QUERIES",
    "HASHFS_MOUNTS", "HASHFS_BACKENDS", "HASHFS_BACKENDS__RELEASE", "HASHFS_BACKENDS__RELEASE__ENABLED",
    "HASHFS_BACKENDS__RELEASE__GLOBS"]

/-- The environment of the program. -/
def environment : IO Environment := do
  let pairs ← variableNames.filterMapM fun name => do
    return (← IO.getEnv name).map fun text => (name, text)
  return ⟨pairs⟩

/-- A tree with the working directory alone. No command asks for the size or the time of a directory. -/
def startTree : IO FileTree := do
  let directory ← IO.currentDir
  return .ofHere (FilePath.ofText s!"{directory}").names ⟨0, 0⟩

/-- The tree with the content of a file of the disk, if it can be read. -/
def withFile (files : FileTree) (path : String) (modified : Int) : IO FileTree := do
  try
    return files.writeFile path (← IO.FS.readBinFile path) modified
  catch _ => return files

/-- The tree with the content of several files of the disk, as far as they can be read. -/
def withFiles (files : FileTree) (paths : List String) : IO FileTree :=
  paths.foldlM (fun files path => withFile files path 0) files

/-- The configuration files that a command may look at. -/
def configPaths (env : Environment) (config : Option String) : List String :=
  match config, env.configDirectory? with
  | some path, _ => [path]
  | none, some directory => Config.userFileNames.map (Environment.inside directory)
  | none, none => []

/-- A time in nanoseconds, from its text in seconds. -/
def nanoseconds (text : String) : Int :=
  let (negative, text) := match text.toList with
    | '-' :: rest => (true, rest)
    | rest => (false, rest)
  let seconds := text.takeWhile (· != '.')
  let fraction := ((text.drop (seconds.length + 1)).filter Char.isDigit).take 9
  let digits := seconds ++ fraction ++ List.replicate (9 - fraction.length) '0'
  let n : Int := (Number.digitsValue? digits).getD 0
  if negative then -n else n

/-- The tree with the files that standard input lists. -/
partial def withListedFiles (input : IO.FS.Stream) (files : FileTree) : IO FileTree := do
  let line ← input.getLine
  if line.isEmpty then return files
  let line := line.toList.filter (· != '\n')
  let time := line.takeWhile (· != '\t')
  let path := String.ofList (line.drop (time.length + 1))
  withListedFiles input (← withFile files path (nanoseconds (String.ofList time)))

/-- The path of the real file that a path of the namespace stands for. -/
def realFile? (m : Machine) (c : Config) (path : String) : Option String :=
  match browse m c with
  | .error _ => none
  | .ok (store, n) => (n.browser.resolve store path).toOption.bind Namespace.realPath?

/-- The machine with what a request may look at beside the configuration. -/
def withSubjects (m : Machine) (c : Config) (request : Request) : IO Machine := do
  let files ← withFiles m.files [c.database]
  let m := { m with files }
  match request with
  | .update .. => return { m with files := ← withListedFiles (← IO.getStdin) files }
  | .print path => return { m with files := ← withFiles files (realFile? m c path).toList }
  | _ => return m

/-- The directory in which a path lies. -/
def directoryOf (path : String) : String :=
  String.ofList ((path.toList.reverse.dropWhile (· != '/')).drop 1).reverse

/-- Writes a file if its content has changed. -/
def writeBack (before after : FileTree) (path : String) : IO Unit := do
  match before.node? path, after.node? path with
  | some (.file old), some (.file new) =>
    if old.content.toList ≠ new.content.toList then IO.FS.writeBinFile path new.content
  | none, some (.file new) =>
    let directory := directoryOf path
    if !directory.isEmpty then IO.FS.createDirAll directory
    IO.FS.writeBinFile path new.content
  | _, _ => return ()

/-- Runs a request and gives the code with which the program ends. -/
def perform (env : Environment) (arguments : List String) : IO UInt32 := do
  let m : Machine := ⟨← startTree, env, 0⟩
  let (m, paths) ← match Invocation.ofArguments (env.get? configVariable) arguments with
    | .error _ => pure (m, [])
    | .ok invocation => do
      let configs := configPaths env invocation.config
      let m := { m with files := ← withFiles m.files configs }
      match Config.load m.files env invocation.config with
      | .error _ => pure (m, configs)
      | .ok c => pure (← withSubjects m c invocation.request, configs ++ [c.database])
  let (code, outcome) := runArguments .standard m arguments
  paths.forM (writeBack m.files outcome.files)
  (← IO.getStdout).write outcome.output
  if let some error := outcome.error then IO.eprintln s!"Error: {error.message}"
  return code.toUInt32

end MediaCatalog.Program

/-- Runs the program. -/
def main (arguments : List String) : IO UInt32 := do
  MediaCatalog.Program.perform (← MediaCatalog.Program.environment) arguments
