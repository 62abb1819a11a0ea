import MediaCatalog.Backend.Release
import MediaCatalog.Glob.Basic

/-!
# The registry of backends

The backends that may take part in a scan, in the order of their names, each with the globs of the
file names that it accepts.

* `Registry.register`, `Registry.select`: changes to the registry.
* `Registered.accepts`: whether a backend is asked about a file.
* `Registry.ofSettings`: the built-in backends as they are configured.
-/

namespace MediaCatalog

/-- A backend with the globs of the file names that it accepts. -/
structure Registered where
  backend : Backend
  globs : List Glob

namespace Registered

/-- The texts of the globs. -/
def patterns (r : Registered) : List String := r.globs.map (·.source)

/-- Compiles globs. -/
def compile (patterns : List String) : Except Failure (List Glob) :=
  patterns.mapM fun pattern =>
    match Glob.ofText? pattern with
    | some glob => .ok glob
    | none => .error (.of (.invalidGlob pattern))

/-- A backend with the given globs, or with its own if none are given. -/
def ofBackend (backend : Backend) (patterns : List String) : Except Failure Registered := do
  return ⟨backend, ← compile (if patterns.isEmpty then backend.defaultGlobs else patterns)⟩

/-- Whether the name of the file at a path matches one of the globs. -/
def accepts (r : Registered) (path : FilePath) : Bool :=
  match path.name? with
  | none => false
  | some name => r.globs.any fun glob => glob.matchesName (Text.Utf8.lossy name)

end Registered

/-- Backends by name. -/
abbrev Registry := Dict Registered

/-- What the configuration says of a backend. -/
structure BackendSettings where
  enabled : Bool
  globs : List String
  deriving DecidableEq, Repr

/-- What holds for a backend that the configuration does not mention. -/
def BackendSettings.initial : BackendSettings := ⟨true, []⟩

namespace Registry

/-- The backends that every program has. -/
def builtIn : List Backend := [Release.backend]

/-- Adds a backend, or replaces the one of the same name. -/
def register (registry : Registry) (backend : Backend) (patterns : List String) : Except Failure Registry := do
  return registry.insert backend.name (← Registered.ofBackend backend patterns)

/-- The backend with a name. -/
def find (registry : Registry) (name : String) : Except Failure Registered :=
  match registry.get? name with
  | some r => .ok r
  | none => .error (.of (.unknownBackend name))

/-- The registry reduced to some names; to none of them stands for all. -/
def select (registry : Registry) (names : List String) : Except Failure Registry :=
  if names.isEmpty then .ok registry
  else do
    names.forM fun name => discard (registry.find name)
    return registry.filter fun name _ => names.contains name

/-- Adds those of some backends that are enabled. -/
def registerEnabled (settings : Dict BackendSettings) (registry : Registry) (backend : Backend) :
    Except Failure Registry :=
  let own := (settings.get? backend.name).getD .initial
  if own.enabled then registry.register backend own.globs else .ok registry

/-- The built-in backends as they are configured. Settings for a backend that is not built in are
an error. -/
def ofSettings (settings : Dict BackendSettings) : Except Failure Registry :=
  match settings.keys.find? fun name => builtIn.all fun backend => backend.name != name with
  | some unknown => .error (.of (.unknownBackend unknown))
  | none => builtIn.foldlM (registerEnabled settings) Dict.empty

end Registry

end MediaCatalog
