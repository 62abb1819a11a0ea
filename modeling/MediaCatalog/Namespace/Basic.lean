import MediaCatalog.Dict
import MediaCatalog.Schema.Basic
import MediaCatalog.Store.Basic

/-!
# Mounts and nodes

The namespace is the tree in which the catalog is browsed. Its root lists the mounts; below a mount
the schema decides what a path leads to.

* `Mounts.register`: mounts by name.
* `NodeKind.classify`: whether an entry appears as a directory or as a file.
* `NamespaceError`: the outcomes of failed requests.
-/

namespace MediaCatalog

/-- Why a request to the namespace failed. -/
inductive NamespaceError where
  /-- A mount could not be registered. -/
  | schema (reason : SchemaError)
  | notFound
  | permissionDenied
  | notADirectory
  | isADirectory
  | badHandle
  /-- A real file could not be examined or read. -/
  | io
  /-- The store failed. -/
  | store (cause : StoreError)
  deriving DecidableEq, Repr

namespace NamespaceError

/-- The wording of an error. -/
def message : NamespaceError → String
  | schema reason => s!"invalid mount schema: {reason.message}"
  | notFound => "no such file or directory"
  | permissionDenied => "permission denied"
  | notADirectory => "not a directory"
  | isADirectory => "is a directory"
  | badHandle => "bad file handle"
  | io => "i/o error"
  | store _ => "entry store error"

/-- Whether the same request may succeed later. -/
def isRetryable : NamespaceError → Bool
  | io | store _ => true
  | _ => false

end NamespaceError

/-- How a node appears. -/
inductive NodeKind where
  | directory
  | file
  deriving DecidableEq, Repr

/-- How an entry appears that the level at `depth`, counted from zero, has found. Above the last
level everything is a directory; on the last level only sets are. -/
def NodeKind.classify (schema : Schema) (depth : Nat) (e : Entry) : NodeKind :=
  if depth + 1 < schema.levels.length ∨ e.isSet then directory else file

/-- Schemas by the names of their mounts. -/
abbrev Mounts := Dict Schema

namespace Mounts

/-- Whether a name can be that of a mount: a segment that no path gives another meaning. -/
def isName (name : String) : Bool := name ≠ "" && !name.toList.contains '/' && name ≠ "." && name ≠ ".."

/-- Adds a mount, or replaces the one of the same name. Tells whether that could be done, with the mounts as
they are then. -/
def register (mounts : Mounts) (name schema : String) : Except NamespaceError Unit × Mounts :=
  if isName name then
    match Schema.ofText schema with
    | .ok schema => (.ok (), mounts.insert name schema)
    | .error reason => (.error (.schema reason), mounts)
  else (.error (.schema (.badName name)), mounts)

end Mounts

end MediaCatalog
