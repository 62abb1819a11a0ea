import MediaCatalog.Files.Metadata
import MediaCatalog.Store.Basic

/-!
# Backends

A backend looks at files and says what it knows of them: properties for the file's entry, and named
sets to which the file belongs. It is started before a scan and stopped after it.

* `Backend`: what a backend is asked for.
* `Failure`: what goes wrong while files are catalogued, with its causes.
-/

namespace MediaCatalog

/-- What can go wrong while files are catalogued. -/
inductive Fault where
  /-- A file could not be opened or read. -/
  | io
  /-- A content identifier could not be computed. -/
  | hash
  /-- A scanned file has no content identifier. -/
  | unidentified
  /-- A backend failed. -/
  | backend (name : String)
  | unknownBackend (name : String)
  | invalidGlob (pattern : String)
  /-- An entry could not be read or written. -/
  | store
  /-- The entries of a scanned file could not be read or written. -/
  | unrecorded
  | scan
  /-- A directory could not be listed. -/
  | walk (directory : FilePath)
  /-- What the store itself says. -/
  | inStore (error : StoreError)
  deriving DecidableEq, Repr

namespace Fault

/-- The wording of a fault. -/
def message : Fault → String
  | io => "i/o error"
  | hash => "could not compute content identifier"
  | unidentified => "Hash"
  | backend name => s!"backend `{name}` failed"
  | unknownBackend name => s!"no backend named `{name}`"
  | invalidGlob pattern => s!"invalid glob pattern `{pattern}`"
  | store => "entry store error"
  | unrecorded => "Store"
  | scan => "issue while scanning for files"
  | walk directory => s!"could not walk {directory.text}"
  | inStore error => error.message

/-- Whether the same call may succeed later. -/
def isRetryable : Fault → Bool
  | io | store => true
  | _ => false

end Fault

/-- A fault with what caused it, the nearest cause first. -/
structure Failure where
  fault : Fault
  causes : List Fault
  deriving DecidableEq, Repr

namespace Failure

/-- A fault without a further cause. -/
def of (fault : Fault) : Failure := ⟨fault, []⟩

/-- A fault caused by a failure. -/
def above (fault : Fault) (cause : Failure) : Failure := ⟨fault, cause.fault :: cause.causes⟩

/-- What a failure of the store means to the catalogue. -/
def ofStore (error : StoreError) : Failure := ⟨.store, [.inStore error]⟩

end Failure

/-- A set to which a file belongs. -/
structure SetAssociation where
  /-- What identifies the set. -/
  name : String
  /-- The kind of set. The file's entry gets a field of this name. -/
  kind : String
  /-- Properties for the set's entry. -/
  properties : Fields

/-- What a backend knows of a file. -/
structure Contribution where
  properties : Fields
  sets : List SetAssociation

namespace Contribution

/-- Nothing is known. -/
def none : Contribution := ⟨Dict.empty, []⟩

/-- Whether nothing is known. -/
def isEmpty (c : Contribution) : Bool := c.properties.isEmpty && c.sets.isEmpty

end Contribution

/-- Something that knows about files. -/
structure Backend where
  /-- What the backend is called in keys and in the configuration. -/
  name : String
  description : String
  /-- The names of files that it accepts unless configured otherwise. -/
  defaultGlobs : List String
  /-- Prepares for a scan. -/
  start : Except Failure Unit
  /-- What it knows of a file with a content identifier. -/
  process : FileInfo → String → Except Failure Contribution
  /-- What it knows of a set of a kind with a name. -/
  describe : String → String → Except Failure Fields
  /-- Ends a scan. -/
  stop : Except Failure Unit

end MediaCatalog
