import MediaCatalog.Files.Path

/-!
# Files that were found

What a scan knows of a file before it reads it: path, size and time of modification.

* `FileInfo.second`: the time in whole seconds, rounded down.
* `FileInfo.name?`, `FileInfo.stem?`, `FileInfo.extension?`: parts of the path that are text.
-/

namespace MediaCatalog

/-- A file that was found. -/
structure FileInfo where
  /-- The absolute location, by which the file is known. -/
  path : FilePath
  /-- The number of bytes. -/
  size : Nat
  /-- The time of the last modification in nanoseconds since the epoch. -/
  modified : Int
  deriving DecidableEq, Repr

namespace FileInfo

/-- The path as it is stored in entries. -/
def pathText (f : FileInfo) : String := f.path.text

/-- The second in which the file was last modified. -/
def second (f : FileInfo) : Int := f.modified.fdiv 1000000000

/-- The size in decimal. -/
def sizeText (f : FileInfo) : String := toString f.size

/-- The second of the last modification in decimal. -/
def secondText (f : FileInfo) : String := toString f.second

/-- The file's name, if it is text. -/
def name? (f : FileInfo) : Option String := f.path.name?.bind Text.Utf8.strict?

/-- The file's name without extension, if it is text. -/
def stem? (f : FileInfo) : Option String := f.path.stem?.bind Text.Utf8.strict?

/-- The file's extension, if it is text. -/
def extension? (f : FileInfo) : Option String := f.path.extension?.bind Text.Utf8.strict?

end FileInfo

end MediaCatalog
