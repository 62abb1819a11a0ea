import MediaCatalog.Text.Utf8

/-!
# Names in paths

A path is any run of bytes without NUL, a name is one without slashes. The file name of a path is its last
part, its extension what follows the last dot of the name; a dot in front of the name starts no extension.

* `FilePath.ofNames`: the absolute path of names; they need not be text.
* `FilePath.text`: the path as text, malformed UTF-8 replaced.
* `FilePath.steps`: the names that a path takes one after the other.
* `FilePath.name?`, `FilePath.stem?`, `FilePath.extension?`: the parts of the path, as bytes.
-/

namespace MediaCatalog

/-- A name in a directory: any run of bytes without NUL and slash. -/
abbrev FileName := List UInt8

namespace FileName

/-- The byte of `.`. -/
def dot : UInt8 := 46

/-- The name with a given text. -/
def ofText (text : String) : FileName := Text.Utf8.bytes text

/-- The step that stays where it is. -/
def here : FileName := [dot]

/-- The step back to the parent. -/
def above : FileName := [dot, dot]

end FileName

/-- The location of a file. -/
structure FilePath where
  bytes : List UInt8
  deriving DecidableEq, Repr

namespace FilePath

/-- The byte of `/`. -/
def slash : UInt8 := 47

/-- The path with a given text. -/
def ofText (text : String) : FilePath := ⟨Text.Utf8.bytes text⟩

/-- A text stands for the path that it spells. -/
instance : Coe String FilePath := ⟨ofText⟩

/-- The absolute path of names. -/
def ofNames (names : List FileName) : FilePath := ⟨slash :: [slash].intercalate names⟩

/-- The path as text; malformed UTF-8 is replaced. -/
def text (p : FilePath) : String := Text.Utf8.lossy p.bytes

/-- Whether a path starts at the root. -/
def isAbsolute (p : FilePath) : Bool := p.bytes.head? = some slash

/-- The runs between slashes. -/
def names (p : FilePath) : List FileName :=
  (p.bytes.splitOnP (· == slash)).filter fun name => !name.isEmpty

/-- The steps of a path. A trailing slash asks for a directory, as a final `.` does. -/
def steps (p : FilePath) : List FileName :=
  p.names ++ if p.bytes.getLast? = some slash then [.here] else []

/-- The steps of a path other than those that stay where they are. -/
def parts (p : FilePath) : List FileName := p.names.filter (· ≠ .here)

/-- The last part, unless it leads back to a parent. -/
def name? (p : FilePath) : Option FileName := p.parts.getLast?.filter (· ≠ .above)

/-- A name cut at its last dot; the dot in front of a name does not count. -/
def splitName (name : FileName) : List UInt8 × Option (List UInt8) :=
  match name.reverse.dropWhile (· ≠ FileName.dot) with
  | [] | [_] => (name, none)
  | _ :: before => (before.reverse, some (name.reverse.takeWhile (· ≠ FileName.dot)).reverse)

/-- The name without its extension. -/
def stem? (p : FilePath) : Option (List UInt8) := p.name?.map fun name => (splitName name).1

/-- The extension of the name. -/
def extension? (p : FilePath) : Option (List UInt8) := p.name?.bind fun name => (splitName name).2

end FilePath

end MediaCatalog
