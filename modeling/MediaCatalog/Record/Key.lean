import MediaCatalog.Digest.Blake3

/-!
# Keys of entries

An entry is addressed by one text. A file's key is `file:` and the digest of its path; a set's key
is `set:`, the name of the backend that contributed it, its kind, and the digest of its name, with
colons between.

* `Key.file`, `Key.set`: the two forms, for any digest function on texts.
* `Key.head`, `Key.isSet`: what a key says about its entry.
-/

namespace MediaCatalog

/-- The address of an entry. -/
structure Key where
  /-- The whole key. -/
  text : String
  deriving DecidableEq, Repr, Inhabited

/-- A function from identifying texts to short texts. The library is written for any such function;
programs use `Blake3.hashText`. -/
abbrev Digest := String → String

namespace Key

/-- The first part of every file's key. -/
def fileHead : String := "file"

/-- The first part of every set's key. -/
def setHead : String := "set"

/-- What stands for a missing backend name or kind in the key of a set. -/
def unnamed : String := "unknown"

/-- The key with the given first part for the identifying text `id`. Only keys of sets say which
backend contributed them and of which kind they are. -/
def compose (digest : Digest) (first id : String) (source kind : Option String) : Key :=
  if first = setHead then
    ⟨first ++ ":" ++ source.getD unnamed ++ ":" ++ kind.getD unnamed ++ ":" ++ digest id⟩
  else ⟨first ++ ":" ++ digest id⟩

/-- The key of the file at a path. -/
def file (digest : Digest) (path : String) : Key := compose digest fileHead path none none

/-- The key of the set called `name`, of kind `kind`, contributed by `source`. -/
def set (digest : Digest) (source kind name : String) : Key :=
  compose digest setHead name (some source) (some kind)

/-- The part before the first colon; the whole key if there is none. -/
def head (key : Key) : String := String.ofList (key.text.toList.takeWhile (· ≠ ':'))

/-- Whether the key is that of a set, which is browsed as a directory. -/
def isSet (key : Key) : Bool := key.head == setHead

/-- The text of the key of a file. -/
theorem file_text (digest : Digest) (path : String) :
    (file digest path).text = "file:" ++ digest path := by
  simp [file, compose, fileHead, setHead]

/-- The text of the key of a set. -/
theorem set_text (digest : Digest) (source kind name : String) :
    (set digest source kind name).text =
      "set:" ++ source ++ ":" ++ kind ++ ":" ++ digest name := by
  simp [set, compose, setHead]

end Key

end MediaCatalog
