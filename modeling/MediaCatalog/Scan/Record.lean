import MediaCatalog.Backend.Basic

/-!
# Records of files and sets

A file record is the entry of one scanned file, a set record the entry of a set that backends
associate files with. A file belongs to a set if its field named after the set's kind holds the
set's key.

* `FileRecord.load`, `isUnchanged`, `describe`, `apply`, `join`: what a scan does to a file's entry.
* `SetRecord.load`, `SetRecord.enrich`: what it does to a set's entry. Fields are only ever added.
-/

namespace MediaCatalog

/-- The field with the path of a file. -/
def pathField : String := "path"

/-- The field with the size of a file. -/
def sizeField : String := "size"

/-- The field with the second in which a file was last modified. -/
def timeField : String := "mtime"

/-- The field with the content identifier of a file. -/
def contentField : String := "content_id"

/-- The field with the name of a set. A set that has it was described before. -/
def nameField : String := "name"

/-- The entry of a scanned file. -/
structure FileRecord where
  entry : Entry

namespace FileRecord

/-- The record of a file, with whatever is stored for it. -/
def load (digest : Digest) (tx : Transaction) (file : FileInfo) : FileRecord :=
  ⟨tx.entryFor (Key.file digest file.pathText)⟩

/-- Whether the recorded size and time still are those of the file. -/
def isUnchanged (r : FileRecord) (file : FileInfo) : Bool :=
  r.entry.contains contentField && r.entry.get? sizeField == some file.sizeText &&
    r.entry.get? timeField == some file.secondText

/-- The record with what is known of the file itself. -/
def describe (r : FileRecord) (file : FileInfo) (contentId : String) : FileRecord :=
  ⟨(((r.entry.insert pathField file.pathText).insert sizeField file.sizeText).insert timeField
    file.secondText).insert contentField contentId⟩

/-- The record overlaid by properties. -/
def apply (r : FileRecord) (properties : Fields) : FileRecord := ⟨r.entry.overlay properties⟩

end FileRecord

/-- The entry of a set. -/
structure SetRecord where
  entry : Entry
  kind : String
  name : String

namespace SetRecord

/-- The record of a set, with whatever is stored for it. -/
def load (digest : Digest) (tx : Transaction) (source kind name : String) : SetRecord :=
  ⟨tx.entryFor (Key.set digest source kind name), kind, name⟩

/-- Whether the set was never described. -/
def isNew (r : SetRecord) : Bool := !r.entry.contains nameField

/-- The record with a field set unless it has it, and whether it was set. -/
def completeField (r : SetRecord) (field value : String) : Bool × SetRecord :=
  (!r.entry.contains field, { r with entry := r.entry.insertIfNew field value })

/-- Completes the record by one field after the other, and tells whether anything has changed by then. -/
def completeFrom (changed : Bool) (r : SetRecord) : List (String × String) → Bool × SetRecord
  | [] => (changed, r)
  | (field, value) :: rest =>
    let (set, r) := r.completeField field value
    completeFrom (changed || set) r rest

/-- The record with those of the fields that it lacks, and whether there are any. -/
def complete (r : SetRecord) (fields : Fields) : Bool × SetRecord := completeFrom false r fields.toList

/-- Completes the record by a description, which also makes sure that it has its name. -/
def completeDescribed (r : SetRecord) (description : Fields) : Bool × SetRecord :=
  let (changed, r) := r.complete description
  let (named, r) := r.completeField nameField r.name
  (changed || named, r)

/-- Completes the record by the properties of an association. -/
def completeAssociated (r : SetRecord) (changed : Bool) (association : SetAssociation) : Bool × SetRecord :=
  let (changed', r) := r.complete association.properties
  (changed || changed', r)

/-- Completes the record, and tells whether it has to be saved. A set that was never described is
described by the backend first. -/
def enrich (r : SetRecord) (backend : Backend) (association : SetAssociation) :
    Except Failure (Bool × SetRecord) :=
  if r.isNew then
    match backend.describe r.kind r.name with
    | .error cause => .error (.above (.backend backend.name) cause)
    | .ok description =>
      let (changed, r) := r.completeDescribed description
      .ok (r.completeAssociated changed association)
  else .ok (r.completeAssociated false association)

end SetRecord

/-- The record of a file that belongs to a set. -/
def FileRecord.join (r : FileRecord) (set : SetRecord) : FileRecord :=
  ⟨r.entry.insert set.kind set.entry.key.text⟩

end MediaCatalog
