import MediaCatalog.Dict
import MediaCatalog.Record.Key
import MediaCatalog.Record.LabelTemplate

/-!
# Entries

An entry is a record without a fixed schema: a key, and text values under field names. All values
are text; numbers are kept in decimal.
-/

namespace MediaCatalog

/-- The fields of an entry. -/
abbrev Fields := Dict String

/-- A key with the fields known under it. -/
structure Entry where
  key : Key
  fields : Fields
  deriving DecidableEq

namespace Entry

/-- The entry of which nothing is known. -/
def blank (key : Key) : Entry := ⟨key, Dict.empty⟩

/-- Whether nothing is known of the entry. -/
def isBlank (e : Entry) : Bool := e.fields.isEmpty

/-- Whether the entry is a set. -/
def isSet (e : Entry) : Bool := e.key.isSet

/-- The value of a field. -/
def get? (e : Entry) (field : String) : Option String := e.fields.get? field

/-- Whether a field is present. -/
def contains (e : Entry) (field : String) : Bool := e.fields.contains field

/-- The entry with a field set to a value. -/
def insert (e : Entry) (field value : String) : Entry := { e with fields := e.fields.insert field value }

/-- The entry with a field set to a value unless it is present. -/
def insertIfNew (e : Entry) (field value : String) : Entry :=
  { e with fields := e.fields.insertIfNew field value }

/-- The entry overlaid by fields, whose values win. -/
def overlay (e : Entry) (fields : Fields) : Entry := { e with fields := e.fields.union fields }

/-- The label of the entry under a template. -/
def label (e : Entry) (template : LabelTemplate) : String := template.render e.get?

/-- The field name under which conditions and orderings see the key itself. -/
def keyField : String := "pkey"

/-- The key for the name `pkey`, the field's value for every other name. -/
def keyOrField? (e : Entry) (name : String) : Option String :=
  if name = keyField then some e.key.text else e.get? name

end Entry

end MediaCatalog
