import MediaCatalog.Text.Identifier

/-!
# Label templates

A label template is text with `$name` parts, each standing for a field of an entry. A `$` that no
identifier follows is ordinary text. Labels are the names under which entries appear in a
directory.

* `LabelTemplate.parts`: the literal and field parts of a template, in order; adjacent literal
  text is one part, and no literal part is empty.
* `LabelTemplate.render`: the text with each field part replaced, in one pass.
-/

namespace MediaCatalog

/-- A part of a label template. -/
inductive LabelPart where
  /-- Text that stands for itself. -/
  | literal (text : List Char)
  /-- The value of the field called `name`. -/
  | field (name : List Char)
  deriving DecidableEq, Repr

namespace LabelPart

/-- Parts preceded by one more character of literal text. -/
def consLiteral (c : Char) : List LabelPart → List LabelPart
  | literal text :: parts => literal (c :: text) :: parts
  | parts => literal [c] :: parts

/-- The parts of a template text. -/
def scan : List Char → List LabelPart
  | [] => []
  | c :: rest =>
    if c = '$' ∧ (Text.takeIdent rest).1 ≠ [] then
      field (Text.takeIdent rest).1 :: scan (Text.takeIdent rest).2
    else consLiteral c (scan rest)
  termination_by s => s.length
  decreasing_by
    · have := Text.takeIdent_length_le rest
      simp only [List.length_cons]
      omega
    · simp

/-- The text of a part in a template. -/
def source : LabelPart → List Char
  | literal text => text
  | field name => '$' :: name

/-- The text that a part contributes to a label; an absent field contributes nothing. -/
def render (lookup : String → Option String) : LabelPart → List Char
  | literal text => text
  | field name => ((lookup (String.ofList name)).getD "").toList

end LabelPart

/-- A template for the names of entries. -/
structure LabelTemplate where
  /-- The text of the template. -/
  source : String
  deriving DecidableEq, Repr

namespace LabelTemplate

/-- The parts of the template, in order. -/
def parts (t : LabelTemplate) : List LabelPart := LabelPart.scan t.source.toList

/-- The names of the fields that the template mentions, in order of appearance. -/
def fieldNames (t : LabelTemplate) : List String :=
  t.parts.filterMap fun
    | .literal _ => none
    | .field name => some (String.ofList name)

/-- The template with each field part replaced by its value. -/
def render (t : LabelTemplate) (lookup : String → Option String) : String :=
  String.ofList (t.parts.flatMap (LabelPart.render lookup))

end LabelTemplate

end MediaCatalog
