import MediaCatalog.Number.Decimal
import MediaCatalog.Record.Entry

/-!
# Query templates

A query template is text in the condition language with references `$name[n].field` to entries that
were resolved before. A `$` that starts no reference is ordinary text.

* `Backref.read?`: the reader of one reference; nothing is lost (`read?_eq_some`).
* `QueryTemplate.parts`: the literal parts and references of a template, in order.
* `QueryTemplate.substitute`: the text with each reference replaced, in one pass.
-/

namespace MediaCatalog

/-- A reference `$name[n].field`; `digits` is the text of `n`. -/
structure Backref where
  name : List Char
  digits : List Char
  field : List Char
  deriving DecidableEq, Repr

namespace Backref

/-- The only name through which entries can be referred to. -/
def chainName : List Char := "prev".toList

/-- The text of a reference after its `$`. -/
def body (r : Backref) : List Char := r.name ++ '[' :: (r.digits ++ ']' :: '.' :: r.field)

/-- The reference whose `$` was just read, and what follows it. -/
def read? (s : List Char) : Option (Backref × List Char) := do
  let (name, s) ← Text.identifier? s
  let s ← Text.afterChar? '[' s
  let digits := s.takeWhile Char.isDigit
  if digits.isEmpty then none
  let s ← Text.afterChar? ']' (s.dropWhile Char.isDigit)
  let s ← Text.afterChar? '.' s
  let (field, rest) ← Text.identifier? s
  return (⟨name, digits, field⟩, rest)

/-- The text of the reference and the rest make up the text that was read. -/
theorem read?_eq_some {s rest : List Char} {r : Backref} (h : read? s = some (r, rest)) :
    s = r.body ++ rest := by
  simp only [read?, Option.bind_eq_bind, Option.bind_eq_some_iff, Option.pure_def, Prod.exists] at h
  obtain ⟨name, s₁, h₁, s₂, h₂, h⟩ := h
  split at h
  · simp at h
  · simp only [Option.bind_eq_some_iff, Option.some.injEq, Prod.mk.injEq, Prod.exists] at h
    obtain ⟨s₃, h₃, s₄, h₄, field, r', h₅, rfl, rfl⟩ := h
    rw [(Text.identifier?_eq_some h₁).1, Text.afterChar?_eq_some h₂, body]
    have hdigits := List.takeWhile_append_dropWhile (p := Char.isDigit) (l := s₂)
    rw [Text.afterChar?_eq_some h₃, Text.afterChar?_eq_some h₄,
      (Text.identifier?_eq_some h₅).1] at hdigits
    simp only [List.append_assoc, List.cons_append]
    rw [hdigits]

/-- A backreference takes up text. -/
theorem length_le_of_read? {s rest : List Char} {r : Backref} (h : read? s = some (r, rest)) :
    rest.length ≤ s.length := by
  rw [read?_eq_some h, List.length_append]
  omega

/-- The position from the end of the chain to which the reference points. -/
def index (r : Backref) : Nat := (Number.digitsValue? r.digits).getD 0

/-- The value of a reference. The chain lists the entries resolved so far, the earliest first, and
`$prev[1]` is its last. A reference to nothing has no value. -/
def value? (r : Backref) (chain : List Entry) : Option String :=
  if r.name = chainName ∧ 1 ≤ r.index ∧ r.index ≤ chain.length then do
    let e ← chain[chain.length - r.index]?
    e.keyOrField? (String.ofList r.field)
  else none

end Backref

/-- A part of a query template. -/
inductive QueryPart where
  /-- Text that stands for itself. -/
  | literal (text : List Char)
  /-- A reference to an entry that was resolved before. -/
  | backref (reference : Backref)
  deriving DecidableEq, Repr

namespace QueryPart

/-- Parts preceded by one more character of literal text. -/
def consLiteral (c : Char) : List QueryPart → List QueryPart
  | literal text :: parts => literal (c :: text) :: parts
  | parts => literal [c] :: parts

/-- The parts of a template text. -/
def scan : List Char → List QueryPart
  | [] => []
  | c :: rest =>
    match _h : if c = '$' then Backref.read? rest else none with
    | some (r, after) => backref r :: scan after
    | none => consLiteral c (scan rest)
  termination_by s => s.length
  decreasing_by
    · split at _h
      · have := Backref.length_le_of_read? _h
        simp only [List.length_cons]
        omega
      · cases _h
    · simp

/-- The text of a part in a template. -/
def source : QueryPart → List Char
  | literal text => text
  | backref r => '$' :: r.body

/-- The text that a part contributes to a query; a reference to nothing contributes nothing. -/
def substitute (chain : List Entry) : QueryPart → List Char
  | literal text => text
  | backref r => ((r.value? chain).getD "").toList

end QueryPart

/-- A query with references left to fill in. -/
structure QueryTemplate where
  /-- The text of the template. -/
  source : String
  deriving DecidableEq, Repr

namespace QueryTemplate

/-- The parts of the template, in order. -/
def parts (t : QueryTemplate) : List QueryPart := QueryPart.scan t.source.toList

/-- The template with each reference replaced by its value. -/
def substitute (t : QueryTemplate) (chain : List Entry) : String :=
  String.ofList (t.parts.flatMap (QueryPart.substitute chain))

end QueryTemplate

end MediaCatalog
