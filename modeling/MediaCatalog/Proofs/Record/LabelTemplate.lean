import Mathlib.Data.List.Basic
import Mathlib.Data.List.Chain
import MediaCatalog.Proofs.Text.Identifier
import MediaCatalog.Proofs.Text.Replacement
import MediaCatalog.Record.Entry

/-!
# Label templates

A label template is read into parts, literal text and fields, and rendered part by part.

* **Parts** (`LabelPart.flatMap_source_scan`, `LabelPart.literal_nil_not_mem_scan`, `LabelPart.alternate_scan`): they make up
  the text of the template; literal text is never empty and never divided.
* `LabelPart.Mark`: the fields of a template as marks of its text.
* **Rendering** (`LabelPart.replaced_iff_rendered`): a rendered text is the text with its fields replaced, in one pass.
* **Main result** (`LabelTemplate.label_eq_iff`): all of this for templates and entries, and that a label depends on the
  fields only that the template mentions.
-/

namespace MediaCatalog

namespace LabelPart

/-! ## Parts -/

/-- A part of literal text. -/
def isLiteral : LabelPart → Bool
  | literal _ => true
  | field _ => false

/-- A field is a part of its own. -/
theorem scan_field {name rest : List Char} (hname : Text.isIdent name = true)
    (hrest : Text.BeginsOutside Text.isIdentChar rest) : scan ('$' :: (name ++ rest)) = field name :: scan rest := by
  obtain ⟨hne, hrun⟩ := Text.isIdent_iff.mp hname
  have htake : Text.takeIdent (name ++ rest) = (name, rest) := by
    rw [Text.takeIdent, Text.takeWhile_append_of_beginsOutside hrun hrest,
      Text.dropWhile_append_of_beginsOutside hrun hrest]
  rw [scan, htake, if_pos ⟨rfl, hne⟩]

/-- Every other character is literal text. -/
theorem scan_literal {c : Char} {rest : List Char} (h : c = '$' → (Text.takeIdent rest).1 = []) :
    scan (c :: rest) = consLiteral c (scan rest) := by
  rw [scan, if_neg]
  rintro ⟨hc, hne⟩
  exact hne (h hc)

/-- One more character of literal text is one more character in the text of the parts. -/
theorem flatMap_source_consLiteral (c : Char) (parts : List LabelPart) :
    (consLiteral c parts).flatMap source = c :: parts.flatMap source := by
  match parts with
  | [] => rfl
  | literal text :: parts => rfl
  | field name :: parts => rfl

/-- **The parts of a template** make up its text. -/
theorem flatMap_source_scan (s : List Char) : (scan s).flatMap source = s := by
  fun_induction scan s with
  | case1 => rfl
  | case2 c rest h ih =>
    rw [List.flatMap_cons, ih, source, h.1, List.cons_append, Text.takeIdent_append]
  | case3 c rest _ ih => rw [flatMap_source_consLiteral, ih]

/-- One more character is no empty text. -/
theorem literal_nil_not_mem_consLiteral {c : Char} {parts : List LabelPart} (h : literal [] ∉ parts) :
    literal [] ∉ consLiteral c parts := by
  match parts with
  | [] => simp [consLiteral]
  | literal text :: parts =>
    rw [List.mem_cons, not_or] at h
    simp [consLiteral, h.2]
  | field name :: parts =>
    rw [List.mem_cons, not_or] at h
    simp [consLiteral, h.2]

/-- **No literal part is empty.** -/
theorem literal_nil_not_mem_scan (s : List Char) : literal [] ∉ scan s := by
  fun_induction scan s with
  | case1 => exact List.not_mem_nil
  | case2 c rest _ ih => simpa using ih
  | case3 c rest _ ih => exact literal_nil_not_mem_consLiteral ih

/-- Parts of which no two literal ones stand side by side. -/
def Alternate : List LabelPart → Prop := List.IsChain fun part next => ¬(part.isLiteral = true ∧ next.isLiteral = true)

/-- One more character joins the literal text before which it stands. -/
theorem alternate_consLiteral {c : Char} {parts : List LabelPart} (h : Alternate parts) :
    Alternate (consLiteral c parts) := by
  match parts with
  | [] => exact List.isChain_singleton _
  | [literal text] => exact List.isChain_singleton _
  | literal text :: next :: parts =>
    rw [Alternate, List.isChain_cons_cons] at h
    exact List.isChain_cons_cons.mpr h
  | field name :: parts => exact List.isChain_cons_cons.mpr ⟨nofun, h⟩

/-- A field may stand before anything. -/
theorem alternate_field {name : List Char} {parts : List LabelPart} (h : Alternate parts) :
    Alternate (field name :: parts) := by
  cases parts with
  | nil => exact List.isChain_singleton _
  | cons next parts => exact List.isChain_cons_cons.mpr ⟨nofun, h⟩

/-- **No two literal parts are adjacent.** -/
theorem alternate_scan (s : List Char) : Alternate (scan s) := by
  fun_induction scan s with
  | case1 => exact List.isChain_nil
  | case2 c rest _ ih => exact alternate_field ih
  | case3 c rest _ ih => exact alternate_consLiteral ih

/-! ## Rendering -/

variable {lookup : String → Option String}

/-- A template text rendered. -/
def rendered (lookup : String → Option String) (s : List Char) : List Char := (scan s).flatMap (render lookup)

/-- A field gives way to its value. -/
theorem rendered_field {name rest : List Char} (hname : Text.isIdent name = true)
    (hrest : Text.BeginsOutside Text.isIdentChar rest) :
    rendered lookup ('$' :: (name ++ rest)) = ((lookup (String.ofList name)).getD "").toList ++ rendered lookup rest := by
  rw [rendered, scan_field hname hrest]
  rfl

/-- Every other character stays. -/
theorem rendered_literal {c : Char} {rest : List Char} (h : c = '$' → (Text.takeIdent rest).1 = []) :
    rendered lookup (c :: rest) = c :: rendered lookup rest := by
  rw [rendered, scan_literal h, rendered]
  match scan rest with
  | [] => rfl
  | literal text :: parts => rfl
  | field name :: parts => rfl

/-- Fields as marks of a text: a `$` and the identifier behind it, as far as that goes. An absent field has no value. -/
def Mark (lookup : String → Option String) (mark rest value : List Char) : Prop :=
  ∃ name, mark = '$' :: name ∧ Text.isIdent name = true ∧ Text.BeginsOutside Text.isIdentChar rest ∧
    value = ((lookup (String.ofList name)).getD "").toList

/-- **A text rendered** is the text with its fields replaced by their values. -/
theorem replaced_iff_rendered {s out : List Char} : Text.Replaced (Mark lookup) s out ↔ rendered lookup s = out := by
  refine Text.replaced_iff ?_ ?_ ?_ ?_
  · rintro mark rest value ⟨name, rfl, -⟩
    exact List.cons_ne_nil _ _
  · rw [rendered, scan]
    rfl
  · intro c s hnone
    refine rendered_literal ?_
    rintro rfl
    cases hread : Text.identifier? s with
    | none => simpa [Text.identifier?] using hread
    | some found =>
      obtain ⟨rfl, hname, hrest⟩ := Text.identifier?_eq_some_iff.mp hread
      exact absurd ⟨_, rfl, hname, hrest, rfl⟩ (hnone ('$' :: found.1) found.2 _ rfl)
  · rintro mark rest value ⟨name, rfl, hname, hrest, rfl⟩
    exact rendered_field hname hrest

end LabelPart

namespace LabelTemplate

/-- A label is made from the fields that the template mentions. -/
theorem render_congr {t : LabelTemplate} {lookup lookup' : String → Option String}
    (h : ∀ name ∈ t.fieldNames, lookup name = lookup' name) : t.render lookup = t.render lookup' := by
  have hpart : ∀ part ∈ t.parts, part.render lookup = part.render lookup' := by
    intro part hpart
    match part with
    | .literal text => rfl
    | .field name =>
      have hname : String.ofList name ∈ t.fieldNames := List.mem_filterMap.mpr ⟨.field name, hpart, rfl⟩
      rw [LabelPart.render, LabelPart.render, h _ hname]
  rw [render, render, List.flatMap_congr hpart]

/-- **Label templates.** The parts of a template make up its text, and its literal text is neither empty nor divided. The
label of an entry is that text with each `$` and the identifier behind it replaced by the field of that name, from left to
right and in one pass, every other character being kept. Entries that agree on the fields mentioned have the same label. -/
theorem label_eq_iff (t : LabelTemplate) :
    t.parts.flatMap LabelPart.source = t.source.toList ∧ LabelPart.literal [] ∉ t.parts ∧
      (∀ before text text' after, t.parts ≠ before ++ .literal text :: .literal text' :: after) ∧
      (∀ (e : Entry) out, e.label t = out ↔ Text.Replaced (LabelPart.Mark e.get?) t.source.toList out.toList) ∧
      ∀ e e' : Entry, (∀ name ∈ t.fieldNames, e.get? name = e'.get? name) → e.label t = e'.label t := by
  refine ⟨LabelPart.flatMap_source_scan _, LabelPart.literal_nil_not_mem_scan _, ?_, ?_, fun e e' => render_congr⟩
  · intro before text text' after hparts
    have halternate : LabelPart.Alternate t.parts := LabelPart.alternate_scan _
    rw [hparts] at halternate
    exact (List.isChain_cons_cons.mp (List.isChain_append.mp halternate).2.1).1 ⟨rfl, rfl⟩
  · intro e out
    have hlist : (e.label t).toList = LabelPart.rendered e.get? t.source.toList := String.toList_ofList
    rw [LabelPart.replaced_iff_rendered, ← hlist, String.toList_inj]

end LabelTemplate

end MediaCatalog
