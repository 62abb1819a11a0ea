import MediaCatalog.Schema.QueryTemplate
import MediaCatalog.Proofs.Text.Identifier

/-!
# Filling in query templates

A template is filled in from left to right: a reference gives way to its value, and every other
character stays. This file says what becomes of the pieces of which a template is made.

* **References** (`Backref.read?_eq_some_iff`): when a reference is read. It never goes beyond a
  closing parenthesis (`Backref.read?_append_eq_none`). What it refers to (`Backref.value?_append`).
* `QueryPart.fill`: a template text filled in; character by character (`fill_literal`,
  `fill_backref`).
* `QueryPart.IsPlain`: a template text without references; it stays (`fill_append_paren`).
-/

namespace MediaCatalog

/-! ## References -/

namespace Backref

/-- A reference that can be read back from its text. -/
structure WellFormed (r : Backref) : Prop where
  name : Text.isIdent r.name = true
  digits_ne_nil : r.digits ≠ []
  digits : ∀ c ∈ r.digits, c.isDigit = true
  field : Text.isIdent r.field = true

/-- **A reference is read** exactly if the text begins with it, it is well-formed and its field goes
no further. -/
theorem read?_eq_some_iff {s rest : List Char} {r : Backref} :
    read? s = some (r, rest) ↔ s = r.body ++ rest ∧ r.WellFormed ∧ Text.BeginsOutside Text.isIdentChar rest := by
  constructor
  · intro h
    refine ⟨read?_eq_some h, ?_⟩
    simp only [read?, Option.bind_eq_bind, Option.bind_eq_some_iff, Option.pure_def, Prod.exists] at h
    obtain ⟨name, s₁, hname, s₂, -, h⟩ := h
    split at h
    · simp at h
    · next hdigits =>
      simp only [Option.bind_eq_some_iff, Option.some.injEq, Prod.mk.injEq, Prod.exists] at h
      obtain ⟨s₃, -, s₄, -, field, r', hfield, rfl, rfl⟩ := h
      obtain ⟨-, hident, hrest⟩ := Text.identifier?_eq_some_iff.mp hfield
      refine ⟨⟨(Text.identifier?_eq_some_iff.mp hname).2.1, ?_, ?_, hident⟩, hrest⟩
      · simpa using hdigits
      · exact fun c hc => List.all_eq_true.mp List.all_takeWhile c hc
  · rintro ⟨rfl, h, hrest⟩
    have hname : Text.identifier? (r.body ++ rest) =
        some (r.name, '[' :: (r.digits ++ ']' :: '.' :: (r.field ++ rest))) :=
      Text.identifier?_eq_some_iff.mpr ⟨by simp [body], h.name, Text.beginsOutside_cons (by decide)⟩
    have hclose : Text.BeginsOutside Char.isDigit (']' :: '.' :: (r.field ++ rest)) :=
      Text.beginsOutside_cons (by decide)
    have hfield : Text.identifier? (r.field ++ rest) = some (r.field, rest) :=
      Text.identifier?_eq_some_iff.mpr ⟨rfl, h.field, hrest⟩
    have hempty : r.digits.isEmpty = false := by simpa using h.digits_ne_nil
    simp only [read?, hname, Text.afterChar?_eq_some_iff.mpr rfl, Option.bind_eq_bind, Option.bind_some,
      Text.takeWhile_append_of_beginsOutside h.digits hclose,
      Text.dropWhile_append_of_beginsOutside h.digits hclose, hempty, hfield, Option.pure_def]
    rfl

/-- **What a reference refers to**, counted from the end of the chain. -/
theorem value?_append {r : Backref} {older newer : List Entry} {e : Entry} (hname : r.name = chainName)
    (hn : r.index = newer.length + 1) : r.value? (older ++ e :: newer) = e.keyOrField? (String.ofList r.field) := by
  have hlength : (older ++ e :: newer).length = older.length + r.index := by
    rw [hn, List.length_append, List.length_cons]
  have hlast : (older ++ e :: newer)[(older ++ e :: newer).length - r.index]? = some e := by
    rw [hlength, Nat.add_sub_cancel]
    simp
  rw [value?, if_pos ⟨hname, by omega, by omega⟩, hlast]
  rfl

/-- A reference holds no closing parenthesis. -/
theorem not_mem_body {r : Backref} (h : r.WellFormed) : ')' ∉ r.body := by
  have hname : ')' ∉ r.name := fun hmem => absurd ((Text.isIdent_iff.mp h.name).2 _ hmem) (by decide)
  have hdigits : ')' ∉ r.digits := fun hmem => absurd (h.digits _ hmem) (by decide)
  have hfield : ')' ∉ r.field := fun hmem => absurd ((Text.isIdent_iff.mp h.field).2 _ hmem) (by decide)
  simp [body, hname, hdigits, hfield]

/-- **A reference ends before a closing parenthesis**: what follows that has no part in it. -/
theorem read?_append_eq_none {s : List Char} (hs : ')' ∈ s) (h : read? s = none) (rest : List Char) :
    read? (s ++ rest) = none := by
  rw [Option.eq_none_iff_forall_ne_some]
  rintro ⟨r, after⟩ hread
  obtain ⟨happend, hr, hafter⟩ := read?_eq_some_iff.mp hread
  rcases List.append_eq_append_iff.mp happend with ⟨x, hbody, -⟩ | ⟨x, rfl, hx⟩
  · -- the reference would hold the parenthesis
    refine not_mem_body hr ?_
    rw [hbody]
    exact List.mem_append_left _ hs
  · -- the reference would be read without the rest
    have hmem : ')' ∈ x := (List.mem_append.mp hs).resolve_left (not_mem_body hr)
    obtain ⟨d, x', rfl⟩ := List.exists_cons_of_ne_nil (List.ne_nil_of_mem hmem)
    subst hx
    have hread' : read? (r.body ++ d :: x') = some (r, d :: x') :=
      read?_eq_some_iff.mpr ⟨rfl, hr, Text.beginsOutside_cons (hafter d rfl)⟩
    rw [h] at hread'
    cases hread'

end Backref

/-! ## Filling in -/

namespace QueryPart

variable {chain : List Entry}

/-- A reference is a part of its own. -/
theorem scan_backref {rest after : List Char} {r : Backref} (h : Backref.read? rest = some (r, after)) :
    scan ('$' :: rest) = backref r :: scan after := by
  rw [scan]
  split
  next r' after' h' =>
    rw [if_pos rfl, h] at h'
    cases h'
    rfl
  next h' =>
    rw [if_pos rfl, h] at h'
    cases h'

/-- Every other character is literal text. -/
theorem scan_literal {c : Char} {rest : List Char} (h : c = '$' → Backref.read? rest = none) :
    scan (c :: rest) = consLiteral c (scan rest) := by
  rw [scan]
  split
  next r' after' h' =>
    split at h'
    next hc =>
      rw [h hc] at h'
      cases h'
    next => cases h'
  next => rfl

/-- A template text filled in. -/
def fill (chain : List Entry) (s : List Char) : List Char := (scan s).flatMap (substitute chain)

/-- A reference gives way to its value. -/
theorem fill_backref {rest after : List Char} {r : Backref} (h : Backref.read? rest = some (r, after)) :
    fill chain ('$' :: rest) = ((r.value? chain).getD "").toList ++ fill chain after := by
  rw [fill, scan_backref h]
  rfl

/-- Every other character stays. -/
theorem fill_literal {c : Char} {rest : List Char} (h : c = '$' → Backref.read? rest = none) :
    fill chain (c :: rest) = c :: fill chain rest := by
  rw [fill, scan_literal h, fill]
  match scan rest with
  | [] => rfl
  | literal text :: parts => rfl
  | backref r :: parts => rfl

/-- A text without a dollar sign stays. -/
theorem fill_append {s : List Char} (h : '$' ∉ s) (rest : List Char) :
    fill chain (s ++ rest) = s ++ fill chain rest := by
  induction s with
  | nil => rfl
  | cons c s ih =>
    obtain ⟨hc, hs⟩ := List.ne_and_not_mem_of_not_mem_cons h
    rw [List.cons_append, fill_literal fun heq => absurd heq.symm hc, ih hs]
    rfl

/-- A template text without references. -/
def IsPlain (s : List Char) : Prop := ∀ r, backref r ∉ scan s

/-- More literal text adds no reference. -/
theorem mem_consLiteral_iff {c : Char} {parts : List QueryPart} {r : Backref} :
    backref r ∈ consLiteral c parts ↔ backref r ∈ parts := by
  match parts with
  | [] => simp [consLiteral]
  | literal text :: parts => simp [consLiteral]
  | backref r' :: parts => simp [consLiteral]

/-- A text has no references if none begins at its first character and its rest has none. -/
theorem isPlain_cons_iff {c : Char} {s : List Char} :
    IsPlain (c :: s) ↔ (c = '$' → Backref.read? s = none) ∧ IsPlain s := by
  by_cases h : c = '$' → Backref.read? s = none
  · rw [and_iff_right h, IsPlain, scan_literal h]
    simp only [mem_consLiteral_iff]
    rfl
  · obtain ⟨rfl, hread⟩ := Classical.not_imp.mp h
    obtain ⟨⟨r, after⟩, hread⟩ := Option.ne_none_iff_exists'.mp hread
    rw [IsPlain, scan_backref hread]
    constructor
    · intro hplain
      exact absurd List.mem_cons_self (hplain r)
    · rintro ⟨hnone, -⟩
      exact absurd hnone h

/-- A text without a dollar sign has no references. -/
theorem isPlain_of_not_mem {s : List Char} (h : '$' ∉ s) : IsPlain s := by
  induction s with
  | nil =>
    intro r
    rw [scan]
    exact List.not_mem_nil
  | cons c s ih =>
    obtain ⟨hc, hs⟩ := List.ne_and_not_mem_of_not_mem_cons h
    exact isPlain_cons_iff.mpr ⟨fun heq => absurd heq.symm hc, ih hs⟩

/-- **A text without references stays** if it ends in a closing parenthesis. -/
theorem fill_append_paren {s : List Char} (h : IsPlain (s ++ [')'])) (rest : List Char) :
    fill chain (s ++ ')' :: rest) = s ++ ')' :: fill chain rest := by
  induction s with
  | nil => exact fill_literal fun heq => absurd heq (by decide)
  | cons c s ih =>
    rw [List.cons_append] at h
    obtain ⟨hc, hs⟩ := isPlain_cons_iff.mp h
    have hliteral : c = '$' → Backref.read? (s ++ ')' :: rest) = none := by
      intro heq
      have happend := Backref.read?_append_eq_none (by simp) (hc heq) rest
      rwa [List.append_assoc] at happend
    rw [List.cons_append, fill_literal hliteral, ih hs]
    rfl

end QueryPart

end MediaCatalog
