import MediaCatalog.Text.Identifier

/-!
# Attributes of schema levels

A schema text is a list of levels with `/` between them, each a list of attributes `key="value"`.
Inside a value `\"` stands for a quote and every other backslash for itself; slashes inside values
separate nothing. All other text around attributes is ignored.

* `levelTexts`: the texts of the levels; nothing is lost (`intercalate_levelTexts`).
* `attributes`: the attributes of a level's text, in order.
-/

namespace MediaCatalog.Schema

/-! ### Levels -/

/-- Pieces of text, the first of which gets one more character in front. -/
def consFirst (c : Char) : List (List Char) → List (List Char)
  | [] => [[c]]
  | piece :: pieces => (c :: piece) :: pieces

/-- A text cut at each `/` outside quotes; `quoted` tells whether it begins inside quotes. -/
def cutLevels : Bool → List Char → List (List Char)
  | _, [] => [[]]
  | true, '\\' :: c :: rest => consFirst '\\' (consFirst c (cutLevels true rest))
  | quoted, '"' :: rest => consFirst '"' (cutLevels (!quoted) rest)
  | false, '/' :: rest => [] :: cutLevels false rest
  | quoted, c :: rest => consFirst c (cutLevels quoted rest)

/-- The texts of the levels in a schema text. -/
def levelTexts (s : List Char) : List (List Char) := cutLevels false s

/-- A text has at least one level. -/
theorem cutLevels_ne_nil (quoted : Bool) (s : List Char) : cutLevels quoted s ≠ [] := by
  have consFirst_ne_nil : ∀ (c : Char) (l : List (List Char)), consFirst c l ≠ [] := by
    intro c l
    cases l <;> simp [consFirst]
  fun_cases cutLevels quoted s <;> simp [consFirst_ne_nil]

/-- A character in front of the first piece is one in front of all of them. -/
theorem intercalate_consFirst (c : Char) {l : List (List Char)} (h : l ≠ []) :
    ['/'].intercalate (consFirst c l) = c :: ['/'].intercalate l := by
  match l, h with
  | [piece], _ => simp [consFirst, List.intercalate]
  | piece :: next :: rest, _ => simp [consFirst, List.intercalate, List.intersperse]

/-- Cutting a text into levels loses nothing but the slashes between them. -/
theorem intercalate_cutLevels (quoted : Bool) (s : List Char) :
    ['/'].intercalate (cutLevels quoted s) = s := by
  have consFirst_ne_nil : ∀ (c : Char) (l : List (List Char)), consFirst c l ≠ [] := by
    intro c l
    cases l <;> simp [consFirst]
  fun_induction cutLevels quoted s with
  | case1 => simp [List.intercalate]
  | case2 c rest ih =>
    rw [intercalate_consFirst _ (consFirst_ne_nil _ _), intercalate_consFirst _ (cutLevels_ne_nil _ _), ih]
  | case3 quoted rest ih => rw [intercalate_consFirst _ (cutLevels_ne_nil _ _), ih]
  | case4 rest ih =>
    obtain ⟨piece, pieces, h⟩ := List.exists_cons_of_ne_nil (cutLevels_ne_nil false rest)
    rw [h] at ih ⊢
    rw [← ih]
    simp [List.intercalate, List.intersperse]
  | case5 quoted c rest _ _ _ ih => rw [intercalate_consFirst _ (cutLevels_ne_nil _ _), ih]

/-- Cutting a schema text into levels loses nothing but the slashes between them. -/
theorem intercalate_levelTexts (s : List Char) : ['/'].intercalate (levelTexts s) = s :=
  intercalate_cutLevels false s

/-! ### Attributes -/

/-- The value that follows an opening quote, and the text after its closing quote. -/
def value? : List Char → Option (List Char × List Char)
  | [] => none
  | '"' :: rest => some ([], rest)
  | '\\' :: '"' :: rest => (value? rest).map fun (v, r) => ('"' :: v, r)
  | c :: rest => (value? rest).map fun (v, r) => (c :: v, r)

/-- A value takes up at least its closing quote. -/
theorem value?_length_lt {s v r : List Char} (h : value? s = some (v, r)) : r.length < s.length := by
  fun_induction value? s generalizing v r with
  | case1 => cases h
  | case2 rest => cases h; simp
  | case3 rest ih =>
    obtain ⟨⟨v', r'⟩, hr, heq⟩ := Option.map_eq_some_iff.mp h
    cases heq
    have := ih hr
    simp only [List.length_cons]
    omega
  | case4 c rest _ _ ih =>
    obtain ⟨⟨v', r'⟩, hr, heq⟩ := Option.map_eq_some_iff.mp h
    cases heq
    have := ih hr
    simp only [List.length_cons]
    omega

/-- The key of an attribute at the start of a text, and the text after the opening quote. -/
def attributeKey? (s : List Char) : Option (List Char × List Char) := do
  let (key, s) ← Text.identifier? s
  let s ← Text.afterChar? '=' s
  let s ← Text.afterChar? '"' s
  return (key, s)

/-- A key comes with an equals sign and an opening quote. -/
theorem attributeKey?_eq_some {s key r : List Char} (h : attributeKey? s = some (key, r)) :
    s = key ++ '=' :: '"' :: r := by
  simp only [attributeKey?, Option.bind_eq_bind, Option.bind_eq_some_iff, Option.pure_def,
    Option.some.injEq, Prod.exists, Prod.mk.injEq] at h
  obtain ⟨k, s₁, h₁, s₂, h₂, s₃, h₃, rfl, rfl⟩ := h
  rw [(Text.identifier?_eq_some h₁).1, Text.afterChar?_eq_some h₂, Text.afterChar?_eq_some h₃]

/-- The attributes in a level's text as keys and values, in order. After a quote that is never
closed there are no more. -/
def attributes : List Char → List (List Char × List Char)
  | [] => []
  | c :: rest =>
    match _hk : attributeKey? (c :: rest) with
    | none => attributes rest
    | some (key, s) =>
      match _hv : value? s with
      | none => []
      | some (value, after) => (key, value) :: attributes after
  termination_by s => s.length
  decreasing_by
    · simp
    · have h := value?_length_lt _hv
      rw [attributeKey?_eq_some _hk]
      simp only [List.length_append, List.length_cons]
      omega

end MediaCatalog.Schema
