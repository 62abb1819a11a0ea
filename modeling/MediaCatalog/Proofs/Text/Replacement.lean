/-!
# Replacing marks in a text

Templates are texts with marks that stand for something else. This file says what it means that the marks of a text
are replaced in one pass, from left to right.

* `Replaced`: a text with its marks replaced by what they stand for.
* **Replacement as a function** (`replaced_iff`): what replaces a mark where one begins and keeps every other character
  gives the text with its marks replaced, and nothing else does.
-/

namespace MediaCatalog.Text

/-- A text with its marks replaced, read from left to right. `Mark mark rest value` says that `mark` is a mark if `rest`
follows, and stands for `value`. Where no mark begins the character stays; behind a mark the reading goes on with what
follows it in the text, so a value is not read, and no part of a mark belongs to another one. -/
inductive Replaced (Mark : List Char → List Char → List Char → Prop) : List Char → List Char → Prop
  | nil : Replaced Mark [] []
  | keep {c : Char} {s out : List Char} (h : ∀ mark rest value, c :: s = mark ++ rest → ¬Mark mark rest value)
      (hs : Replaced Mark s out) : Replaced Mark (c :: s) (c :: out)
  | replace {mark rest value out : List Char} (h : Mark mark rest value) (hrest : Replaced Mark rest out) :
      Replaced Mark (mark ++ rest) (value ++ out)

/-- **Replacement as a function.** What keeps a character at which no mark begins, and replaces a mark, is the text with
its marks replaced. -/
theorem replaced_iff {Mark : List Char → List Char → List Char → Prop} {f : List Char → List Char}
    (hmark : ∀ {mark rest value}, Mark mark rest value → mark ≠ []) (hnil : f [] = [])
    (hkeep : ∀ c s, (∀ mark rest value, c :: s = mark ++ rest → ¬Mark mark rest value) → f (c :: s) = c :: f s)
    (hreplace : ∀ mark rest value, Mark mark rest value → f (mark ++ rest) = value ++ f rest) {s out : List Char} :
    Replaced Mark s out ↔ f s = out := by
  constructor
  · intro h
    induction h with
    | nil => exact hnil
    | keep h _ ih => rw [hkeep _ _ h, ih]
    | replace h _ ih => rw [hreplace _ _ _ h, ih]
  · rintro rfl
    induction hlength : s.length using Nat.strongRecOn generalizing s with
    | ind n ih =>
      cases s with
      | nil =>
        rw [hnil]
        exact .nil
      | cons c s =>
        by_cases hbegins : ∃ mark rest value, c :: s = mark ++ rest ∧ Mark mark rest value
        · obtain ⟨mark, rest, value, hsplit, h⟩ := hbegins
          rw [hsplit, hreplace _ _ _ h]
          have hpos := List.length_pos_iff.mpr (hmark h)
          rw [hsplit, List.length_append] at hlength
          exact .replace h (ih rest.length (by omega) rfl)
        · have hnone : ∀ mark rest value, c :: s = mark ++ rest → ¬Mark mark rest value :=
            fun mark rest value hsplit h => hbegins ⟨mark, rest, value, hsplit, h⟩
          rw [hkeep c s hnone]
          rw [List.length_cons] at hlength
          exact .keep hnone (ih s.length (by omega) rfl)

end MediaCatalog.Text
