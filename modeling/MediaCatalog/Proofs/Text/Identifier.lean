import MediaCatalog.Text.Identifier

/-!
# Reading identifiers

Readers of text take identifiers at full length. This file says exactly when a reader finds an
identifier or a given character, so that texts that were put together can be taken apart again.

* `BeginsOutside`: a text at whose start a run of a class of characters ends; `EndsOutside`: the same at its end.
* **Runs** (`takeWhile_append_of_beginsOutside`, `dropWhile_append_of_beginsOutside`).
* **Readers** (`identifier?_eq_some_iff`, `afterChar?_eq_some_iff`).
-/

namespace MediaCatalog.Text

/-! ## Runs of a class -/

/-- A text that does not begin with a character of a class. -/
def BeginsOutside (p : Char → Bool) (s : List Char) : Prop := ∀ c ∈ s.head?, p c = false

variable {p : Char → Bool} {run rest : List Char}

/-- A text is outside a class by its first character. -/
theorem beginsOutside_cons {c : Char} (h : p c = false) : BeginsOutside p (c :: rest) := by
  intro d hd
  cases hd
  exact h

/-- A run is taken at full length. -/
theorem takeWhile_append_of_beginsOutside (hrun : ∀ c ∈ run, p c = true) (hrest : BeginsOutside p rest) :
    (run ++ rest).takeWhile p = run := by
  rw [List.takeWhile_append_of_pos hrun]
  cases rest with
  | nil => simp
  | cons c rest => rw [List.takeWhile_cons_of_neg (by simp [hrest c rfl]), List.append_nil]

/-- What follows a run stays. -/
theorem dropWhile_append_of_beginsOutside (hrun : ∀ c ∈ run, p c = true) (hrest : BeginsOutside p rest) :
    (run ++ rest).dropWhile p = rest := by
  rw [List.dropWhile_append_of_pos hrun]
  cases rest with
  | nil => rfl
  | cons c rest => exact List.dropWhile_cons_of_neg (by simp [hrest c rfl])

/-- A maximal run ends where no character of the class follows. -/
theorem beginsOutside_dropWhile (p : Char → Bool) (s : List Char) : BeginsOutside p (s.dropWhile p) := by
  intro c hc
  have hhead := List.head?_dropWhile_not p s
  rw [Option.mem_def.mp hc] at hhead
  exact hhead

/-- A text that does not end with a character of a class. -/
def EndsOutside (p : Char → Bool) (s : List Char) : Prop := ∀ c ∈ s.getLast?, p c = false

/-- The end of two texts is that of the second, or of the first if the second is empty. -/
theorem EndsOutside.append {s t : List Char} (hs : EndsOutside p s) (ht : EndsOutside p t) : EndsOutside p (s ++ t) := by
  intro c hc
  rw [List.getLast?_append] at hc
  rcases Option.or_eq_some_iff.mp hc with hc | ⟨-, hc⟩
  · exact ht c hc
  · exact hs c hc

/-- A text without characters of a class does not end with one. -/
theorem endsOutside_of_forall {s : List Char} (h : ∀ c ∈ s, p c = false) : EndsOutside p s :=
  fun c hc => h c (List.mem_of_getLast? hc)

/-! ## Readers -/

/-- What makes a text an identifier. -/
theorem isIdent_iff {s : List Char} : isIdent s = true ↔ s ≠ [] ∧ ∀ c ∈ s, isIdentChar c = true := by
  simp [isIdent]

/-- **The reader of identifiers** finds one exactly if the text begins with it and does not continue
it. -/
theorem identifier?_eq_some_iff {s i r : List Char} :
    identifier? s = some (i, r) ↔ s = i ++ r ∧ isIdent i = true ∧ BeginsOutside isIdentChar r := by
  constructor
  · intro h
    obtain ⟨hs, hne⟩ := identifier?_eq_some h
    simp only [identifier?, Option.ite_none_left_eq_some, Option.some.injEq] at h
    obtain ⟨hi, hr⟩ := Prod.mk.inj h.2
    refine ⟨hs, isIdent_iff.mpr ⟨hne, ?_⟩, hr ▸ beginsOutside_dropWhile isIdentChar s⟩
    intro c hc
    rw [← hi] at hc
    exact List.all_eq_true.mp List.all_takeWhile c hc
  · rintro ⟨rfl, hi, hr⟩
    obtain ⟨hne, hrun⟩ := isIdent_iff.mp hi
    rw [identifier?, takeIdent, takeWhile_append_of_beginsOutside hrun hr,
      dropWhile_append_of_beginsOutside hrun hr, if_neg (by simpa using hne)]

/-- A given character is found exactly if the text begins with it. -/
theorem afterChar?_eq_some_iff {c : Char} {s r : List Char} : afterChar? c s = some r ↔ s = c :: r := by
  constructor
  · exact afterChar?_eq_some
  · rintro rfl
    exact if_pos rfl

end MediaCatalog.Text
