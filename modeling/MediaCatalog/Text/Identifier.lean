/-!
# Identifiers

An identifier is a non-empty run of ASCII letters, digits and underscores. Field names in
templates, clauses and schema attributes are all identifiers.

* `isIdentChar`: the class.
* `takeIdent`: the maximal run at the start of a text and the rest (`takeIdent_append`).
* `identLength`: the length of that run.
-/

namespace MediaCatalog.Text

/-- An ASCII letter, an ASCII digit or an underscore. -/
def isIdentChar (c : Char) : Bool := c.isAlphanum || c == '_'

/-- The maximal run of identifier characters at the start of a text, and what follows it. -/
def takeIdent (s : List Char) : List Char × List Char :=
  (s.takeWhile isIdentChar, s.dropWhile isIdentChar)

/-- Taking an identifier loses no text. -/
theorem takeIdent_append (s : List Char) : (takeIdent s).1 ++ (takeIdent s).2 = s :=
  List.takeWhile_append_dropWhile

/-- The rest after an identifier is no longer than the text. -/
theorem takeIdent_length_le (s : List Char) : (takeIdent s).2.length ≤ s.length := by
  have := congrArg List.length (takeIdent_append s)
  simp only [List.length_append] at this
  omega

/-- The identifier at the start of a text, if there is one, and what follows it. -/
def identifier? (s : List Char) : Option (List Char × List Char) :=
  if (takeIdent s).1.isEmpty then none else some (takeIdent s)

/-- A given character at the start of a text: what follows it. -/
def afterChar? (c : Char) : List Char → Option (List Char)
  | [] => none
  | d :: rest => if d = c then some rest else none

/-- An identifier is not empty, and the text behind it is what is left. -/
theorem identifier?_eq_some {s i r : List Char} (h : identifier? s = some (i, r)) :
    s = i ++ r ∧ i ≠ [] := by
  simp only [identifier?, Option.ite_none_left_eq_some, Option.some.injEq] at h
  obtain ⟨hne, heq⟩ := h
  rw [heq] at hne
  exact ⟨by rw [← takeIdent_append s, heq], by simpa using hne⟩

/-- What follows a character is all of the text but that character. -/
theorem afterChar?_eq_some {c : Char} {s r : List Char} (h : afterChar? c s = some r) :
    s = c :: r := by
  cases s with
  | nil => cases h
  | cons d rest =>
    simp only [afterChar?, Option.ite_none_right_eq_some, Option.some.injEq] at h
    rw [h.1, h.2]

/-- The length of the identifier at the start of a text; zero if there is none. Identifier
characters are ASCII, so this counts characters and bytes alike. -/
def identLength (s : String) : Nat := (takeIdent s.toList).1.length

/-- A text that is one whole identifier. -/
def isIdent (s : List Char) : Bool := !s.isEmpty && s.all isIdentChar

end MediaCatalog.Text
