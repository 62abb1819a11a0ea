/-!
# Blank characters and separators

Blank characters are those with the Unicode property `White_Space`; a separator is a blank
character or a comma. The condition language, schemas and configuration checks all divide text
with these two classes.

* `isBlank`, `isSeparator`: the classes, with `isBlank_of_isWhitespace` and `isBlank_of_isDigit` for the ASCII part.
* `trimChars`, `trim`: a text without its blank ends.
* `pieces`: the maximal runs between separators, none of them empty (`ne_nil_of_mem_runs`).
-/

namespace MediaCatalog.Text

/-- A character with the Unicode property `White_Space`. -/
def isBlank (c : Char) : Bool :=
  let n := c.toNat
  (9 ≤ n && n ≤ 13) || n == 0x20 || n == 0x85 || n == 0xA0 || n == 0x1680 ||
    (0x2000 ≤ n && n ≤ 0x200A) || n == 0x2028 || n == 0x2029 || n == 0x202F || n == 0x205F ||
    n == 0x3000

/-- A character that may stand between two clauses or two words: blank, or a comma. -/
def isSeparator (c : Char) : Bool := isBlank c || c == ','

/-- A digit is not blank. -/
theorem isBlank_of_isDigit {c : Char} (h : c.isDigit = true) : isBlank c = false := by
  have hcode : 48 ≤ c.toNat ∧ c.toNat ≤ 57 := Char.isDigit_iff_toNat.mp h
  simp only [isBlank, Bool.or_eq_false_iff, Bool.and_eq_false_iff, decide_eq_false_iff_not, beq_eq_false_iff_ne]
  omega

/-- A text without the blank characters at its two ends. -/
def trimChars (s : List Char) : List Char :=
  ((s.dropWhile isBlank).reverse.dropWhile isBlank).reverse

/-- A text that neither begins nor ends with a blank character has no blank ends. -/
theorem trimChars_eq_self {s : List Char} (hfirst : ∀ c ∈ s.head?, isBlank c = false)
    (hlast : ∀ c ∈ s.getLast?, isBlank c = false) : trimChars s = s := by
  have hkeep : ∀ t : List Char, (∀ c ∈ t.head?, isBlank c = false) → t.dropWhile isBlank = t := by
    intro t ht
    cases t with
    | nil => rfl
    | cons c t => exact List.dropWhile_cons_of_neg (by simp [ht c rfl])
  rw [trimChars, hkeep s hfirst, hkeep s.reverse (by simpa using hlast), List.reverse_reverse]

/-- A text without blank characters has no blank ends. -/
theorem trimChars_of_forall {s : List Char} (h : ∀ c ∈ s, isBlank c = false) : trimChars s = s :=
  trimChars_eq_self (fun c hc => h c (List.mem_of_mem_head? hc)) fun c hc => h c (List.mem_of_getLast? hc)

/-- Between its blank ends there is something if a text has a character that is not blank. -/
theorem trimChars_ne_nil {s : List Char} {c : Char} (hc : c ∈ s) (h : isBlank c = false) : trimChars s ≠ [] := by
  have hkeep : ∀ t : List Char, c ∈ t → c ∈ t.dropWhile isBlank := by
    intro t ht
    induction t with
    | nil => cases ht
    | cons d t ih =>
      by_cases hd : isBlank d = true
      · rw [List.dropWhile_cons_of_pos hd]
        rcases List.mem_cons.mp ht with rfl | ht
        · rw [h] at hd
          cases hd
        · exact ih ht
      · rw [List.dropWhile_cons_of_neg hd]
        exact ht
  have hmem : c ∈ trimChars s := by
    rw [trimChars, List.mem_reverse]
    exact hkeep _ (List.mem_reverse.mpr (hkeep s hc))
  exact List.ne_nil_of_mem hmem

/-- A text without the blank characters at its two ends. -/
def trim (s : String) : String := String.ofList (trimChars s.toList)

/-- The maximal runs of characters outside the class `sep`, from left to right. -/
def runs (sep : Char → Bool) (s : List Char) : List (List Char) :=
  (s.splitOnP sep).filter fun run => !run.isEmpty

/-- The words of a text: its maximal runs without separators. -/
def pieces (s : String) : List String := (runs isSeparator s.toList).map String.ofList

/-- No run is empty. -/
theorem ne_nil_of_mem_runs {sep : Char → Bool} {s run : List Char} (h : run ∈ runs sep s) :
    run ≠ [] := by
  have := (List.mem_filter.mp h).2
  simpa using this

/-- The needle occurs somewhere in the text. -/
def occursIn (needle : List Char) : List Char → Bool
  | [] => needle.isEmpty
  | c :: rest => needle.isPrefixOf (c :: rest) || occursIn needle rest

/-- `occursIn` decides whether the needle is a contiguous part of the text. -/
theorem occursIn_iff {needle s : List Char} : occursIn needle s = true ↔ needle <:+: s := by
  induction s with
  | nil => simp [occursIn, List.isEmpty_iff]
  | cons c rest ih =>
    rw [occursIn, Bool.or_eq_true, ih, List.isPrefixOf_iff_prefix, List.infix_cons_iff]

end MediaCatalog.Text
