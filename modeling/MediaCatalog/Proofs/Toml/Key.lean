import Mathlib.Tactic.SplitIfs
import MediaCatalog.Proofs.Toml.Quoted
import MediaCatalog.Toml.Statement

/-!
# Keys and gaps are read back

* `readSpaces_apply`, `readGap_of_repeats`, `readLineEnd_newline`: what stands between the parts of a document.
* **Main result** (`readKey_writeKey`): a key is read back, with the blanks after it.
-/

namespace MediaCatalog.Toml

open Text

variable {s t left rest : List Char}

/-! ## Gaps -/

/-- Blanks are dropped, however many there are. -/
@[simp] theorem readSpaces_apply (s : List Char) : readSpaces s = some ((), s.dropWhile isSpace) := rfl

/-- A character that may stand between the items of a list. -/
def isGap (c : Char) : Bool := isSpace c || c == '\n' || c == '\r' || c == '#'

/-- A blank within a line is a gap. -/
theorem beginsOutside_isSpace (h : BeginsOutside isGap s) : BeginsOutside isSpace s := by
  intro c hc
  have hc := h c hc
  simp only [isGap, Bool.or_eq_false_iff] at hc
  exact hc.1.1.1

/-- Nothing is dropped where no blank stands. -/
theorem dropWhile_isSpace (h : BeginsOutside isGap s) : s.dropWhile isSpace = s := by
  cases s with
  | nil => rfl
  | cons c s => exact List.dropWhile_cons_of_neg (by simp [beginsOutside_isSpace h c rfl])

/-- One part of what stands between the items of a list. -/
def readGapPart : Reader Unit := discard (Reader.takeSome isSpace) <|> readLineBreak <|> readComment

/-- A gap is any number of parts. -/
theorem readGap_eq : readGap = discard (Reader.repeated readGapPart) := rfl

/-- No part of a gap begins with another character. -/
theorem readGapPart_eq_none (h : BeginsOutside isGap s) : readGapPart s = none := by
  have hspace := beginsOutside_isSpace h
  have hbreak : readLineBreak s = none := by
    cases s with
    | nil => rfl
    | cons c s =>
      have hc := h c rfl
      simp only [isGap, Bool.or_eq_false_iff, beq_eq_false_iff_ne] at hc
      rw [readLineBreak, lineBreak?]
      · rfl
      · exact fun _ heq => hc.1.1.2 (List.cons.inj heq).1
      · exact fun _ heq => hc.1.2 (List.cons.inj heq).1
  have hcomment : readComment s = none := by
    have hmark : Reader.exactly "#" s = none := by
      cases hs : Reader.exactly "#" s with
      | none => rfl
      | some found =>
        have heq := Reader.exactly_eq_some_iff.mp hs
        have hc := h '#' (heq ▸ rfl)
        exact absurd hc (by decide)
    rw [readComment, Reader.bind_apply, hmark]
    rfl
  rw [readGapPart, Reader.orElse_apply, Reader.orElse_apply, Reader.discard_apply, Reader.takeSome_eq_none hspace, hbreak,
    hcomment]
  rfl

/-- **A gap is read** up to where something else begins. -/
theorem readGap_of_repeats {parts : List Unit} (h : Reader.Repeats readGapPart s parts t) (ht : BeginsOutside isGap t)
    (hlength : parts.length ≤ s.length) : readGap s = some ((), t) := by
  rw [readGap_eq, Reader.discard_apply, Reader.repeated_of_repeats h (readGapPart_eq_none ht) hlength]
  rfl

/-- An empty gap is read. -/
theorem readGap_nil (h : BeginsOutside isGap s) : readGap s = some ((), s) :=
  readGap_of_repeats (.nil s) h (Nat.zero_le _)

/-- A line break is read as a gap. -/
theorem readGap_line (h : BeginsOutside isGap s) : readGap ('\n' :: s) = some ((), s) :=
  readGap_of_repeats (.cons rfl (.nil s)) h (by simp)

/-- A line break and the blanks before an item are read as a gap. -/
theorem readGap_indented (h : BeginsOutside isGap s) : readGap ("\n    ".toList ++ s) = some ((), s) := by
  have hspace := beginsOutside_isSpace h
  have hindent : ∀ c ∈ "    ".toList, isSpace c = true := List.all_eq_true.mp rfl
  have hblanks : readGapPart ("    ".toList ++ s) = some ((), s) := by
    rw [readGapPart, Reader.orElse_apply, Reader.discard_apply, Reader.takeSome_append (by decide) hindent hspace]
    rfl
  exact readGap_of_repeats (.cons (t := "    ".toList ++ s) rfl (.cons hblanks (.nil s))) h (by simp)

/-- **The end of a line** is read. -/
theorem readLineEnd_newline (s : List Char) : readLineEnd ('\n' :: s) = some ((), s) := rfl

/-! ## Keys -/

/-- The first character of the written form of a name. -/
theorem head_writeName (name : String) : ∃ c after, (writeName name).toList = c :: after ∧
    (isBare c = true ∨ isQuote c = true) := by
  dsimp only [writeName]
  split
  · next h =>
    simp only [Bool.and_eq_true, Bool.not_eq_true', List.isEmpty_eq_false_iff, List.all_eq_true] at h
    obtain ⟨c, after, htext⟩ := List.exists_cons_of_ne_nil h.1
    exact ⟨c, after, htext, .inl (h.2 c (htext ▸ List.mem_cons_self))⟩
  · split
    · exact ⟨'\'', _, by rw [String.toList_append, String.toList_append, List.append_assoc]; rfl, .inr rfl⟩
    · exact ⟨'"', _, by rw [String.toList_append, String.toList_append, List.append_assoc]; rfl, .inr rfl⟩

/-- A name is written without gaps before it. -/
theorem beginsOutside_writeName (name : String) (rest : List Char) :
    BeginsOutside isGap ((writeName name).toList ++ rest) := by
  obtain ⟨c, after, htext, hc⟩ := head_writeName name
  rw [htext]
  refine beginsOutside_cons ?_
  by_contra hgap
  simp only [isGap, isSpace, Bool.not_eq_false, Bool.or_eq_true, beq_iff_eq] at hgap
  rcases hgap with (((rfl | rfl) | rfl) | rfl) | rfl
  all_goals exact absurd hc (by decide)

/-- A name with the blanks around it. -/
def readSpacedName : Reader String := do
  readSpaces
  let n ← readName
  readSpaces
  return n

/-- A name is read with the blanks around it. -/
theorem readSpacedName_writeName {name : String} (hs : s.dropWhile isSpace = (writeName name).toList ++ rest)
    (hrest : BeginsOutside isBare rest) : readSpacedName s = some (name, rest.dropWhile isSpace) := by
  simp only [readSpacedName, Reader.bind_apply, readSpaces_apply, Option.bind_some, hs, readName_writeName name hrest,
    Reader.pure_apply]

/-- A text that ends a key: neither the last name goes on, nor another one follows. -/
structure EndsKey (rest : List Char) : Prop where
  outside : BeginsOutside isBare rest
  point : BeginsOutside (· == '.') (rest.dropWhile isSpace)

/-- The further names of a key with the points before them. -/
def furtherNames (path : Path) : List Char := path.flatMap fun name => '.' :: (writeName name).toList

/-- A written key is its first name and the further ones. -/
theorem toList_writeKey (name : String) (path : Path) :
    (writeKey (name :: path)).toList = (writeName name).toList ++ furtherNames path := by
  rw [writeKey, String.toList_intercalate]
  induction path generalizing name with
  | nil => simp [furtherNames]
  | cons next path ih =>
    have hcons := ih next
    simp only [List.map_cons, furtherNames, List.flatMap_cons] at hcons ⊢
    rw [List.intercalate_cons_cons, hcons]
    simp

/-- Behind a name a key goes on with a point or ends. -/
theorem outside_furtherNames (hrest : EndsKey rest) (path : Path) : BeginsOutside isBare (furtherNames path ++ rest) := by
  cases path with
  | nil => exact hrest.outside
  | cons name path => exact beginsOutside_cons (by decide)

/-- Further names are read one after the other. -/
theorem repeats_furtherNames (hrest : EndsKey rest) (path : Path) :
    Reader.Repeats (do Reader.exactly "."; readSpacedName) ((furtherNames path ++ rest).dropWhile isSpace) path
      (rest.dropWhile isSpace) := by
  induction path with
  | nil => exact .nil _
  | cons name path ih =>
    have hpoint : (furtherNames (name :: path) ++ rest).dropWhile isSpace =
        ".".toList ++ ((writeName name).toList ++ (furtherNames path ++ rest)) := by
      rw [furtherNames, List.flatMap_cons, List.append_assoc, List.cons_append]
      exact List.dropWhile_cons_of_neg (by decide)
    rw [hpoint]
    refine .cons ?_ ih
    rw [Reader.bind_apply, Reader.exactly_append, Option.bind_some]
    exact readSpacedName_writeName (dropWhile_isSpace (beginsOutside_writeName name _)) (outside_furtherNames hrest path)

/-- Each further name takes some of the text. -/
theorem length_le_furtherNames (path : Path) (rest : List Char) :
    path.length ≤ ((furtherNames path ++ rest).dropWhile isSpace).length := by
  have hlength : path.length ≤ (furtherNames path).length := by
    induction path with
    | nil => exact Nat.le_refl 0
    | cons name path ih =>
      rw [furtherNames, List.flatMap_cons, List.length_append, List.length_cons, List.length_cons]
      rw [furtherNames] at ih
      omega
  cases path with
  | nil => exact Nat.zero_le _
  | cons name path =>
    have hhead : (furtherNames (name :: path) ++ rest).dropWhile isSpace = furtherNames (name :: path) ++ rest :=
      List.dropWhile_cons_of_neg (by decide)
    rw [hhead, List.length_append]
    omega

/-- **A key is read back**, with the blanks before and after it, or it is too long. -/
theorem readKey_writeKey {path path' : Path} (hne : path ≠ []) (hs : s.dropWhile isSpace = (writeKey path).toList ++ rest)
    (hrest : EndsKey rest) (h : readKey s = some (path', left)) : path' = path ∧ left = rest.dropWhile isSpace := by
  obtain ⟨name, path, rfl⟩ := List.exists_cons_of_ne_nil hne
  have hend : (do Reader.exactly "."; readSpacedName : Reader String) (rest.dropWhile isSpace) = none := by
    have hmark : Reader.exactly "." (rest.dropWhile isSpace) = none := by
      cases hs : Reader.exactly "." (rest.dropWhile isSpace) with
      | none => rfl
      | some found =>
        have hc := hrest.point '.' (Reader.exactly_eq_some_iff.mp hs ▸ rfl)
        exact absurd hc (by decide)
    rw [Reader.bind_apply, hmark]
    rfl
  have hfirst : readSpacedName s = some (name, (furtherNames path ++ rest).dropWhile isSpace) := by
    rw [toList_writeKey, List.append_assoc] at hs
    exact readSpacedName_writeName hs (outside_furtherNames hrest path)
  have hread : Reader.separated readSpacedName (Reader.exactly ".") s = some (name :: path, rest.dropWhile isSpace) := by
    exact Reader.separated_of_repeats hfirst (repeats_furtherNames hrest path) hend (length_le_furtherNames path rest)
  obtain ⟨names, t, hnames, h⟩ := Reader.bind_eq_some_iff.mp h
  obtain ⟨rfl, rfl⟩ := Prod.mk.inj (Option.some.inj (hread.symm.trans hnames))
  split_ifs at h
  · cases h
  · cases h
    exact ⟨rfl, rfl⟩

end MediaCatalog.Toml
