import MediaCatalog.Proofs.Toml.Written

/-!
# Statements are read back

* `statementBack`: what a statement becomes when it is written and read.
* `readStatement_back`: it is read, and nothing of what follows.
* **Main result** (`readStatements?_writeStatements`): a document of statements is read back, if it is read at all.
-/

namespace MediaCatalog.Toml

open Text

variable {s left rest : List Char} {path : Path} {v : Value}

/-! ## Statements -/

/-- What a statement becomes when it is written and read. -/
def statementBack : Statement → Statement
  | .entry path v => .entry path (valueBack v)
  | s => s

/-- A statement names something, and its value is well formed. -/
structure Statement.Valid (s : Statement) : Prop where
  named : match s with
    | .entry path _ => path ≠ []
    | .table path => path ≠ []
    | .element path => path ≠ []
  wellFormed : s.WellFormed

/-- The first character of a written key. -/
theorem head_writeKey (hpath : path ≠ []) : ∃ c after, (writeKey path).toList = c :: after ∧
    (isBare c = true ∨ isQuote c = true) := by
  obtain ⟨name, path, rfl⟩ := List.exists_cons_of_ne_nil hpath
  obtain ⟨c, after, htext, hc⟩ := head_writeName name
  exact ⟨c, after ++ furtherNames path, by rw [toList_writeKey, htext, List.cons_append], hc⟩

/-- A written key does not begin with a gap. -/
theorem dropWhile_writeKey (hpath : path ≠ []) (rest : List Char) :
    ((writeKey path).toList ++ rest).dropWhile isSpace = (writeKey path).toList ++ rest := by
  obtain ⟨name, path, rfl⟩ := List.exists_cons_of_ne_nil hpath
  rw [toList_writeKey, List.append_assoc]
  exact dropWhile_isSpace (beginsOutside_writeName name _)

/-- A character that a key begins with begins an entry. -/
theorem readStatement_entry {c : Char} (hc : isBare c = true ∨ isQuote c = true) (s : List Char) :
    readStatement (c :: s) = (do
      let (path, v) ← readPair (readValue (maxDepth - 1))
      readLineEnd
      return some (.entry path v) : Reader (Option Statement)) (c :: s) := by
  have hother {d : Char} (hd : (isBare d || isQuote d) = false) : c ≠ d := by
    rintro rfl
    rw [Bool.or_eq_false_iff] at hd
    simp [hd] at hc
  have hdrop : (c :: s).dropWhile isSpace = c :: s := by
    refine List.dropWhile_cons_of_neg ?_
    simp only [isSpace, Bool.or_eq_true, beq_iff_eq, not_or]
    exact ⟨hother (by decide), hother (by decide)⟩
  simp only [readStatement, Reader.bind_apply, readSpaces_apply, hdrop, Option.bind_some, Reader.get_apply]
  generalize htext : c :: s = text
  split
  · cases htext
  · exact absurd (List.cons.inj htext).1 (hother (by decide))
  · exact absurd (List.cons.inj htext).1 (hother (by decide))
  · exact absurd (List.cons.inj htext).1 (hother (by decide))
  · exact absurd (List.cons.inj htext).1 (hother (by decide))
  · exact absurd (List.cons.inj htext).1 (hother (by decide))
  · rfl

/-- A bracket begins the header of a table, unless another one follows. -/
theorem readStatement_table {c : Char} (hc : c ≠ '[') (s : List Char) :
    readStatement ('[' :: c :: s) = (do
      let path ← readKey
      Reader.exactly "]"
      readLineEnd
      return some (.table path) : Reader (Option Statement)) (c :: s) := by
  have htable : readStatement ('[' :: c :: s) = (do
      Reader.exactly "["
      let path ← readKey
      Reader.exactly "]"
      readLineEnd
      return some (.table path) : Reader (Option Statement)) ("[".toList ++ c :: s) := by
    have hdrop : ('[' :: c :: s).dropWhile isSpace = '[' :: c :: s := rfl
    simp only [readStatement, Reader.bind_apply, readSpaces_apply, hdrop, Option.bind_some, Reader.get_apply]
    generalize htext : '[' :: c :: s = text
    split
    · cases htext
    · cases htext
    · cases htext
    · cases htext
    · exact absurd (List.cons.inj (List.cons.inj htext).2).1 hc
    · rw [← htext]
      rfl
    · next hnot => exact absurd htext.symm (hnot _)
  rw [htable, Reader.exactly_bind]

/-- Two brackets begin the header of an element. -/
theorem readStatement_element (s : List Char) :
    readStatement ('[' :: '[' :: s) = (do
      let path ← readKey
      Reader.exactly "]]"
      readLineEnd
      return some (.element path) : Reader (Option Statement)) s := by
  have helement : readStatement ('[' :: '[' :: s) = (do
      Reader.exactly "[["
      let path ← readKey
      Reader.exactly "]]"
      readLineEnd
      return some (.element path) : Reader (Option Statement)) ("[[".toList ++ s) := by
    have hdrop : ('[' :: '[' :: s).dropWhile isSpace = '[' :: '[' :: s := rfl
    simp only [readStatement, Reader.bind_apply, readSpaces_apply, hdrop, Option.bind_some, Reader.get_apply]
    rfl
  rw [helement, Reader.exactly_bind]

/-- A key ends where the bracket of its header stands. -/
theorem endsKey_bracket (s : List Char) : EndsKey (']' :: s) :=
  ⟨beginsOutside_cons (by decide), beginsOutside_cons (by decide)⟩

/-- An entry is read back, with the end of its line. -/
theorem readStatement_back_entry {found : Option Statement} (hpath : path ≠ []) (hv : v.WellFormed)
    (h : readStatement ((writeStatement (.entry path v)).toList ++ rest) = some (found, left)) :
    found = some (.entry path (valueBack v)) ∧ left = rest := by
  have htext : (writeStatement (.entry path v)).toList ++ rest =
      (writeKey path).toList ++ (" = ".toList ++ ((writeValue v).toList ++ '\n' :: rest)) := by
    simp [writeStatement]
  obtain ⟨c, after, hhead, hc⟩ := head_writeKey hpath
  have hdrop := dropWhile_writeKey hpath (" = ".toList ++ ((writeValue v).toList ++ '\n' :: rest))
  rw [htext, hhead, List.cons_append, readStatement_entry hc, ← List.cons_append, ← hhead] at h
  obtain ⟨pair, t, hpair, h⟩ := Reader.bind_eq_some_iff.mp h
  obtain ⟨rfl, rfl⟩ := readPair_back (readsBack_readValue _) hpath hv hdrop (ends_cons rfl (by decide) rest) hpair
  simp only [Reader.bind_eq_some_iff, Reader.pure_apply] at h
  obtain ⟨_, _, hline, h⟩ := h
  have hend : readLineEnd (('\n' :: rest).dropWhile isSpace) = some ((), rest) := readLineEnd_newline rest
  cases hend.symm.trans hline
  cases h
  exact ⟨rfl, rfl⟩

/-- The header of a table is read back, with the end of its line. -/
theorem readStatement_back_table {found : Option Statement} (hpath : path ≠ [])
    (h : readStatement ((writeStatement (.table path)).toList ++ rest) = some (found, left)) :
    found = some (.table path) ∧ left = rest := by
  have htext : (writeStatement (.table path)).toList ++ rest = '[' :: ((writeKey path).toList ++ ']' :: '\n' :: rest) := by
    simp [writeStatement]
  obtain ⟨c, after, hhead, hc⟩ := head_writeKey hpath
  have hbracket : c ≠ '[' := by
    rintro rfl
    exact absurd hc (by decide)
  have hdrop := dropWhile_writeKey hpath (']' :: '\n' :: rest)
  rw [htext, hhead, List.cons_append, readStatement_table hbracket, ← List.cons_append, ← hhead] at h
  simp only [Reader.bind_eq_some_iff, Reader.exactly_eq_some_iff, Reader.pure_apply] at h
  obtain ⟨path', t, hkey, _, t', hmark, _, _, hline, h⟩ := h
  obtain ⟨rfl, rfl⟩ := readKey_writeKey hpath hdrop (endsKey_bracket _) hkey
  obtain rfl : '\n' :: rest = t' := (List.cons.inj hmark).2
  cases (readLineEnd_newline rest).symm.trans hline
  cases h
  exact ⟨rfl, rfl⟩

/-- The header of an element is read back, with the end of its line. -/
theorem readStatement_back_element {found : Option Statement} (hpath : path ≠ [])
    (h : readStatement ((writeStatement (.element path)).toList ++ rest) = some (found, left)) :
    found = some (.element path) ∧ left = rest := by
  have htext : (writeStatement (.element path)).toList ++ rest =
      '[' :: '[' :: ((writeKey path).toList ++ ']' :: ']' :: '\n' :: rest) := by
    simp [writeStatement]
  have hdrop := dropWhile_writeKey hpath (']' :: ']' :: '\n' :: rest)
  rw [htext, readStatement_element] at h
  simp only [Reader.bind_eq_some_iff, Reader.exactly_eq_some_iff, Reader.pure_apply] at h
  obtain ⟨path', t, hkey, _, t', hmark, _, _, hline, h⟩ := h
  obtain ⟨rfl, rfl⟩ := readKey_writeKey hpath hdrop (endsKey_bracket _) hkey
  obtain rfl : '\n' :: rest = t' := (List.cons.inj (List.cons.inj hmark).2).2
  cases (readLineEnd_newline rest).symm.trans hline
  cases h
  exact ⟨rfl, rfl⟩

/-- **A statement is read back**, with the end of its line. -/
theorem readStatement_back {statement : Statement} {found : Option Statement} (hvalid : statement.Valid)
    (h : readStatement ((writeStatement statement).toList ++ rest) = some (found, left)) :
    found = some (statementBack statement) ∧ left = rest := by
  cases statement with
  | entry path v => exact readStatement_back_entry hvalid.named hvalid.wellFormed h
  | table path => exact readStatement_back_table hvalid.named h
  | element path => exact readStatement_back_element hvalid.named h

/-! ## Documents -/

/-- A line of a document: a statement, or an empty line. -/
def lineText : Option Statement → List Char
  | none => ['\n']
  | some s => (writeStatement s).toList

/-- A statement with the empty line before it, if it has one. -/
def spacedLines (s : Statement) : List (Option Statement) := if s.isHeader then [none, some s] else [some s]

/-- The lines of a document: an empty line precedes each header but a first one. -/
def documentLines : List Statement → List (Option Statement)
  | [] => []
  | first :: rest => some first :: rest.flatMap spacedLines

/-- A statement is written with the empty line before it. -/
theorem toList_spacedLines (s : Statement) :
    ((if s.isHeader then "\n" else "") ++ writeStatement s).toList = (spacedLines s).flatMap lineText := by
  rw [String.toList_append, spacedLines]
  split <;> simp [lineText]

/-- A document is written line by line. -/
theorem toList_writeStatements (statements : List Statement) :
    (writeStatements statements).toList = (documentLines statements).flatMap lineText := by
  cases statements with
  | nil => rfl
  | cons first rest =>
    rw [writeStatements, String.toList_append, documentLines, List.flatMap_cons]
    refine congrArg _ ?_
    induction rest with
    | nil => rfl
    | cons s rest ih =>
      rw [List.map_cons, String.join_cons, String.toList_append, ih, List.flatMap_cons, List.flatMap_append, toList_spacedLines]

/-- The lines that are not empty are the statements. -/
theorem filterMap_documentLines (statements : List Statement) : (documentLines statements).filterMap id = statements := by
  have hspaced (s : Statement) : (spacedLines s).filterMap id = [s] := by
    unfold spacedLines
    split <;> rfl
  cases statements with
  | nil => rfl
  | cons first rest =>
    rw [documentLines, List.filterMap_cons]
    refine congrArg (first :: ·) ?_
    induction rest with
    | nil => rfl
    | cons s rest ih => rw [List.flatMap_cons, List.filterMap_append, ih, hspaced, List.singleton_append]

/-- A line that is not empty is one of the statements. -/
theorem mem_of_mem_documentLines {statement : Statement} {statements : List Statement}
    (h : some statement ∈ documentLines statements) : statement ∈ statements := by
  rw [← filterMap_documentLines statements]
  exact List.mem_filterMap.mpr ⟨some statement, h, rfl⟩

/-- A line begins neither with a gap within lines nor with a byte order mark. -/
theorem head_lineText {line : Option Statement} (hline : ∀ s, line = some s → s.Valid) :
    ∃ c after, lineText line = c :: after ∧ isSpace c = false ∧ c ≠ '\uFEFF' := by
  cases line with
  | none => exact ⟨'\n', [], rfl, rfl, by decide⟩
  | some s =>
    have hnamed := (hline s rfl).named
    cases s with
    | entry path v =>
      obtain ⟨c, after, htext, hc⟩ := head_writeKey hnamed
      refine ⟨c, after ++ " = ".toList ++ (writeValue v).toList ++ ['\n'], by simp [lineText, writeStatement, htext], ?_, ?_⟩
      · rw [Bool.eq_false_iff, isSpace, Ne, Bool.or_eq_true, beq_iff_eq, beq_iff_eq]
        rintro (rfl | rfl)
        · exact absurd hc (by decide)
        · exact absurd hc (by decide)
      · rintro rfl
        exact absurd hc (by decide)
    | table path => exact ⟨'[', _, by rw [lineText, writeStatement]; simp; rfl, rfl, by decide⟩
    | element path => exact ⟨'[', _, by rw [lineText, writeStatement]; simp; rfl, rfl, by decide⟩

/-- A line is read back, and nothing of what follows. -/
theorem readStatement_line {line found : Option Statement} (hline : ∀ s, line = some s → s.Valid)
    (h : readStatement (lineText line ++ rest) = some (found, left)) : found = line.map statementBack ∧ left = rest := by
  cases line with
  | none =>
    have hempty : readStatement ('\n' :: rest) = some (none, rest) := rfl
    cases hempty.symm.trans h
    exact ⟨rfl, rfl⟩
  | some s => exact readStatement_back (hline s rfl) h

/-- A document does not begin with a byte order mark. -/
theorem writeStatements_ne_mark {statements : List Statement} (hvalid : ∀ s ∈ statements, s.Valid) (after : List Char) :
    (documentLines statements).flatMap lineText ≠ '\uFEFF' :: after := by
  intro htext
  cases statements with
  | nil => cases htext
  | cons first rest =>
    have hfirst : ∀ s, some first = some s → s.Valid := fun s hs => hvalid s (Option.some.inj hs ▸ List.mem_cons_self)
    obtain ⟨c, text, hline, -, hc⟩ := head_lineText hfirst
    rw [documentLines, List.flatMap_cons, hline] at htext
    exact hc (List.cons.inj htext).1

/-- A text without a byte order mark is read as it is. -/
theorem readStatements?_eq {text : String} (hmark : ∀ after, text.toList ≠ '\uFEFF' :: after) :
    readStatements? text = Reader.whole? (do
      let lines ← Reader.repeated readStatement
      readSpaces
      return lines.filterMap id) text.toList := by
  unfold readStatements?
  dsimp only
  split
  · next after htext => exact absurd htext (hmark after)
  · rfl

/-- Lines that are left over are not blank. -/
theorem dropWhile_lines {lines : List (Option Statement)} (hlines : ∀ line ∈ lines, ∀ s, line = some s → s.Valid)
    (h : (lines.flatMap lineText).dropWhile isSpace = []) : lines = [] := by
  cases lines with
  | nil => rfl
  | cons line lines =>
    obtain ⟨c, text, hline, hc, -⟩ := head_lineText (hlines line List.mem_cons_self)
    rw [List.flatMap_cons, hline, List.cons_append, List.dropWhile_cons_of_neg (by simp [hc])] at h
    cases h

/-- **A document is read back** as what its statements become, if it is read at all. -/
theorem readStatements?_writeStatements {statements found : List Statement} (hvalid : ∀ s ∈ statements, s.Valid)
    (h : readStatements? (writeStatements statements) = some found) : found = statements.map statementBack := by
  have hlines : ∀ line ∈ documentLines statements, ∀ s, line = some s → s.Valid := fun line hmem s hline =>
    hvalid s (mem_of_mem_documentLines (hline ▸ hmem))
  have htext := toList_writeStatements statements
  rw [readStatements?_eq (htext ▸ writeStatements_ne_mark hvalid), htext, Reader.whole?_eq_some_iff] at h
  simp only [Reader.bind_eq_some_iff, readSpaces_apply, Reader.pure_apply] at h
  obtain ⟨lines, t, hrepeated, _, u, hspaces, h⟩ := h
  cases h
  have hrepeats := Reader.repeats_of_repeated hrepeated
  rw [← List.append_nil (List.flatMap _ _)] at hrepeats
  obtain ⟨done, left, hdone, rfl, rfl⟩ := Reader.Repeats.pieces (Option.map statementBack) lineText id (fun _ => True) hrepeats
    rfl True.intro (fun _ _ _ => True.intro) fun line hline t found u _ hread => readStatement_line (hlines line hline) hread
  have hblank : (left.flatMap lineText).dropWhile isSpace = [] := by
    simpa using hspaces
  obtain rfl : left = [] := by
    refine dropWhile_lines (fun line hline => hlines line ?_) hblank
    rw [hdone]
    exact List.mem_append_right _ hline
  rw [List.append_nil] at hdone
  rw [← hdone, List.filterMap_map]
  conv_rhs => rw [← filterMap_documentLines statements, List.map_filterMap]
  rfl

end MediaCatalog.Toml
