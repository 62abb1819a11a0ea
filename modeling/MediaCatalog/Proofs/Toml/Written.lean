import MediaCatalog.Proofs.Toml.Key
import MediaCatalog.Proofs.Toml.Scalar
import MediaCatalog.Proofs.Toml.Table

/-!
# Values are read back

* `valueBack`: what a value becomes when it is written and read: the same value, but for what becomes of its scalars.
* `ReadsBack`: a reader that finds this in written values, and nothing else.
* `readItems_back`, `readPairs_back`: the lists and the tables on one line that are read with such a reader.
* **Main result** (`readsBack_readValue`): the reader of values is such a reader, to whatever depth it reads.
-/

namespace MediaCatalog.Toml

open Text

variable {s t left rest : List Char} {v w : Value} {value : Reader Value}

/-! ## What values become -/

mutual

/-- What a value becomes when it is written and read. -/
def valueBack : Value → Value
  | .list items => .list (itemsBack items)
  | .table entries => .table (entriesBack entries)
  | v => scalarBack v

/-- What the items of a list become. -/
def itemsBack : List Value → List Value
  | [] => []
  | v :: rest => valueBack v :: itemsBack rest

/-- What the entries of a table become. -/
def entriesBack : Entries → Entries
  | [] => []
  | (name, v) :: rest => (name, valueBack v) :: entriesBack rest

end

/-- Each item becomes something for itself. -/
theorem itemsBack_eq_map (items : List Value) : itemsBack items = items.map valueBack := by
  induction items with
  | nil => rfl
  | cons v items ih => rw [itemsBack, ih, List.map_cons]

/-- Each entry keeps its name, and its value becomes something. -/
theorem entriesBack_eq_map (entries : Entries) : entriesBack entries = entries.map fun e => (e.1, valueBack e.2) := by
  induction entries with
  | nil => rfl
  | cons e entries ih => rw [entriesBack, ih, List.map_cons]

/-- What stands under a name is what the value there became. -/
theorem get?_entriesBack (name : String) (entries : Entries) :
    Pairs.get? name (entriesBack entries) = (Pairs.get? name entries).map valueBack := by
  rw [entriesBack_eq_map, Pairs.get?_map]

/-- The names keep their order. -/
theorem ascending_entriesBack {entries : Entries} (h : Ascending entries) : Ascending (entriesBack entries) := by
  rw [entriesBack_eq_map]
  exact List.pairwise_map.mpr h

/-- A scalar that is well formed, unless the value is a list or a table. -/
theorem isScalar_of_wellFormed (h : v.WellFormed) :
    IsScalar v ∨ (∃ items, v = .list items) ∨ ∃ entries, v = .table entries := by
  cases h with
  | moment hm => exact .inl hm
  | list => exact .inr (.inl ⟨_, rfl⟩)
  | table => exact .inr (.inr ⟨_, rfl⟩)
  | _ => exact .inl True.intro

/-- What a value without parts becomes. -/
theorem valueBack_of_isScalar (h : IsScalar v) : valueBack v = scalarBack v := by
  cases v with
  | list _ => exact absurd h id
  | table _ => exact absurd h id
  | _ => rfl

/-! ## Readers of values -/

/-- A reader finds in a written value what it becomes, and nothing else; and no value begins with a closing bracket. -/
structure ReadsBack (value : Reader Value) : Prop where
  back {v w : Value} {rest left : List Char} (hv : v.WellFormed) (hrest : Ends rest)
    (h : value ((writeValue v).toList ++ rest) = some (w, left)) : w = valueBack v ∧ left = rest
  none (s : List Char) : value (']' :: s) = none

/-- A list of two or more items has a line for each of them. -/
theorem writeValue_items (item next : Value) (items : List Value) :
    writeValue (.list (item :: next :: items)) = "[" ++ writeItems (item :: next :: items) ++ "\n]" := by
  rw [writeValue]
  · exact List.cons_ne_nil _ _
  · exact fun _ heq => absurd (List.cons.inj heq).2 (List.cons_ne_nil _ _)

/-- The first character of a written value. -/
theorem head_writeValue (hv : v.WellFormed) : ∃ c after, (writeValue v).toList = c :: after ∧
    (belongs c = true ∨ c = '[' ∨ c = '\x7b') := by
  rcases isScalar_of_wellFormed hv with hscalar | ⟨items, rfl⟩ | ⟨entries, rfl⟩
  · obtain ⟨c, after, htext, hc⟩ := head_writeScalar hscalar
    exact ⟨c, after, htext, .inl hc⟩
  · rcases items with _ | ⟨item, _ | ⟨next, items⟩⟩
    · exact ⟨'[', _, rfl, .inr (.inl rfl)⟩
    · rw [writeValue, String.toList_append, String.toList_append, List.append_assoc]
      exact ⟨'[', _, rfl, .inr (.inl rfl)⟩
    · rw [writeValue_items, String.toList_append, String.toList_append, List.append_assoc]
      exact ⟨'[', _, rfl, .inr (.inl rfl)⟩
  · rcases entries with _ | ⟨⟨name, v⟩, entries⟩
    · exact ⟨'\x7b', _, rfl, .inr (.inr rfl)⟩
    · simp only [writeValue, String.toList_append, List.append_assoc]
      exact ⟨'\x7b', _, rfl, .inr (.inr rfl)⟩

/-- A written value begins neither with a gap nor with what ends or separates values. -/
theorem beginsOutside_writeValue {p : Char → Bool} (hv : v.WellFormed) (hp : ∀ c, p c = true → belongs c = false)
    (hbracket : p '[' = false) (hbrace : p '\x7b' = false) (rest : List Char) :
    BeginsOutside p ((writeValue v).toList ++ rest) := by
  obtain ⟨c, after, htext, hc⟩ := head_writeValue hv
  rw [htext]
  refine beginsOutside_cons ?_
  rcases hc with hc | rfl | rfl
  · by_contra htrue
    rw [hp c (by simpa using htrue)] at hc
    cases hc
  · exact hbracket
  · exact hbrace

/-- A written value begins with no gap. -/
theorem gap_writeValue (hv : v.WellFormed) (rest : List Char) : BeginsOutside isGap ((writeValue v).toList ++ rest) := by
  refine beginsOutside_writeValue hv (fun c hc => ?_) rfl rfl rest
  simp only [isGap, isSpace, Bool.or_eq_true, beq_iff_eq] at hc
  rcases hc with (((rfl | rfl) | rfl) | rfl) | rfl <;> rfl

/-- A written value does not begin with a given character that belongs to none. -/
theorem exactly_writeValue (hv : v.WellFormed) {mark : String} {c : Char} (hmark : mark.toList = [c]) (hc : belongs c = false)
    (hbracket : c ≠ '[') (hbrace : c ≠ '\x7b') (rest : List Char) :
    Reader.exactly mark ((writeValue v).toList ++ rest) = none := by
  cases hread : Reader.exactly mark ((writeValue v).toList ++ rest) with
  | none => rfl
  | some found =>
    have hother : BeginsOutside (· == c) ((writeValue v).toList ++ rest) :=
      beginsOutside_writeValue (p := (· == c)) hv (fun d hd => beq_iff_eq.mp hd ▸ hc) (by simpa using hbracket.symm)
        (by simpa using hbrace.symm) rest
    rw [Reader.exactly_eq_some_iff.mp hread, hmark] at hother
    simpa using hother c rfl

/-- A character that belongs to no value ends one. -/
theorem ends_cons {c : Char} (hc : belongs c = false) (hblank : c ≠ ' ') (s : List Char) : Ends (c :: s) :=
  ⟨beginsOutside_cons hc, fun _ heq => absurd (List.cons.inj heq).1 hblank⟩

/-! ## Lists -/

/-- Reads an item of a list with the gaps around it. -/
def readItem (value : Reader Value) : Reader Value := do
  readGap
  let v ← value
  readGap
  return v

/-- An item is read back where it ends with a comma or a bracket. -/
theorem readItem_back (hvalue : ReadsBack value) (hv : v.WellFormed)
    (hgap : readGap s = some ((), (writeValue v).toList ++ t)) (ht : BeginsOutside isGap t) (hends : Ends t)
    (h : readItem value s = some (w, left)) : w = valueBack v ∧ left = t := by
  simp only [readItem, Reader.bind_eq_some_iff, Reader.pure_apply] at h
  obtain ⟨_, _, hbefore, w', u, hw, _, _, hafter, h⟩ := h
  obtain ⟨-, rfl⟩ := Prod.mk.inj (Option.some.inj (hgap.symm.trans hbefore))
  obtain ⟨hback, hu⟩ := hvalue.back hv hends hw
  subst hback hu
  cases (readGap_nil ht).symm.trans hafter
  cases h
  exact ⟨rfl, rfl⟩

/-- No item stands behind a gap where a bracket stands. -/
theorem readItem_bracket (hvalue : ReadsBack value) (hgap : readGap s = some ((), ']' :: t)) : readItem value s = none := by
  rw [readItem, Reader.bind_apply, hgap, Option.bind_some]
  change (value >>= _) (']' :: t) = none
  rw [Reader.bind_apply, hvalue.none]
  rfl

/-- The end of a list: perhaps a comma, and the bracket. -/
def ClosesList (t left : List Char) : Prop :=
  ∃ u, (u = t ∨ t = ',' :: u) ∧ readGap u = some ((), ']' :: left)

/-- A list is read item by item up to its end. -/
theorem closesList_of_readItems {vs : List Value} (h : readItems value s = some (vs, left)) :
    ∃ t, Reader.separated (readItem value) (Reader.exactly ",") s = some (vs, t) ∧ ClosesList t left := by
  simp only [readItems, Reader.bind_eq_some_iff] at h
  obtain ⟨items, t, hitems, h⟩ := h
  have hclose (u : List Char) (h : (do readGap; Reader.exactly "]"; pure items : Reader (List Value)) u = some (vs, left)) :
      items = vs ∧ readGap u = some ((), ']' :: left) := by
    simp only [Reader.bind_eq_some_iff, Reader.exactly_eq_some_iff, Reader.pure_apply] at h
    obtain ⟨_, _, hgap, _, _, rfl, h⟩ := h
    cases h
    exact ⟨rfl, hgap⟩
  split_ifs at h
  · obtain ⟨_, u, hcomma, h⟩ := Reader.bind_eq_some_iff.mp h
    obtain ⟨rfl, hgap⟩ := hclose u h
    refine ⟨t, hitems, u, ?_, hgap⟩
    rw [Reader.discard_apply, Reader.optional_eq, Option.map_some] at hcomma
    cases hread : Reader.exactly "," t with
    | none =>
      rw [hread] at hcomma
      cases hcomma
      exact .inl rfl
    | some found =>
      rw [hread] at hcomma
      cases hcomma
      exact .inr (Reader.exactly_eq_some_iff.mp hread)
  · obtain ⟨rfl, hgap⟩ := hclose t h
    exact ⟨t, hitems, t, .inl rfl, hgap⟩

/-- No bracket stands behind a gap where a value stands. -/
theorem readGap_ne_bracket (hv : v.WellFormed) (hgap : readGap s = some ((), (writeValue v).toList ++ rest)) (left : List Char) :
    readGap s ≠ some ((), ']' :: left) := by
  intro h
  have hnone : Reader.exactly "]" ((writeValue v).toList ++ rest) = none :=
    exactly_writeValue hv rfl rfl (by decide) (by decide) rest
  have htext : (writeValue v).toList ++ rest = ']' :: left := by
    have heq := hgap.symm.trans h
    simpa using heq
  rw [htext] at hnone
  cases hnone

/-- A list ends at a bracket. -/
theorem closesList_bracket (h : ClosesList (']' :: t) left) : left = t := by
  obtain ⟨u, rfl | heq, hgap⟩ := h
  · rw [readGap_nil (beginsOutside_cons (by decide))] at hgap
    cases hgap
    rfl
  · cases heq

/-- A list ends where a comma, a line break and a bracket stand. -/
theorem closesList_line (h : ClosesList (',' :: '\n' :: ']' :: t) left) : left = t := by
  obtain ⟨u, rfl | heq, hgap⟩ := h
  · rw [readGap_nil (beginsOutside_cons (by decide))] at hgap
    cases hgap
  · cases heq
    rw [readGap_line (beginsOutside_cons (by decide))] at hgap
    cases hgap
    rfl

/-- A list does not end where the line of another item begins. -/
theorem not_closesList_next (hv : v.WellFormed) :
    ¬ClosesList (',' :: ("\n    ".toList ++ ((writeValue v).toList ++ rest))) left := by
  rintro ⟨u, rfl | heq, hgap⟩
  · rw [readGap_nil (beginsOutside_cons (by decide))] at hgap
    cases hgap
  · cases heq
    exact readGap_ne_bracket hv (readGap_indented (gap_writeValue hv rest)) left hgap

/-- A list does not end where its first item stands. -/
theorem not_closesList_first (hv : v.WellFormed) (hgap : readGap s = some ((), (writeValue v).toList ++ rest))
    (hcomma : ∀ u, s ≠ ',' :: u) : ¬ClosesList s left := by
  rintro ⟨u, rfl | heq, hclose⟩
  · exact readGap_ne_bracket hv hgap left hclose
  · exact hcomma u heq

/-- A list of one item is read back. -/
theorem readItems_single {vs : List Value} (hvalue : ReadsBack value) (hv : v.WellFormed)
    (h : readItems value ((writeValue v).toList ++ ']' :: rest) = some (vs, left)) : vs = [valueBack v] ∧ left = rest := by
  obtain ⟨t, hitems, hclose⟩ := closesList_of_readItems h
  have hgap := readGap_nil (gap_writeValue hv (']' :: rest))
  rcases Reader.separated_cases hitems with ⟨rfl, rfl⟩ | ⟨w, t', further, rfl, hfirst, hfurther⟩
  · refine absurd hclose (not_closesList_first hv hgap fun u heq => ?_)
    have hnone : Reader.exactly "," ((writeValue v).toList ++ ']' :: rest) = none :=
      exactly_writeValue hv rfl rfl (by decide) (by decide) (']' :: rest)
    rw [heq] at hnone
    cases hnone
  · obtain ⟨rfl, rfl⟩ := readItem_back hvalue hv hgap (beginsOutside_cons (by decide)) (ends_cons rfl (by decide) rest) hfirst
    cases hfurther with
    | nil => exact ⟨rfl, closesList_bracket hclose⟩
    | cons hnext => cases hnext

/-- A further item with the comma and the line break before it. -/
def furtherItem (v : Value) : List Char := ',' :: ("\n    ".toList ++ (writeValue v).toList)

/-- Items on lines of their own, and the bracket after them. -/
theorem toList_writeItems (v : Value) (items : List Value) (rest : List Char) :
    (writeItems (v :: items)).toList ++ ("\n]".toList ++ rest) =
      "\n    ".toList ++ ((writeValue v).toList ++ (items.flatMap furtherItem ++ ',' :: '\n' :: ']' :: rest)) := by
  induction items generalizing v with
  | nil => simp [writeItems]
  | cons next items ih =>
    have hnext := ih next
    rw [writeItems, List.flatMap_cons, furtherItem]
    simp only [String.toList_append, List.append_assoc, hnext]
    simp

/-- A further item is read back with the comma before it. -/
theorem readItem_further {item : Value} (hvalue : ReadsBack value) (hitem : item.WellFormed) (ht : ∃ after, t = ',' :: after)
    (h : (do Reader.exactly ","; readItem value : Reader Value) (furtherItem item ++ t) = some (w, left)) :
    w = valueBack item ∧ left = t := by
  obtain ⟨after, rfl⟩ := ht
  have htext : furtherItem item ++ ',' :: after =
      ",".toList ++ ("\n    ".toList ++ ((writeValue item).toList ++ ',' :: after)) := by simp [furtherItem]
  rw [htext, Reader.exactly_bind] at h
  exact readItem_back hvalue hitem (readGap_indented (gap_writeValue hitem _)) (beginsOutside_cons (by decide))
    (ends_cons rfl (by decide) after) h

/-- **A list of items on lines of their own** is read back. -/
theorem readItems_lines {vs items : List Value} (hvalue : ReadsBack value) (hv : v.WellFormed)
    (hitems : ∀ item ∈ items, item.WellFormed)
    (h : readItems value ((writeItems (v :: items)).toList ++ ("\n]".toList ++ rest)) = some (vs, left)) :
    vs = valueBack v :: items.map valueBack ∧ left = rest := by
  obtain ⟨t, hread, hclose⟩ := closesList_of_readItems h
  rw [toList_writeItems] at hread
  have hgap := readGap_indented (gap_writeValue hv (items.flatMap furtherItem ++ ',' :: '\n' :: ']' :: rest))
  rcases Reader.separated_cases hread with ⟨rfl, rfl⟩ | ⟨w, t', further, rfl, hfirst, hfurther⟩
  · exact absurd hclose (not_closesList_first hv hgap fun u heq => by cases heq)
  · have hcomma (items : List Value) : ∃ after, items.flatMap furtherItem ++ ',' :: '\n' :: ']' :: rest = ',' :: after := by
      cases items with
      | nil => exact ⟨_, rfl⟩
      | cons => exact ⟨_, rfl⟩
    obtain ⟨after, hafter⟩ := hcomma items
    have hback := readItem_back hvalue hv hgap (hafter ▸ beginsOutside_cons (by decide))
      (hafter ▸ ends_cons rfl (by decide) after) hfirst
    obtain ⟨rfl, rfl⟩ := hback
    have hend : (do Reader.exactly ","; readItem value : Reader Value) (',' :: '\n' :: ']' :: rest) = none :=
      readItem_bracket hvalue (readGap_line (beginsOutside_cons (by decide)))
    have hpieces := Reader.Repeats.pieces valueBack furtherItem id (fun t => ∃ after, t = ',' :: after) hfurther
      hend ⟨_, rfl⟩ (fun item _ t => ⟨_, rfl⟩) fun item hitem t w u ht hnext =>
        readItem_further hvalue (hitems item hitem) ht hnext
    obtain ⟨done, others, rfl, rfl, rfl⟩ := hpieces
    cases others with
    | nil =>
      rw [List.append_nil]
      exact ⟨rfl, closesList_line hclose⟩
    | cons next others =>
      have hnext := hitems next (List.mem_append_right _ List.mem_cons_self)
      rw [id, List.flatMap_cons, List.append_assoc, furtherItem, List.cons_append, List.append_assoc] at hclose
      exact absurd hclose (not_closesList_next hnext)

/-- The written form of a list behind its opening bracket. -/
def listText : List Value → List Char
  | [] => "]".toList
  | [item] => (writeValue item).toList ++ "]".toList
  | items => (writeItems items).toList ++ "\n]".toList

/-- A written list begins with its bracket. -/
theorem toList_writeList (items : List Value) : (writeValue (.list items)).toList = '[' :: listText items := by
  match items with
  | [] => rfl
  | [item] =>
    rw [writeValue, String.toList_append, String.toList_append, List.append_assoc]
    rfl
  | item :: next :: items =>
    rw [writeValue_items, String.toList_append, String.toList_append, List.append_assoc]
    rfl

/-- **A list is read back.** -/
theorem readItems_back {vs items : List Value} (hvalue : ReadsBack value) (hitems : ∀ item ∈ items, item.WellFormed)
    (h : readItems value (listText items ++ rest) = some (vs, left)) : vs = itemsBack items ∧ left = rest := by
  rw [itemsBack_eq_map]
  match items, hitems, h with
  | [], _, h =>
    obtain ⟨t, hread, hclose⟩ := closesList_of_readItems h
    have hnone := readItem_bracket (s := ']' :: rest) hvalue (readGap_nil (beginsOutside_cons (by decide)))
    rcases Reader.separated_cases hread with ⟨rfl, rfl⟩ | ⟨w, t', further, rfl, hfirst, -⟩
    · exact ⟨rfl, closesList_bracket hclose⟩
    · exact absurd (hnone.symm.trans hfirst) (by simp)
  | [item], hitems, h =>
    rw [listText, List.append_assoc] at h
    exact readItems_single hvalue (hitems item List.mem_cons_self) h
  | item :: next :: items, hitems, h =>
    rw [show listText (item :: next :: items) = (writeItems (item :: next :: items)).toList ++ "\n]".toList from rfl,
      List.append_assoc] at h
    exact readItems_lines hvalue (hitems item List.mem_cons_self) (fun v hv => hitems v (List.mem_cons_of_mem _ hv)) h

/-! ## Tables on one line -/

/-- A key ends where the equals sign of its value stands. -/
theorem endsKey_equals (s : List Char) : EndsKey (" = ".toList ++ s) :=
  ⟨beginsOutside_cons (by decide), beginsOutside_cons (by decide)⟩

/-- **A key with its value** is read back, with the blanks after it. -/
theorem readPair_back {path : Path} {pair : Path × Value} (hvalue : ReadsBack value) (hpath : path ≠ []) (hv : v.WellFormed)
    (hs : s.dropWhile isSpace = (writeKey path).toList ++ (" = ".toList ++ ((writeValue v).toList ++ t))) (ht : Ends t)
    (h : readPair value s = some (pair, left)) : pair = (path, valueBack v) ∧ left = t.dropWhile isSpace := by
  simp only [readPair, Reader.bind_eq_some_iff, Reader.exactly_eq_some_iff, readSpaces_apply, Reader.pure_apply] at h
  obtain ⟨path', t', hkey, _, t'', hequals, _, _, hspaces, w, u, hw, _, _, hafter, h⟩ := h
  obtain ⟨rfl, rfl⟩ := readKey_writeKey hpath hs (endsKey_equals _) hkey
  have hdrop : (" = ".toList ++ ((writeValue v).toList ++ t)).dropWhile isSpace =
      '=' :: ' ' :: ((writeValue v).toList ++ t) := rfl
  obtain rfl : ' ' :: ((writeValue v).toList ++ t) = t'' := (List.cons.inj (hdrop.symm.trans hequals)).2
  have hblank : (' ' :: ((writeValue v).toList ++ t)).dropWhile isSpace = (writeValue v).toList ++ t :=
    (List.dropWhile_cons_of_pos rfl).trans (dropWhile_isSpace (gap_writeValue hv t))
  rw [hblank] at hspaces
  cases hspaces
  obtain ⟨hback, hu⟩ := hvalue.back hv ht hw
  subst hback hu
  cases hafter
  cases h
  exact ⟨rfl, rfl⟩

/-- No key stands where a brace stands. -/
theorem readPair_brace (value : Reader Value) (s : List Char) : readPair value ('\x7d' :: s) = none := by
  have hkey : readKey ('\x7d' :: s) = none := rfl
  rw [readPair, Reader.bind_apply, hkey]
  rfl

/-- The pairs of entries on one line. -/
def pairsOf (entries : Entries) : List (Path × Value) := entries.map fun e => ([e.1], e.2)

/-- The written form of an entry on one line. -/
def writeEntry (e : String × Value) : List Char := (writeName e.1).toList ++ (" = ".toList ++ (writeValue e.2).toList)

/-- The written form of a table behind its opening brace. -/
def tableText : Entries → List Char
  | [] => "\x7d".toList
  | e :: entries => ' ' :: (writeEntry e ++ (entries.flatMap (fun e => ", ".toList ++ writeEntry e) ++ " \x7d".toList))

/-- A table on one line begins with its brace. -/
theorem toList_writeTable (entries : Entries) : (writeValue (.table entries)).toList = '\x7b' :: tableText entries := by
  cases entries with
  | nil => rfl
  | cons e entries =>
    obtain ⟨name, v⟩ := e
    have hpairs : (writePairs entries).toList = entries.flatMap fun e => ", ".toList ++ writeEntry e := by
      induction entries with
      | nil => rfl
      | cons e entries ih =>
        obtain ⟨name, v⟩ := e
        rw [writePairs, List.flatMap_cons, writeEntry]
        simp only [String.toList_append, List.append_assoc, ih]
    rw [writeValue, tableText, writeEntry]
    simp only [String.toList_append, List.append_assoc, hpairs]
    rfl

/-- A table on one line goes on with a comma or ends with a blank and a brace. -/
theorem ends_furtherEntries (entries : Entries) (rest : List Char) :
    Ends (entries.flatMap (fun e => ", ".toList ++ writeEntry e) ++ " \x7d".toList ++ rest) := by
  cases entries with
  | nil =>
    refine ⟨beginsOutside_cons (by decide), fun after heq => ?_⟩
    cases heq
    rfl
  | cons e entries => exact ends_cons rfl (by decide) _

/-- A written entry is read back. -/
theorem readPair_entry {e : String × Value} {pair : Path × Value} (hvalue : ReadsBack value) (he : e.2.WellFormed)
    (hs : s.dropWhile isSpace = writeEntry e ++ t) (ht : Ends t) (h : readPair value s = some (pair, left)) :
    pair = ([e.1], valueBack e.2) ∧ left = t.dropWhile isSpace := by
  refine readPair_back hvalue (List.cons_ne_nil _ _) he ?_ ht h
  rw [hs, toList_writeKey, writeEntry, furtherNames]
  simp

/-- A written entry does not begin with a gap or a brace. -/
theorem outside_writeEntry (e : String × Value) (rest : List Char) :
    BeginsOutside isGap (writeEntry e ++ rest) ∧ ∀ after, writeEntry e ++ rest ≠ '\x7d' :: after := by
  rw [writeEntry, List.append_assoc]
  refine ⟨beginsOutside_writeName e.1 _, fun after heq => ?_⟩
  obtain ⟨c, name, htext, hc⟩ := head_writeName e.1
  rw [htext] at heq
  rw [(List.cons.inj heq).1] at hc
  exact absurd hc (by decide)

/-- A blank before an entry is dropped, and nothing else. -/
theorem dropWhile_writeEntry (e : String × Value) (rest : List Char) :
    (' ' :: (writeEntry e ++ rest)).dropWhile isSpace = writeEntry e ++ rest :=
  (List.dropWhile_cons_of_pos rfl).trans (dropWhile_isSpace (outside_writeEntry e rest).1)

/-- A further entry is read back with the comma before it. -/
theorem readPair_further {e : String × Value} {pair : Path × Value} (hvalue : ReadsBack value) (he : e.2.WellFormed)
    (ht : Ends t)
    (h : (do Reader.exactly ","; readPair value : Reader (Path × Value)) ((", ".toList ++ writeEntry e ++ t).dropWhile isSpace) =
      some (pair, left)) : pair = ([e.1], valueBack e.2) ∧ left = t.dropWhile isSpace := by
  have hcomma : (", ".toList ++ writeEntry e ++ t).dropWhile isSpace = ",".toList ++ (' ' :: (writeEntry e ++ t)) := by
    rw [List.append_assoc]
    exact List.dropWhile_cons_of_neg (by decide)
  rw [hcomma, Reader.exactly_bind] at h
  exact readPair_entry hvalue he (dropWhile_writeEntry e t) ht h

/-- **The pairs of a table on one line** are read back. -/
theorem readPairs_back {pairs : List (Path × Value)} {entries : Entries} (hvalue : ReadsBack value)
    (hentries : ∀ e ∈ entries, e.2.WellFormed) (h : readPairs value (tableText entries ++ rest) = some (pairs, left)) :
    pairs = pairsOf (entriesBack entries) ∧ left = rest := by
  simp only [readPairs, Reader.bind_eq_some_iff, Reader.exactly_eq_some_iff, readSpaces_apply, Reader.pure_apply] at h
  obtain ⟨found, t, hread, _, _, hspaces, _, _, hbrace, h⟩ := h
  cases hspaces
  cases h
  rw [entriesBack_eq_map]
  cases entries with
  | nil =>
    rcases Reader.separated_cases hread with ⟨rfl, rfl⟩ | ⟨pair, t', further, rfl, hfirst, -⟩
    · exact ⟨rfl, (List.cons.inj hbrace).2.symm⟩
    · exact absurd ((readPair_brace value rest).symm.trans hfirst) (by simp)
  | cons e entries =>
    have htext : tableText (e :: entries) ++ rest =
        ' ' :: (writeEntry e ++ (entries.flatMap (fun e => ", ".toList ++ writeEntry e) ++ " \x7d".toList ++ rest)) := by
      simp [tableText]
    have hdrop := dropWhile_writeEntry e (entries.flatMap (fun e => ", ".toList ++ writeEntry e) ++ " \x7d".toList ++ rest)
    rw [htext] at hread
    rcases Reader.separated_cases hread with ⟨rfl, rfl⟩ | ⟨pair, t', further, rfl, hfirst, hfurther⟩
    · rw [hdrop] at hbrace
      exact absurd hbrace ((outside_writeEntry e _).2 left)
    · obtain ⟨rfl, rfl⟩ := readPair_entry hvalue (hentries e List.mem_cons_self) hdrop (ends_furtherEntries entries rest) hfirst
      rw [List.append_assoc] at hfurther
      have hpieces := Reader.Repeats.pieces (fun e : String × Value => ([e.1], valueBack e.2))
        (fun e => ", ".toList ++ writeEntry e) (List.dropWhile isSpace) Ends hfurther rfl (ends_furtherEntries [] rest)
        (fun e _ t => ends_cons rfl (by decide) _) fun e he t pair u ht hnext =>
          readPair_further hvalue (hentries e (List.mem_cons_of_mem _ he)) ht hnext
      obtain ⟨done, others, rfl, rfl, rfl⟩ := hpieces
      cases others with
      | nil =>
        have hend : ((List.flatMap (fun e => ", ".toList ++ writeEntry e) [] ++ (" \x7d".toList ++ rest)).dropWhile isSpace).dropWhile
            isSpace = '\x7d' :: rest := rfl
        rw [hend] at hbrace
        refine ⟨?_, (List.cons.inj hbrace).2.symm⟩
        simp [pairsOf]
      | cons next others => cases hbrace

/-! ## Values -/

/-- A value that begins with neither a bracket nor a brace is a scalar. -/
theorem readValue_scalar {c : Char} (hbracket : c ≠ '[') (hbrace : c ≠ '\x7b') (depth : Nat) (s : List Char) :
    readValue depth (c :: s) = readScalar (c :: s) := by
  have hother {d : Char} (hd : c ≠ d) : some c ≠ some d := fun heq => hd (Option.some.inj heq)
  cases depth with
  | zero =>
    simp only [readValue, Reader.bind_apply, Reader.peek_apply, List.head?_cons, Option.bind_some]
    generalize hhead : some c = head
    split
    · exact absurd hhead (hother hbracket)
    · exact absurd hhead (hother hbrace)
    · rfl
  | succ depth =>
    simp only [readValue, Reader.bind_apply, Reader.peek_apply, List.head?_cons, Option.bind_some]
    generalize hhead : some c = head
    split
    · exact absurd hhead (hother hbracket)
    · exact absurd hhead (hother hbrace)
    · rfl

/-- A bracket begins a list. -/
theorem readValue_list (depth : Nat) (s : List Char) :
    readValue (depth + 1) ('[' :: s) = (readItems (readValue depth) s).map fun found => (.list found.1, found.2) := by
  have hlist : readValue (depth + 1) ('[' :: s) =
      (do Reader.exactly "["; Value.list <$> readItems (readValue depth) : Reader Value) ("[".toList ++ s) := by
    simp only [readValue, Reader.bind_apply, Reader.peek_apply, List.head?_cons, Option.bind_some]
    rfl
  rw [hlist, Reader.exactly_bind, Reader.map_apply]

/-- A brace begins a table on one line. -/
theorem readValue_table (depth : Nat) (s : List Char) :
    readValue (depth + 1) ('\x7b' :: s) = (readPairs (readValue depth) s).bind fun found =>
      (entriesOfPairs? found.1).map fun entries => (.table entries, found.2) := by
  have hbrace : Reader.exactly "\x7b" ('\x7b' :: s) = some ((), s) := Reader.exactly_append "\x7b" s
  simp only [readValue, Reader.bind_apply, Reader.peek_apply, List.head?_cons, Option.bind_some, hbrace]
  refine congrArg (Option.bind _) (funext fun found => ?_)
  cases entriesOfPairs? found.1 <;> rfl

/-- A scalar is read back, to whatever depth. -/
theorem readValue_back_scalar {depth : Nat} (hv : IsScalar v) (hrest : Ends rest)
    (h : readValue depth ((writeValue v).toList ++ rest) = some (w, left)) : w = valueBack v ∧ left = rest := by
  obtain ⟨c, after, htext, hc⟩ := head_writeScalar hv
  have hbracket : c ≠ '[' := by
    rintro rfl
    exact absurd hc (by decide)
  have hbrace : c ≠ '\x7b' := by
    rintro rfl
    exact absurd hc (by decide)
  rw [valueBack_of_isScalar hv]
  refine readScalar_write hv hrest ?_
  rw [htext, List.cons_append] at h ⊢
  rwa [readValue_scalar hbracket hbrace] at h

/-- **Values are read back**, to whatever depth they are read. -/
theorem readsBack_readValue (depth : Nat) : ReadsBack (readValue depth) := by
  induction depth with
  | zero =>
    refine ⟨fun {v w rest left} hv hrest h => ?_, fun s => rfl⟩
    rcases isScalar_of_wellFormed hv with hscalar | ⟨items, rfl⟩ | ⟨entries, rfl⟩
    · exact readValue_back_scalar hscalar hrest h
    · rw [toList_writeList] at h
      cases h
    · rw [toList_writeTable] at h
      cases h
  | succ depth ih =>
    refine ⟨fun {v w rest left} hv hrest h => ?_, fun s => rfl⟩
    rcases isScalar_of_wellFormed hv with hscalar | ⟨items, rfl⟩ | ⟨entries, rfl⟩
    · exact readValue_back_scalar hscalar hrest h
    · rw [toList_writeList, List.cons_append, readValue_list, Option.map_eq_some_iff] at h
      obtain ⟨⟨vs, u⟩, hread, h⟩ := h
      cases h
      obtain ⟨rfl, rfl⟩ := readItems_back ih hv.of_mem_list hread
      rw [valueBack]
      exact ⟨rfl, rfl⟩
    · rw [toList_writeTable, List.cons_append, readValue_table, Option.bind_eq_some_iff] at h
      obtain ⟨⟨pairs, u⟩, hread, h⟩ := h
      obtain ⟨found, hfound, h⟩ := Option.map_eq_some_iff.mp h
      cases h
      obtain ⟨rfl, rfl⟩ := readPairs_back ih hv.of_mem_table hread
      rw [pairsOf, entriesOfPairs?_entries (ascending_entriesBack hv.ascending)] at hfound
      cases hfound
      rw [valueBack]
      exact ⟨rfl, rfl⟩

end MediaCatalog.Toml
