import MediaCatalog.Schema.Basic
import MediaCatalog.Proofs.Number.Decimal
import MediaCatalog.Proofs.Schema.Quoting

/-!
# Schemas written out

A schema is written level by level, each level as its attributes in any order. This file says when
the levels can be read back from that text.

* `Query.Arrangement.text`, `Query.Page.text`: orderings and pages as they are written.
* `Level.written`, `Level.Writable`: the attributes of a level, and the levels that can be written.
* **Levels** (`Level.Writable.ofText_attributesText`): a level is read back from its attributes.
* `WrittenLevel`, `WrittenLevel.schemaText`: a level with an order of its attributes; the schema.
* **Main result** (`WrittenLevel.ofText_schemaText`): the schema is cut at its levels exactly if its
  texts are kept apart, then exactly its levels are read, and that is so whenever no quote in a
  value stands behind an odd number of backslashes.
-/

namespace MediaCatalog

/-! ## Orderings and pages -/

namespace Query

/-- The name of the target with a name. -/
theorem Target.name_ofName (name : String) : (Target.ofName name).name = name := by
  unfold Target.ofName
  split
  next h => exact h.symm
  next => rfl

/-- Whether an ordering is descending. -/
def Mode.isDescending : Mode → Bool
  | textDescending | numberDescending => true
  | textAscending | numberAscending => false

/-- Whether an ordering compares numbers. -/
def Mode.isNumeric : Mode → Bool
  | numberAscending | numberDescending => true
  | textAscending | textDescending => false

/-- An ordering as it is written. -/
def Arrangement.text (o : Arrangement) : List Char :=
  (if o.mode.isDescending then ['-'] else []) ++
    (o.target.name.toList ++ if o.mode.isNumeric then ":num".toList else [])

/-- A page as it is written. -/
def Page.text (p : Page) : List Char := Nat.toDigits 10 p.skip ++ ',' :: Nat.toDigits 10 p.limit

end Query

namespace Level

/-- What is looked for while a text is parted is not found in a text without the character. -/
theorem ne_of_not_mem {c : Char} {s : List Char} (h : c ∉ s) : ∀ d ∈ s, decide (d ≠ c) = true := by
  rintro d hd
  refine decide_eq_true ?_
  rintro rfl
  exact h hd

/-- A text without a character has no parts before and after it. -/
theorem splitAt?_eq_none {c : Char} {s : List Char} (h : c ∉ s) : splitAt? c s = none := by
  have hdrop : s.dropWhile (· ≠ c) = [] := by
    rw [← List.append_nil s, List.dropWhile_append_of_pos (ne_of_not_mem h)]
    rfl
  rw [splitAt?, hdrop]

/-- A text is parted at the first occurrence of a character. -/
theorem splitAt?_append {c : Char} {s : List Char} (h : c ∉ s) (rest : List Char) :
    splitAt? c (s ++ c :: rest) = some (s, rest) := by
  rw [splitAt?, List.dropWhile_append_of_pos (ne_of_not_mem h), List.takeWhile_append_of_pos (ne_of_not_mem h),
    List.dropWhile_cons_of_neg (by simp), List.takeWhile_cons_of_neg (by simp), List.append_nil]

/-- An ordering is read back from its text. -/
theorem order?_text {field : List Char} (h : Text.isIdent field = true) (mode : Query.Mode) :
    order? (Query.Arrangement.text ⟨Query.Target.ofName (String.ofList field), mode⟩) =
      some ⟨Query.Target.ofName (String.ofList field), mode⟩ := by
  obtain ⟨hne, hident⟩ := Text.isIdent_iff.mp h
  have hcolon : ':' ∉ field := fun hmem => absurd (hident _ hmem) (by decide)
  have hplain := splitAt?_eq_none hcolon
  have hnumeric : splitAt? ':' (field ++ [':', 'n', 'u', 'm']) = some (field, ['n', 'u', 'm']) :=
    splitAt?_append hcolon ['n', 'u', 'm']
  obtain ⟨c, rest, rfl⟩ := List.exists_cons_of_ne_nil hne
  -- an ascending ordering does not begin with a minus sign
  have hsign : c ≠ '-' := by
    rintro rfl
    exact absurd (hident '-' List.mem_cons_self) (by decide)
  unfold Query.Arrangement.text
  simp only [Query.Target.name_ofName, String.toList_ofList]
  cases mode with
  | textAscending => simp [order?, Query.Mode.isDescending, Query.Mode.isNumeric, hsign, hplain, h]
  | textDescending => simp [order?, Query.Mode.isDescending, Query.Mode.isNumeric, hplain, h]
  | numberAscending =>
    simp only [List.cons_append] at hnumeric
    simp [order?, Query.Mode.isDescending, Query.Mode.isNumeric, hsign, hnumeric, h]
  | numberDescending =>
    simp only [List.cons_append] at hnumeric
    simp [order?, Query.Mode.isDescending, Query.Mode.isNumeric, hnumeric, h]

/-- A page is read back from its text. -/
theorem page?_text {p : Query.Page} (hlimit : p.limit ≤ Number.maxWord64) (hskip : p.skip ≤ Number.maxWord64) :
    page? p.text = some p := by
  have hcomma : ',' ∉ Nat.toDigits 10 p.skip :=
    fun hmem => absurd (Number.isDigit_of_mem_toDigits hmem) (by decide)
  rw [page?, Query.Page.text, splitAt?_append hcomma]
  simp only [Option.getD_some, Text.trimChars_toDigits, Number.word64?_toDigits hlimit,
    Number.word64?_toDigits hskip, Option.bind_eq_bind, Option.bind_some, Option.pure_def]

/-! ## Levels -/

/-- The attributes of a level. -/
def written (level : Level) : List (List Char × List Char) :=
  [(['q'], level.query.source.toList), (['d'], level.label.source.toList)] ++
    ((level.group.map fun g => (['g'], g.toList)).toList ++
      ((level.order.map fun o => (['o'], o.text)).toList ++ (level.page.map fun p => (['l'], p.text)).toList))

/-- A level that can be written: its texts do not end in a backslash, a group has a name, an ordering
looks at something that has a name, and a page has numbers of 64 bits. -/
structure Writable (level : Level) : Prop where
  query : level.query.source.toList.getLast? ≠ some '\\'
  label : level.label.source.toList.getLast? ≠ some '\\'
  group : ∀ g ∈ level.group, g ≠ "" ∧ g.toList.getLast? ≠ some '\\'
  order : ∀ o ∈ level.order, ∃ field, Text.isIdent field = true ∧ o.target = Query.Target.ofName (String.ofList field)
  page : ∀ p ∈ level.page, p.limit ≤ Number.maxWord64 ∧ p.skip ≤ Number.maxWord64

variable {level : Level}

/-- The attributes of a level, one kind after the other. -/
theorem mem_written_iff {a : List Char × List Char} :
    a ∈ level.written ↔ a = (['q'], level.query.source.toList) ∨ a = (['d'], level.label.source.toList) ∨
      (∃ g ∈ level.group, a = (['g'], g.toList)) ∨ (∃ o ∈ level.order, a = (['o'], o.text)) ∨
      ∃ p ∈ level.page, a = (['l'], p.text) := by
  simp only [written, List.mem_append, List.mem_cons, List.not_mem_nil, or_false, Option.mem_toList,
    Option.mem_def, Option.map_eq_some_iff, or_assoc, eq_comm (a := a)]

/-- An ordering that looks at something with a name is read back. -/
theorem Writable.order?_text (h : level.Writable) {o : Query.Arrangement} (ho : o ∈ level.order) :
    order? o.text = some o := by
  obtain ⟨field, hfield, htarget⟩ := h.order o ho
  obtain ⟨target, mode⟩ := o
  cases htarget
  exact Level.order?_text hfield mode

/-- An ordering is written without special characters. -/
theorem Writable.isSpecial_of_mem_order (h : level.Writable) {o : Query.Arrangement} (ho : o ∈ level.order) :
    ∀ c ∈ o.text, Schema.isSpecial c = false := by
  obtain ⟨field, hfield, htarget⟩ := h.order o ho
  have hsign : ∀ c ∈ ['-'], Schema.isSpecial c = false := List.forall_mem_singleton.mpr rfl
  have hname : ∀ c ∈ field, Schema.isSpecial c = false := fun c hc =>
    Schema.isSpecial_of_isIdentChar ((Text.isIdent_iff.mp hfield).2 c hc)
  have hkind : ∀ c ∈ ":num".toList, Schema.isSpecial c = false := by
    simp [Schema.isSpecial]
  intro c hc
  rw [Query.Arrangement.text, htarget, Query.Target.name_ofName, String.toList_ofList] at hc
  rcases List.mem_append.mp hc with hc | hc
  · split at hc
    · exact hsign c hc
    · cases hc
  · rcases List.mem_append.mp hc with hc | hc
    · exact hname c hc
    · split at hc
      · exact hkind c hc
      · cases hc

/-- A page is written without special characters. -/
theorem isSpecial_of_mem_page (p : Query.Page) : ∀ c ∈ p.text, Schema.isSpecial c = false := by
  have hdigits : ∀ n, ∀ c ∈ Nat.toDigits 10 n, Schema.isSpecial c = false := by
    intro n c hc
    have hdigit := Number.isDigit_of_mem_toDigits hc
    refine Schema.isSpecial_of_isIdentChar ?_
    simp [Text.isIdentChar, Char.isAlphanum, hdigit]
  intro c hc
  rcases List.mem_append.mp hc with hc | hc
  · exact hdigits _ c hc
  · rcases List.mem_cons.mp hc with rfl | hc
    · rfl
    · exact hdigits _ c hc

/-- Every attribute of a level can be read back. -/
theorem Writable.readable (h : level.Writable) {a : List Char × List Char} (ha : a ∈ level.written) :
    Schema.Readable a := by
  rcases mem_written_iff.mp ha with rfl | rfl | ⟨g, hg, rfl⟩ | ⟨o, ho, rfl⟩ | ⟨p, hp, rfl⟩
  · exact ⟨rfl, h.query⟩
  · exact ⟨rfl, h.label⟩
  · exact ⟨rfl, (h.group g hg).2⟩
  · exact ⟨rfl, Schema.getLast?_ne_slash_of_forall (h.isSpecial_of_mem_order ho)⟩
  · exact ⟨rfl, Schema.getLast?_ne_slash_of_forall (isSpecial_of_mem_page p)⟩

/-- A draft that took over what a level has under some keys. -/
def Draft.takeOver (level : Level) (keys : List (List Char)) (draft : Draft) : Draft where
  query := if keys.contains ['q'] then some level.query.source else draft.query
  label := if keys.contains ['d'] then some level.label.source else draft.label
  group := if keys.contains ['g'] then level.group else draft.group
  order := if keys.contains ['o'] then level.order else draft.order
  page := if keys.contains ['l'] then level.page else draft.page

/-- Keys may be taken over one after the other. -/
theorem Draft.takeOver_cons (level : Level) (key : List Char) (keys : List (List Char)) (draft : Draft) :
    (draft.takeOver level [key]).takeOver level keys = draft.takeOver level (key :: keys) := by
  have hor : ∀ {α : Type} (k : List Char) (new old : α),
      (if keys.contains k then new else if [key].contains k then new else old) =
        if (key :: keys).contains k then new else old := by
    intro α k new old
    have hcons : (key :: keys).contains k = ([key].contains k || keys.contains k) := by
      simp only [List.contains_cons, List.contains_nil, Bool.or_false]
    rw [hcons]
    cases keys.contains k <;> cases [key].contains k <;> rfl
  simp only [takeOver, hor]

/-- An attribute of a level is taken over. -/
theorem Writable.put (h : level.Writable) {a : List Char × List Char} (ha : a ∈ level.written) (number : Nat)
    (draft : Draft) : draft.put number a = .ok (draft.takeOver level [a.1]) := by
  rcases mem_written_iff.mp ha with rfl | rfl | ⟨g, hg, rfl⟩ | ⟨o, ho, rfl⟩ | ⟨p, hp, rfl⟩
  · simp [Draft.put, Draft.takeOver]
  · simp [Draft.put, Draft.takeOver]
  · simp [Draft.put, Draft.takeOver, Option.mem_def.mp hg]
  · simp [Draft.put, Draft.takeOver, h.order?_text ho, Option.mem_def.mp ho]
  · have hpage := page?_text (h.page p hp).1 (h.page p hp).2
    simp [Draft.put, Draft.takeOver, hpage, Option.mem_def.mp hp]

/-- Attributes of a level are taken over, each under its key. -/
theorem Writable.foldlM_put (h : level.Writable) {as : List (List Char × List Char)} (has : ∀ a ∈ as, a ∈ level.written)
    (number : Nat) (draft : Draft) :
    as.foldlM (Draft.put number) draft = .ok (draft.takeOver level (as.map Prod.fst)) := by
  induction as generalizing draft with
  | nil => simp [Draft.takeOver, pure, Except.pure]
  | cons a as ih =>
    rw [List.foldlM_cons, h.put (has a List.mem_cons_self)]
    have hrest := ih (fun x hx => has x (List.mem_cons_of_mem a hx)) (draft.takeOver level [a.1])
    rw [Draft.takeOver_cons] at hrest
    exact hrest

/-- A level is what a draft describes that took over all of it. -/
theorem Writable.finish (h : level.Writable) (number : Nat) :
    Draft.finish number ⟨some level.query.source, some level.label.source, level.group, level.order, level.page⟩ =
      .ok level := by
  have hgroup : level.group.filter (fun g => decide (g ≠ "")) = level.group := by
    cases hg : level.group with
    | none => rfl
    | some g =>
      rw [Option.filter_some, if_pos]
      exact decide_eq_true (h.group g hg).1
  rw [Draft.finish, hgroup]

/-- **A level is read back** from its attributes, in whatever order they are written. -/
theorem Writable.ofText_attributesText (h : level.Writable) {as : List (List Char × List Char)}
    (has : as.Perm level.written) (number : Nat) : ofText number (Schema.attributesText as) = .ok level := by
  have hmem : ∀ a ∈ as, a ∈ level.written := fun a ha => has.mem_iff.mp ha
  -- what a level lacks has no attribute and is missing in the draft from the start
  have hkeys : ∀ key, (as.map Prod.fst).contains key = (level.written.map Prod.fst).contains key := by
    intro key
    rw [Bool.eq_iff_iff, List.contains_iff_mem, List.contains_iff_mem]
    exact (has.map Prod.fst).mem_iff
  have hdraft : (⟨none, none, none, none, none⟩ : Draft).takeOver level (as.map Prod.fst) =
      ⟨some level.query.source, some level.label.source, level.group, level.order, level.page⟩ := by
    simp only [Draft.takeOver, hkeys]
    cases hgroup : level.group <;> cases horder : level.order <;> cases hpage : level.page <;>
      simp [written, hgroup, horder, hpage]
  rw [ofText, Schema.attributes_attributesText fun a ha => h.readable (hmem a ha), h.foldlM_put hmem, hdraft]
  exact h.finish number

/-- No quote in the texts of a level stands behind an odd number of backslashes. -/
structure QuotesBare (level : Level) : Prop where
  query : Schema.QuotesBare level.query.source.toList
  label : Schema.QuotesBare level.label.source.toList
  group : ∀ g ∈ level.group, Schema.QuotesBare g.toList

/-- Then none does in its attributes. -/
theorem QuotesBare.of_mem_written (h : level.QuotesBare) (hw : level.Writable) {a : List Char × List Char}
    (ha : a ∈ level.written) : Schema.QuotesBare a.2 := by
  rcases mem_written_iff.mp ha with rfl | rfl | ⟨g, hg, rfl⟩ | ⟨o, ho, rfl⟩ | ⟨p, hp, rfl⟩
  · exact h.query
  · exact h.label
  · exact h.group g hg
  · exact Schema.quotesBare_of_forall (hw.isSpecial_of_mem_order ho)
  · exact Schema.quotesBare_of_forall (isSpecial_of_mem_page p)

end Level

/-! ## Schemas -/

/-- A level with the order in which its attributes are written. -/
structure WrittenLevel where
  level : Level
  attributes : List (List Char × List Char)
  perm : attributes.Perm level.written

namespace WrittenLevel

/-- A level as it is written. -/
def text (l : WrittenLevel) : List Char := Schema.attributesText l.attributes

/-- A schema as it is written. -/
def schemaText (levels : List WrittenLevel) : String := String.ofList (['/'].intercalate (levels.map text))

/-- Levels are read back one after the other. -/
theorem levelsFrom_map_text {levels : List WrittenLevel} (h : ∀ l ∈ levels, l.level.Writable) (number : Nat) :
    Schema.levelsFrom number (levels.map text) = .ok (levels.map level) := by
  induction levels generalizing number with
  | nil => rfl
  | cons l levels ih =>
    have hl := (h l List.mem_cons_self).ofText_attributesText l.perm number
    have hlevels := ih (fun x hx => h x (List.mem_cons_of_mem l hx)) (number + 1)
    rw [List.map_cons, Schema.levelsFrom, text, hl, hlevels]
    rfl

/-- What comes first stands at the start. -/
theorem prefix_intercalate (sep s : List Char) (texts : List (List Char)) : s <+: sep.intercalate (s :: texts) := by
  cases texts with
  | nil => exact ⟨[], by rw [List.intercalate_singleton, List.append_nil]⟩
  | cons t texts =>
    rw [List.intercalate_cons_cons, List.append_assoc]
    exact List.prefix_append s _

/-- A schema with levels is not blank. -/
theorem not_blank {levels : List WrittenLevel} (hne : levels ≠ []) :
    Text.trimChars (['/'].intercalate (levels.map text)) ≠ [] := by
  obtain ⟨l, levels, rfl⟩ := List.exists_cons_of_ne_nil hne
  have hattributes : l.attributes ≠ [] := by
    intro hnil
    have hq : (['q'], l.level.query.source.toList) ∈ l.attributes :=
      l.perm.mem_iff.mpr (Level.mem_written_iff.mpr (.inl rfl))
    rw [hnil] at hq
    cases hq
  obtain ⟨a, as, has⟩ := List.exists_cons_of_ne_nil hattributes
  have hattribute : Schema.attributeText a <+: l.text := by
    rw [text, has]
    exact prefix_intercalate _ _ _
  have hequals : '=' ∈ Schema.attributeText a := List.mem_append_right _ List.mem_cons_self
  refine Text.trimChars_ne_nil (c := '=') ?_ (by decide)
  exact (prefix_intercalate _ _ _).subset (hattribute.subset hequals)

/-- **Schemas are read back.** A schema is cut exactly at its levels if and only if its texts are
kept apart; then exactly its levels are read, in order. That is so whenever no quote in a value
stands behind an odd number of backslashes, whatever slashes there are. -/
theorem ofText_schemaText {levels : List WrittenLevel} (hne : levels ≠ []) (h : ∀ l ∈ levels, l.level.Writable) :
    (Schema.levelTexts (schemaText levels).toList = levels.map text ↔ Schema.CutApart (levels.map text)) ∧
      (Schema.CutApart (levels.map text) →
        Schema.ofText (schemaText levels) = .ok ⟨schemaText levels, levels.map level⟩) ∧
      ((∀ l ∈ levels, l.level.QuotesBare) → Schema.CutApart (levels.map text)) := by
  have htexts : levels.map text ≠ [] := mt List.map_eq_nil_iff.mp hne
  have hcut : Schema.levelTexts (schemaText levels).toList = levels.map text ↔ Schema.CutApart (levels.map text) := by
    rw [schemaText, String.toList_ofList]
    exact Schema.levelTexts_intercalate_iff htexts
  refine ⟨hcut, fun happart => ?_, fun hbare => ?_⟩
  · have hblank : (Text.trimChars (schemaText levels).toList).isEmpty = false := by
      rw [schemaText, String.toList_ofList, List.isEmpty_eq_false_iff]
      exact not_blank hne
    rw [Schema.ofText, hblank, hcut.mpr happart, levelsFrom_map_text h]
    rfl
  · refine Schema.cutApart_of_forall fun s hs => ?_
    obtain ⟨l, hl, rfl⟩ := List.mem_map.mp hs
    have hwritten : ∀ a ∈ l.attributes, a ∈ l.level.written := fun a ha => l.perm.mem_iff.mp ha
    exact Schema.after?_attributesText (fun a ha => (h l hl).readable (hwritten a ha))
      fun a ha => (hbare l hl).of_mem_written (h l hl) (hwritten a ha)

/-- A level of series in which slashes and quotes stand, its attributes in an order of their own. -/
def seriesLevel : WrittenLevel where
  level :=
    { query := ⟨"kind.Equals(series), title.Contains(AC/DC \"live\")"⟩
      label := ⟨"$title/$year"⟩
      group := some "a/b"
      order := some ⟨.ofName "year", .numberDescending⟩
      page := some ⟨25, 50⟩ }
  attributes :=
    [("o".toList, "-year:num".toList), ("d".toList, "$title/$year".toList), ("l".toList, "50,25".toList),
      ("g".toList, "a/b".toList), ("q".toList, "kind.Equals(series), title.Contains(AC/DC \"live\")".toList)]
  perm := by decide

/-- A level of episodes with nothing but its query and its labels. -/
def episodeLevel : WrittenLevel where
  level := ⟨⟨"series.Equals($prev[1].pkey)"⟩, ⟨"$number\\$title"⟩, none, none, none⟩
  attributes := [("q".toList, "series.Equals($prev[1].pkey)".toList), ("d".toList, "$number\\$title".toList)]
  perm := by decide

/-- A schema of two levels, with slashes, quotes and a backslash in their values, is read back. -/
theorem ofText_schemaText_of_slashes :
    let levels := [seriesLevel, episodeLevel]
    levels ≠ [] ∧ (∀ l ∈ levels, l.level.Writable) ∧ (∀ l ∈ levels, l.level.QuotesBare) ∧
      Schema.ofText (schemaText levels) = .ok ⟨schemaText levels, levels.map level⟩ := by
  have hseries : seriesLevel.level.Writable := by
    refine ⟨by decide, by decide, ?_, ?_, ?_⟩
    · rintro _ ⟨⟩
      decide
    · rintro _ ⟨⟩
      exact ⟨"year".toList, by decide, rfl⟩
    · rintro _ ⟨⟩
      decide
  have hepisode : episodeLevel.level.Writable := ⟨by decide, by decide, nofun, nofun, nofun⟩
  have hseriesBare : seriesLevel.level.QuotesBare := by
    refine ⟨by decide, by decide, ?_⟩
    rintro _ ⟨⟩
    decide
  have hepisodeBare : episodeLevel.level.QuotesBare := ⟨by decide, by decide, nofun⟩
  have hwritable : ∀ l ∈ [seriesLevel, episodeLevel], l.level.Writable :=
    List.forall_mem_cons.mpr ⟨hseries, List.forall_mem_singleton.mpr hepisode⟩
  have hbare : ∀ l ∈ [seriesLevel, episodeLevel], l.level.QuotesBare :=
    List.forall_mem_cons.mpr ⟨hseriesBare, List.forall_mem_singleton.mpr hepisodeBare⟩
  have hlevels : [seriesLevel, episodeLevel] ≠ [] := List.cons_ne_nil _ _
  obtain ⟨-, hread, happart⟩ := ofText_schemaText hlevels hwritable
  exact ⟨hlevels, hwritable, hbare, hread (happart hbare)⟩

/-- A level whose query holds a quote behind a backslash. -/
def hiddenQuoteLevel : WrittenLevel where
  level := ⟨⟨"title.Equals(A\\\"/B)"⟩, ⟨"$title"⟩, none, none, none⟩
  attributes := [("q".toList, "title.Equals(A\\\"/B)".toList), ("d".toList, "$title".toList)]
  perm := by decide

/-- A quote behind a backslash lets the level be cut at the slash in its query: its quotes are never
closed in the first part, so no query is found there. -/
theorem ofText_schemaText_ne_of_hidden_quote :
    hiddenQuoteLevel.level.Writable ∧
      Schema.ofText (schemaText [hiddenQuoteLevel]) = .error (.noQuery 1) := by
  refine ⟨⟨by decide, by decide, nofun, nofun, nofun⟩, ?_⟩
  have htext : (schemaText [hiddenQuoteLevel]).toList =
      "q=\"title.Equals(A\\\\\"/B)\", d=\"$title\"".toList := by decide
  have hcut : Schema.levelTexts "q=\"title.Equals(A\\\\\"/B)\", d=\"$title\"".toList =
      ["q=\"title.Equals(A\\\\\"".toList, "B)\", d=\"$title\"".toList] := by decide
  have hattributes : Schema.attributes "q=\"title.Equals(A\\\\\"".toList = [] := by decide +kernel
  have hfirst : Level.ofText 1 "q=\"title.Equals(A\\\\\"".toList = .error (.noQuery 1) := by
    rw [Level.ofText, hattributes]
    rfl
  have hblank : (Text.trimChars "q=\"title.Equals(A\\\\\"/B)\", d=\"$title\"".toList).isEmpty = false := by
    decide
  rw [Schema.ofText, htext, hblank, hcut, Schema.levelsFrom, hfirst]
  rfl

end WrittenLevel

end MediaCatalog
