import MediaCatalog.Schema.Basic
import MediaCatalog.Proofs.Query.Clauses
import MediaCatalog.Proofs.Schema.Quoting

/-!
# Stray text in schemas

Text around the attributes of a level has no meaning for the attributes. But the cutting of levels takes any quote for the
beginning of a value, so stray text that leaves a quote open hides the end of its level.

* `Stray`: text that can stand around attributes; `Closed`: text that leaves no quote open.
* **Attributes** (`attributes_append_of_stray`): the reader of attributes passes over stray text.
* `Gap`, `StrewnLevel`: a level with stray text anywhere around its attributes, and without it.
* **Levels** (`StrewnLevel.levels_ofText_text`): if a schema is cut at its levels with and without the stray text, both are
  read the same. It is cut there if what stands around the attributes is closed (`StrewnLevel.cutApart_write`).
* `Ignored`: a kind of text that changes nothing wherever it stands.
* **Main result** (`ignored_iff_closed`): a kind of stray text is ignored exactly if it is closed.
-/

namespace MediaCatalog.Schema

/-! ## Stray text -/

/-- Text that can stand around attributes: it ends no level, and no key begins in it. -/
structure Stray (j : List Char) : Prop where
  no_slash : '/' ∉ j
  no_key : ∀ before key after, j = before ++ (key ++ '=' :: '"' :: after) → Text.isIdent key = false
  ends : ∀ c ∈ j.getLast?, Text.isIdentChar c = false

/-- Text behind which the cutting of levels stands outside quotes as before. -/
def Closed (j : List Char) : Prop := QuoteState.outside.after? j = some .outside

/-- Whether a text is closed can be decided. -/
instance (j : List Char) : Decidable (Closed j) := inferInstanceAs (Decidable (_ = _))

/-- No text is stray text. -/
theorem stray_nil : Stray [] := by
  refine ⟨List.not_mem_nil, fun before key after h => ?_, by simp⟩
  have hequals : '=' ∈ before ++ (key ++ '=' :: '"' :: after) := by simp
  rw [← h] at hequals
  cases hequals

/-- The rest of stray text is stray text. -/
theorem Stray.tail {c : Char} {j : List Char} (h : Stray (c :: j)) : Stray j where
  no_slash := fun hmem => h.no_slash (List.mem_cons_of_mem c hmem)
  no_key := by
    rintro before key after rfl
    exact h.no_key (c :: before) key after rfl
  ends := by
    intro d hd
    refine h.ends d ?_
    rw [List.getLast?_cons, Option.mem_def.mp hd]
    rfl

/-- Stray text is no run of identifier characters. -/
theorem Stray.not_ident {j : List Char} (h : Stray j) (hne : j ≠ []) : ∃ c ∈ j, Text.isIdentChar c = false := by
  obtain ⟨c, hc⟩ := Option.ne_none_iff_exists'.mp (mt List.getLast?_eq_none_iff.mp hne)
  exact ⟨c, List.mem_of_getLast? hc, h.ends c hc⟩

/-- **No key begins in stray text**, if no quote follows that could end it. -/
theorem Stray.attributeKey?_append {j rest : List Char} (h : Stray j) (hne : j ≠ []) (hrest : rest.head? ≠ some '"') :
    attributeKey? (j ++ rest) = none := by
  rw [Option.eq_none_iff_forall_ne_some]
  rintro ⟨key, r⟩ hfound
  have hkey := isIdent_of_attributeKey? hfound
  rcases List.append_eq_append_iff.mp (attributeKey?_eq_some hfound) with ⟨more, rfl, -⟩ | ⟨more, rfl, hmore⟩
  · -- the stray text would be a part of the key
    obtain ⟨c, hc, hident⟩ := h.not_ident hne
    rw [(Text.isIdent_iff.mp hkey).2 c (List.mem_append_left more hc)] at hident
    cases hident
  · match more, hmore with
    | [], hmore =>
      obtain ⟨c, hc, hident⟩ := h.not_ident hne
      rw [(Text.isIdent_iff.mp hkey).2 c (by simpa using hc)] at hident
      cases hident
    | [c], hmore =>
      -- the quote would be the first character that follows
      have hquote : '"' :: r = rest := (List.cons.inj hmore).2
      exact hrest (by rw [← hquote, List.head?_cons])
    | c :: d :: more, hmore =>
      have hsplit : '=' :: '"' :: r = c :: d :: (more ++ rest) := hmore
      cases hsplit
      rw [h.no_key [] key more rfl] at hkey
      cases hkey

/-- **The reader of attributes passes over stray text.** -/
theorem attributes_append_of_stray {j rest : List Char} (h : Stray j) (hrest : rest.head? ≠ some '"') :
    attributes (j ++ rest) = attributes rest := by
  induction j with
  | nil => rfl
  | cons c j ih =>
    have hkey := h.attributeKey?_append (List.cons_ne_nil c j) hrest
    rw [List.cons_append] at hkey ⊢
    rw [attributes_of_no_key hkey, ih h.tail]

/-! ## Levels with stray text -/

/-- What stands between two attributes or at an end of a level: separators, and other text among them. -/
structure Gap where
  before : List Char
  stray : List Char
  after : List Char
  before_separates : ∀ c ∈ before, Text.isSeparator c = true
  after_separates : ∀ c ∈ after, Text.isSeparator c = true

namespace Gap

/-- A gap as it is written. -/
def text (g : Gap) : List Char := g.before ++ (g.stray ++ g.after)

/-- A gap without its stray text. -/
def clean (g : Gap) : List Char := g.before ++ g.after

/-- Nothing is made of separators. -/
theorem nil_separates : ∀ c ∈ [], Text.isSeparator c = true := List.forall_mem_nil _

/-- A gap of nothing but some text. -/
def ofStray (j : List Char) : Gap := ⟨[], j, [], nil_separates, nil_separates⟩

end Gap

/-- A level: attributes with something in front of the first one and behind each. -/
structure StrewnLevel where
  lead : Gap
  items : List ((List Char × List Char) × Gap)
  readable : ∀ i ∈ items, Readable i.1

/-- No separator means anything to the cutting of levels. -/
theorem ne_of_isSeparator {c : Char} (h : Text.isSeparator c = true) : c ≠ '"' ∧ c ≠ '/' := by
  refine ⟨?_, ?_⟩ <;>
    · rintro rfl
      exact absurd h (by decide)

/-- Separators begin no key. -/
theorem attributes_append_of_separators {s : List Char} (h : ∀ c ∈ s, Text.isSeparator c = true) (rest : List Char) :
    attributes (s ++ rest) = attributes rest := by
  induction s with
  | nil => rfl
  | cons c s ih =>
    have hc : Text.isIdentChar c = false := by
      rw [Bool.eq_false_iff]
      intro hident
      have hsep := h c List.mem_cons_self
      rw [Query.isSeparator_eq_false hident] at hsep
      cases hsep
    rw [List.cons_append, attributes_of_not_isIdentChar hc, ih fun d hd => h d (List.mem_cons_of_mem c hd)]

/-- Separators are closed. -/
theorem closed_of_separators {s : List Char} (h : ∀ c ∈ s, Text.isSeparator c = true) : Closed s :=
  after?_outside_of_forall fun c hc => ne_of_isSeparator (h c hc)

/-- Closed texts one behind the other are closed. -/
theorem Closed.append {s t : List Char} (hs : Closed s) (ht : Closed t) : Closed (s ++ t) := by
  rw [Closed, QuoteState.after?_append, hs, Option.bind_some]
  exact ht

/-- What may stand around attributes: text over which their reader passes. -/
def PassedOver (s : List Char) : Prop := ∀ rest : List Char, rest.head? ≠ some '"' → attributes (s ++ rest) = attributes rest

namespace Gap

variable {g : Gap}

/-- The reader of attributes passes over a gap without stray text. -/
theorem passedOver_clean (g : Gap) : PassedOver g.clean := by
  intro rest _
  rw [clean, List.append_assoc, attributes_append_of_separators g.before_separates,
    attributes_append_of_separators g.after_separates]

/-- The reader of attributes passes over a gap with stray text. -/
theorem passedOver_text (h : Stray g.stray) : PassedOver g.text := by
  intro rest hrest
  have hafter : (g.after ++ rest).head? ≠ some '"' := by
    cases hg : g.after with
    | nil => exact hrest
    | cons c s =>
      intro hquote
      have hc : Text.isSeparator c = true := g.after_separates c (hg ▸ List.mem_cons_self)
      exact (ne_of_isSeparator hc).1 (Option.some.inj hquote)
  rw [text, List.append_assoc, List.append_assoc, attributes_append_of_separators g.before_separates,
    attributes_append_of_stray h hafter, attributes_append_of_separators g.after_separates]

/-- A gap without stray text is closed. -/
theorem closed_clean (g : Gap) : Closed g.clean :=
  (closed_of_separators g.before_separates).append (closed_of_separators g.after_separates)

/-- A gap is closed if its stray text is. -/
theorem closed_text (h : Closed g.stray) : Closed g.text :=
  (closed_of_separators g.before_separates).append (h.append (closed_of_separators g.after_separates))

end Gap

namespace StrewnLevel

/-- The attributes of a level. -/
def attributes (l : StrewnLevel) : List (List Char × List Char) := l.items.map Prod.fst

/-- The gaps of a level. -/
def gaps (l : StrewnLevel) : List Gap := l.lead :: l.items.map Prod.snd

/-- No quote in the values of a level stands behind an odd number of backslashes. -/
def Bare (l : StrewnLevel) : Prop := ∀ i ∈ l.items, QuotesBare i.1.2

/-- Attributes, each with its gap behind it; `gapText` says how a gap is written. -/
def itemsText (gapText : Gap → List Char) (items : List ((List Char × List Char) × Gap)) : List Char :=
  items.flatMap fun i => attributeText i.1 ++ gapText i.2

/-- A level as it is written. -/
def write (gapText : Gap → List Char) (l : StrewnLevel) : List Char := gapText l.lead ++ itemsText gapText l.items

/-- A schema as it is written. -/
def schemaText (gapText : Gap → List Char) (levels : List StrewnLevel) : String :=
  String.ofList (['/'].intercalate (levels.map (write gapText)))

variable {gapText : Gap → List Char} {l : StrewnLevel}

/-- What begins with attributes begins with no quote. -/
theorem head?_itemsText {items : List ((List Char × List Char) × Gap)} (h : ∀ i ∈ items, Readable i.1) {rest : List Char}
    (hrest : rest.head? ≠ some '"') : (itemsText gapText items ++ rest).head? ≠ some '"' := by
  cases items with
  | nil => exact hrest
  | cons i items =>
    obtain ⟨hne, hident⟩ := Text.isIdent_iff.mp (h i List.mem_cons_self).key
    obtain ⟨c, key, hkey⟩ := List.exists_cons_of_ne_nil hne
    have hhead : (itemsText gapText (i :: items) ++ rest).head? = some c := by
      simp [itemsText, attributeText, hkey]
    rw [hhead]
    intro hquote
    have hc := hident c (hkey ▸ List.mem_cons_self)
    rw [Option.some.inj hquote] at hc
    exact absurd hc (by decide)

/-- Attributes are read back whatever stands between them that is passed over. -/
theorem attributes_itemsText {items : List ((List Char × List Char) × Gap)} (h : ∀ i ∈ items, Readable i.1)
    (hgaps : ∀ i ∈ items, PassedOver (gapText i.2)) {rest : List Char} (hrest : rest.head? ≠ some '"') :
    Schema.attributes (itemsText gapText items ++ rest) = items.map Prod.fst ++ Schema.attributes rest := by
  induction items with
  | nil => rfl
  | cons i items ih =>
    have hitems : ∀ x ∈ items, Readable x.1 := fun x hx => h x (List.mem_cons_of_mem i hx)
    have hread := ih hitems fun x hx => hgaps x (List.mem_cons_of_mem i hx)
    have htext : itemsText gapText (i :: items) ++ rest =
        attributeText i.1 ++ (gapText i.2 ++ (itemsText gapText items ++ rest)) := by
      simp [itemsText]
    rw [htext, attributes_attributeText (h i List.mem_cons_self),
      hgaps i List.mem_cons_self _ (head?_itemsText hitems hrest), hread]
    rfl

/-- **The attributes of a level** are read back whatever stands around them that is passed over. -/
theorem attributes_write_append (hgaps : ∀ g ∈ l.gaps, PassedOver (gapText g)) {rest : List Char}
    (hrest : rest.head? ≠ some '"') :
    Schema.attributes (l.write gapText ++ rest) = l.attributes ++ Schema.attributes rest := by
  obtain ⟨hlead, hitems⟩ := List.forall_mem_cons.mp hgaps
  rw [List.forall_mem_map] at hitems
  rw [write, List.append_assoc, hlead _ (head?_itemsText l.readable hrest), attributes_itemsText l.readable hitems hrest]
  rfl

/-- The same for a level by itself. -/
theorem attributes_write (hgaps : ∀ g ∈ l.gaps, PassedOver (gapText g)) : Schema.attributes (l.write gapText) = l.attributes := by
  have hnil : Schema.attributes [] = [] := by rw [Schema.attributes]
  have hread : Schema.attributes (l.write gapText ++ []) = l.attributes ++ Schema.attributes [] :=
    attributes_write_append hgaps (by simp)
  rwa [List.append_nil, hnil, List.append_nil] at hread

/-- Attributes and closed text between them are closed. -/
theorem closed_itemsText {items : List ((List Char × List Char) × Gap)} (h : ∀ i ∈ items, Readable i.1)
    (hbare : ∀ i ∈ items, QuotesBare i.1.2) (hgaps : ∀ i ∈ items, Closed (gapText i.2)) :
    Closed (itemsText gapText items) := by
  induction items with
  | nil => rfl
  | cons i items ih =>
    rw [List.forall_mem_cons] at h hbare hgaps
    have hattribute : Closed (attributeText i.1) := after?_attributeText h.1 hbare.1
    exact (hattribute.append hgaps.1).append (ih h.2 hbare.2 hgaps.2)

/-- **A level is closed** if what stands around its attributes is. -/
theorem closed_write (hbare : l.Bare) (hgaps : ∀ g ∈ l.gaps, Closed (gapText g)) : Closed (l.write gapText) := by
  obtain ⟨hlead, hitems⟩ := List.forall_mem_cons.mp hgaps
  rw [List.forall_mem_map] at hitems
  exact hlead.append (closed_itemsText l.readable hbare hitems)

/-! ## Schemas -/

/-- A schema is blank only if it has no attribute and no second level. -/
theorem schemaText_not_blank {levels : List StrewnLevel} (h : levels.map attributes ≠ [[]]) (hne : levels ≠ []) :
    Text.trimChars (schemaText gapText levels).toList ≠ [] := by
  rw [schemaText, String.toList_ofList]
  match levels, h with
  | [l], h =>
    obtain ⟨i, items, hitems⟩ := List.exists_cons_of_ne_nil (l := l.items) fun hnil => h (by simp [attributes, hnil])
    refine Text.trimChars_ne_nil (c := '=') ?_ (by decide)
    simp [write, itemsText, attributeText, hitems]
  | l :: l' :: levels, _ =>
    refine Text.trimChars_ne_nil (c := '/') ?_ (by decide)
    simp [List.intercalate_cons_cons]

end StrewnLevel

/-- The levels of a schema that is not blank are those of its level texts. -/
theorem levels_ofText {text : String} (h : Text.trimChars text.toList ≠ []) :
    (ofText text).map levels = levelsFrom 1 (levelTexts text.toList) := by
  have hblank : (Text.trimChars text.toList).isEmpty = false := List.isEmpty_eq_false_iff.mpr h
  rw [ofText, hblank]
  cases levelsFrom 1 (levelTexts text.toList) <;> rfl

/-- Levels depend on the attributes in their texts only. -/
theorem levelsFrom_congr {texts texts' : List (List Char)} (h : texts.map attributes = texts'.map attributes) (number : Nat) :
    levelsFrom number texts = levelsFrom number texts' := by
  induction texts generalizing texts' number with
  | nil => rw [List.map_eq_nil_iff.mp h.symm]
  | cons text texts ih =>
    cases texts' with
    | nil => cases h
    | cons text' texts' =>
      obtain ⟨hfirst, hrest⟩ := List.cons.inj h
      rw [levelsFrom, levelsFrom, Level.ofText, Level.ofText, hfirst, ih hrest]

namespace StrewnLevel

/-- Levels are kept apart if what stands around their attributes is closed. -/
theorem cutApart_write {gapText : Gap → List Char} {levels : List StrewnLevel} (hbare : ∀ l ∈ levels, l.Bare)
    (hclosed : ∀ l ∈ levels, ∀ g ∈ l.gaps, Closed (gapText g)) : CutApart (levels.map (write gapText)) :=
  cutApart_of_forall (List.forall_mem_map.mpr fun l hl => closed_write (hbare l hl) (hclosed l hl))

/-- **The levels of a schema** are those of its level texts if these are kept apart. -/
theorem levels_ofText_write {gapText : Gap → List Char} {levels : List StrewnLevel} (h : levels.map attributes ≠ [[]])
    (hne : levels ≠ []) (happart : CutApart (levels.map (write gapText))) :
    (ofText (schemaText gapText levels)).map Schema.levels = levelsFrom 1 (levels.map (write gapText)) := by
  have hcut : levelTexts (schemaText gapText levels).toList = levels.map (write gapText) := by
    rw [schemaText, String.toList_ofList]
    exact (levelTexts_intercalate_iff (mt List.map_eq_nil_iff.mp hne)).mpr happart
  rw [levels_ofText (schemaText_not_blank h hne), hcut]

/-- **Stray text does not matter** as long as it keeps the levels apart. -/
theorem levels_ofText_text {levels : List StrewnLevel} (h : levels.map attributes ≠ [[]])
    (hstray : ∀ l ∈ levels, ∀ g ∈ l.gaps, Stray g.stray) (htext : CutApart (levels.map (write Gap.text)))
    (hclean : CutApart (levels.map (write Gap.clean))) :
    (ofText (schemaText Gap.text levels)).map Schema.levels = (ofText (schemaText Gap.clean levels)).map Schema.levels := by
  by_cases hne : levels = []
  · rw [hne]
    rfl
  · rw [levels_ofText_write h hne htext, levels_ofText_write h hne hclean]
    refine levelsFrom_congr ?_ 1
    rw [List.map_map, List.map_map]
    refine List.map_congr_left fun l hl => ?_
    have hread : Schema.attributes (l.write Gap.text) = l.attributes :=
      attributes_write fun g hg => g.passedOver_text (hstray l hl g hg)
    have hswept : Schema.attributes (l.write Gap.clean) = l.attributes := attributes_write fun g _ => g.passedOver_clean
    exact hread.trans hswept.symm

end StrewnLevel

/-! ## Text that is ignored -/

open StrewnLevel (schemaText)

/-- Texts of a kind are ignored: in whatever schema they stand around attributes, it has the same levels, or the same error,
without them. The schema has an attribute or a second level, and no quote in its values stands behind an odd number of
backslashes. -/
def Ignored (kind : List Char → Prop) : Prop :=
  ∀ levels : List StrewnLevel, levels.map StrewnLevel.attributes ≠ [[]] → (∀ l ∈ levels, l.Bare) →
    (∀ l ∈ levels, ∀ g ∈ l.gaps, kind g.stray) →
    (ofText (schemaText Gap.text levels)).map Schema.levels = (ofText (schemaText Gap.clean levels)).map Schema.levels

/-- No level ends in a text without slashes. -/
theorem QuoteState.after?_ne_none {s : List Char} (h : '/' ∉ s) (state : QuoteState) : state.after? s ≠ none := by
  induction s generalizing state with
  | nil => exact Option.some_ne_none state
  | cons c s ih =>
    obtain ⟨hc, hs⟩ := List.ne_and_not_mem_of_not_mem_cons h
    have hnext : ∃ state', state.next? c = some state' := by
      cases state with
      | outside => by_cases hquote : c = '"' <;> simp [next?, hquote, Ne.symm hc]
      | inside => by_cases hslash : c = '\\' <;> by_cases hquote : c = '"' <;> simp [next?, hslash, hquote]
      | hidden => exact ⟨_, rfl⟩
    obtain ⟨state', hnext⟩ := hnext
    rw [after?_cons, hnext, Option.bind_some]
    exact ih hs state'

/-- **Stray text that is not closed** takes the slash behind it for part of a value. -/
theorem Stray.after?_slash {j : List Char} (h : Stray j) (hopen : ¬Closed j) :
    QuoteState.outside.after? (j ++ ['/']) = some .inside := by
  obtain ⟨state, hstate⟩ := Option.ne_none_iff_exists'.mp (QuoteState.after?_ne_none h.no_slash .outside)
  rw [QuoteState.after?_append, hstate, Option.bind_some]
  cases state with
  | outside => exact absurd hstate hopen
  | inside => rfl
  | hidden => rfl

/-- A text at which no level ends is one level. -/
theorem levelTexts_eq_singleton {s : List Char} (h : QuoteState.outside.after? s ≠ none) : levelTexts s = [s] := by
  have hone := (levelTexts_intercalate_iff (List.cons_ne_nil s [])).mpr h
  rwa [List.intercalate_singleton] at hone

/-- The attributes of a level of shows. -/
def showAttributes : List (List Char × List Char) := [(['q'], "kind.Equals(show)".toList), (['d'], "$title".toList)]

/-- A level of shows with some text at its end. -/
def showLevel (j : List Char) : StrewnLevel where
  lead := .ofStray []
  items := showAttributes.zip [.ofStray [], .ofStray j]
  readable := by
    refine List.forall_mem_cons.mpr ⟨⟨rfl, ?_⟩, List.forall_mem_singleton.mpr ⟨rfl, ?_⟩⟩ <;>
      simp

/-- No quote in the values of that level stands behind a backslash. -/
theorem bare_showLevel (j : List Char) : (showLevel j).Bare := by
  refine List.forall_mem_cons.mpr ⟨?_, List.forall_mem_singleton.mpr ?_⟩ <;>
    exact quotesBare_of_forall (by simp [isSpecial])

/-- The only stray text in that level is that at its end. -/
theorem stray_of_mem_gaps {j : List Char} {g : Gap} (h : g ∈ (showLevel j).gaps) : g.stray = [] ∨ g.stray = j := by
  rcases List.mem_cons.mp h with rfl | h
  · exact .inl rfl
  · rcases List.mem_cons.mp h with rfl | h
    · exact .inl rfl
    · rw [List.mem_singleton.mp h]
      exact .inr rfl

/-- The level that those attributes describe, even if they are written twice. -/
theorem ofText_of_showAttributes {text : List Char} (number : Nat)
    (h : attributes text = showAttributes ∨ attributes text = showAttributes ++ showAttributes) :
    Level.ofText number text = .ok ⟨⟨"kind.Equals(show)"⟩, ⟨"$title"⟩, none, none, none⟩ := by
  rcases h with h | h
  · rw [Level.ofText, h]
    rfl
  · rw [Level.ofText, h]
    rfl

/-- Two levels of shows are two levels. -/
theorem levels_ofText_clean (j : List Char) :
    ((ofText (schemaText Gap.clean [showLevel j, showLevel []])).map Schema.levels).map List.length = .ok 2 := by
  have hattributes : ∀ j', attributes ((showLevel j').write Gap.clean) = showAttributes :=
    fun j' => StrewnLevel.attributes_write fun g _ => g.passedOver_clean
  have happart : CutApart ([showLevel j, showLevel []].map (StrewnLevel.write Gap.clean)) :=
    StrewnLevel.cutApart_write (by simp [bare_showLevel]) fun _ _ g _ => g.closed_clean
  rw [StrewnLevel.levels_ofText_write (by simp) (List.cons_ne_nil _ _) happart, List.map_cons, List.map_cons,
    List.map_nil, levelsFrom, levelsFrom, levelsFrom, ofText_of_showAttributes 1 (.inl (hattributes j)),
    ofText_of_showAttributes 2 (.inl (hattributes []))]
  rfl

/-- **Stray text that is not closed** joins the two levels between which it stands. -/
theorem levels_ofText_of_not_closed {j : List Char} (h : Stray j) (hopen : ¬Closed j) :
    ((ofText (schemaText Gap.text [showLevel j, showLevel []])).map Schema.levels).map List.length = .ok 1 := by
  have htext : (schemaText Gap.text [showLevel j, showLevel []]).toList =
      (showLevel j).write Gap.text ++ '/' :: (showLevel []).write Gap.text := by
    rw [schemaText, String.toList_ofList, List.map_cons, List.map_singleton, List.intercalate_cons_cons,
      List.intercalate_singleton, List.append_assoc]
    rfl
  -- from the open quote on, what stands between values is taken for values
  have hjoin : (showLevel j).write Gap.text ++ ['/'] = (showLevel []).write Gap.text ++ (j ++ ['/']) := by
    simp [StrewnLevel.write, StrewnLevel.itemsText, showLevel, showAttributes, Gap.ofStray, Gap.text]
  have hclosed : QuoteState.outside.after? ((showLevel []).write Gap.text) = some .outside := by decide
  have hrest : QuoteState.inside.after? ((showLevel []).write Gap.text) = some .inside := by decide
  have hcut := levelTexts_eq_singleton (s := (showLevel j).write Gap.text ++ '/' :: (showLevel []).write Gap.text) (by
    rw [List.append_cons, hjoin, QuoteState.after?_append, QuoteState.after?_append, hclosed, Option.bind_some,
      h.after?_slash hopen, Option.bind_some, hrest]
    exact Option.some_ne_none _)
  -- the attributes of both are read from the one level
  have hpassed : ∀ j', Stray j' → ∀ g ∈ (showLevel j').gaps, PassedOver g.text := by
    intro j' hj' g hg
    refine g.passedOver_text ?_
    rcases stray_of_mem_gaps hg with heq | heq
    · exact heq ▸ stray_nil
    · exact heq ▸ hj'
  have hattributes : attributes ((showLevel j).write Gap.text ++ '/' :: (showLevel []).write Gap.text) =
      showAttributes ++ showAttributes := by
    rw [StrewnLevel.attributes_write_append (hpassed j h) (by simp), attributes_of_not_isIdentChar (by decide),
      StrewnLevel.attributes_write (hpassed [] stray_nil)]
    rfl
  rw [levels_ofText (StrewnLevel.schemaText_not_blank (by simp) (List.cons_ne_nil _ _)), htext, hcut, levelsFrom,
    ofText_of_showAttributes 1 (.inr hattributes)]
  rfl

/-- **A kind of stray text is ignored** exactly if all of it is closed. What is closed leaves the cutting of levels outside
quotes, and the reader of attributes passes over it; what is not closed hides the end of a level. And whatever the stray
texts and the values are, a schema is read the same without the former if with them and without them its levels are kept
apart. -/
theorem ignored_iff_closed {kind : List Char → Prop} (hstray : ∀ j, kind j → Stray j) (hnil : kind []) :
    (Ignored kind ↔ ∀ j, kind j → Closed j) ∧
      ∀ levels : List StrewnLevel, levels.map StrewnLevel.attributes ≠ [[]] →
        (∀ l ∈ levels, ∀ g ∈ l.gaps, kind g.stray) → CutApart (levels.map (StrewnLevel.write Gap.text)) →
        CutApart (levels.map (StrewnLevel.write Gap.clean)) →
        (ofText (schemaText Gap.text levels)).map Schema.levels = (ofText (schemaText Gap.clean levels)).map Schema.levels := by
  have hsame : ∀ levels : List StrewnLevel, levels.map StrewnLevel.attributes ≠ [[]] →
      (∀ l ∈ levels, ∀ g ∈ l.gaps, kind g.stray) → CutApart (levels.map (StrewnLevel.write Gap.text)) →
      CutApart (levels.map (StrewnLevel.write Gap.clean)) →
      (ofText (schemaText Gap.text levels)).map Schema.levels = (ofText (schemaText Gap.clean levels)).map Schema.levels :=
    fun levels h hkind => StrewnLevel.levels_ofText_text h fun l hl g hg => hstray _ (hkind l hl g hg)
  refine ⟨⟨fun hignored j hj => ?_, fun hclosed levels h hbare hkind => ?_⟩, hsame⟩
  · by_cases hclosed : Closed j
    · exact hclosed
    · have hkind : ∀ l ∈ [showLevel j, showLevel []], ∀ g ∈ l.gaps, kind g.stray := by
        refine List.forall_mem_cons.mpr ⟨fun g hg => ?_, List.forall_mem_singleton.mpr fun g hg => ?_⟩
        · rcases stray_of_mem_gaps hg with heq | heq
          · exact heq ▸ hnil
          · exact heq ▸ hj
        · rcases stray_of_mem_gaps hg with heq | heq <;> exact heq ▸ hnil
      have hjoined := levels_ofText_of_not_closed (hstray j hj) hclosed
      rw [hignored _ (by simp) (by simp [bare_showLevel]) hkind, levels_ofText_clean] at hjoined
      cases hjoined
  · refine hsame levels h hkind ?_ ?_
    · exact StrewnLevel.cutApart_write hbare fun l hl g hg => g.closed_text (hclosed _ (hkind l hl g hg))
    · exact StrewnLevel.cutApart_write hbare fun l _ g _ => g.closed_clean

/-- Text without slashes and equal signs is stray text if it does not end like a key. -/
theorem stray_of_not_mem {j : List Char} (hslash : '/' ∉ j) (hequals : '=' ∉ j)
    (hends : j.getLast?.any Text.isIdentChar = false) : Stray j := by
  refine ⟨hslash, fun before key after h => ?_, (Option.any_eq_false _ _).mp hends⟩
  exact absurd (by simp [h]) hequals

/-- A remark with quotes, between the attributes of a level and its end. -/
theorem ignored_of_remark :
    let remark := ", the \"old\" shows;".toList
    let kind := fun j => j = [] ∨ j = remark
    (∀ j, kind j → Stray j) ∧ kind [] ∧ Ignored kind ∧
      (ofText "q=\"kind.Equals(show)\"d=\"$title\", the \"old\" shows;/q=\"kind.Equals(show)\"d=\"$title\"").map levels =
        (ofText "q=\"kind.Equals(show)\"d=\"$title\"/q=\"kind.Equals(show)\"d=\"$title\"").map levels := by
  intro remark kind
  have hstray : ∀ j, kind j → Stray j := by
    rintro j (rfl | rfl)
    · exact stray_nil
    · exact stray_of_not_mem (by decide) (by decide) (by decide)
  have hclosed : ∀ j, kind j → Closed j := by
    rintro j (rfl | rfl) <;> decide
  have hignored : Ignored kind := (ignored_iff_closed hstray (.inl rfl)).1.mpr hclosed
  refine ⟨hstray, .inl rfl, hignored, ?_⟩
  refine hignored [showLevel remark, showLevel []] (by simp) (by simp [bare_showLevel]) ?_
  refine List.forall_mem_cons.mpr ⟨fun g hg => stray_of_mem_gaps hg, List.forall_mem_singleton.mpr fun g hg => ?_⟩
  exact (stray_of_mem_gaps hg).elim .inl .inl

/-- An inch sign in a remark opens a quote: the two levels of a schema are read as one. -/
theorem not_ignored_of_inch_sign :
    Stray " (5\" screen)".toList ∧
      (ofText "q=\"kind.Equals(show)\" d=\"$title\" (5\" screen)/q=\"kind.Equals(episode)\" d=\"$title\"").map levels ≠
        (ofText "q=\"kind.Equals(show)\" d=\"$title\"/q=\"kind.Equals(episode)\" d=\"$title\"").map levels := by
  refine ⟨stray_of_not_mem (by decide) (by decide) (by decide), fun h => ?_⟩
  have hlengths := congrArg (fun found => found.toOption.map List.length) h
  revert hlengths
  decide +kernel

end MediaCatalog.Schema
