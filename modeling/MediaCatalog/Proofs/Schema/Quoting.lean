import MediaCatalog.Schema.Attribute
import MediaCatalog.Proofs.Text.Identifier

/-!
# Quoted values and levels

A schema text is read twice: it is first cut into levels, and each level is then read for its
attributes. Both readings follow the quotes, but only the first one takes every backslash inside
quotes to hide the character after it; in the second a backslash matters before a quote only.

* `escape`, `attributeText`, `attributesText`: values, attributes and levels as they are written.
* **Reading attributes** (`attributes_attributesText`): they come back if no value ends in a
  backslash; and none that is read does (`readable_of_mem_attributes`).
* `QuoteState`: what the cutting of levels knows at a character; `CutApart`: the texts that it
  keeps apart.
* **Cutting levels** (`levelTexts_intercalate_iff`): it finds the levels exactly in these texts.
* `QuotesBare`: no quote stands behind an odd number of backslashes. Then both readings agree on
  where the value ends (`after?_attributesText`).
-/

namespace MediaCatalog.Schema

/-! ## Values -/

/-- A value as it is written between quotes. -/
def escape : List Char → List Char
  | [] => []
  | c :: rest => if c = '"' then '\\' :: '"' :: escape rest else c :: escape rest

/-- A quote in a value. -/
theorem escape_quote (v : List Char) : escape ('"' :: v) = '\\' :: '"' :: escape v := if_pos rfl

/-- Any other character of a value. -/
theorem escape_cons {c : Char} (h : c ≠ '"') (v : List Char) : escape (c :: v) = c :: escape v := if_neg h

/-- A character that is no quote, and no backslash in front of one, belongs to the value. -/
theorem value?_cons {c : Char} {rest : List Char} (hquote : c ≠ '"') (hslash : c = '\\' → rest.head? ≠ some '"') :
    value? (c :: rest) = (value? rest).map fun (v, r) => (c :: v, r) := by
  rw [value?]
  · exact fun h => hquote h
  · rintro rest' rfl rfl
    exact hslash rfl rfl

/-- Written text that is followed by a quote begins with one only if there is none of it. -/
theorem head?_escape_append {v : List Char} (h : v ≠ []) (rest : List Char) :
    (escape v ++ rest).head? ≠ some '"' := by
  cases v with
  | nil => exact absurd rfl h
  | cons c v =>
    by_cases hc : c = '"'
    · subst hc
      rw [escape_quote]
      exact fun heq => absurd (Option.some.inj heq) (by decide)
    · rw [escape_cons hc]
      exact fun heq => hc (Option.some.inj heq)

/-- If a text does not end in a backslash, what follows its first character does not either. -/
theorem getLast?_ne_slash_of_cons {c : Char} {v : List Char} (h : (c :: v).getLast? ≠ some '\\') :
    v.getLast? ≠ some '\\' := by
  intro heq
  refine h ?_
  rw [List.getLast?_cons, heq]
  rfl

/-- **A value is read back** up to the quote behind it, unless it ends in a backslash. -/
theorem value?_escape {v : List Char} (h : v.getLast? ≠ some '\\') (rest : List Char) :
    value? (escape v ++ '"' :: rest) = some (v, rest) := by
  induction v with
  | nil => rfl
  | cons c v ih =>
    have hlast := getLast?_ne_slash_of_cons h
    by_cases hc : c = '"'
    · subst hc
      rw [escape_quote, List.cons_append, List.cons_append, value?, ih hlast]
      rfl
    · have hslash : c = '\\' → (escape v ++ '"' :: rest).head? ≠ some '"' := by
        rintro rfl
        refine head?_escape_append ?_ _
        rintro rfl
        exact h rfl
      rw [escape_cons hc, List.cons_append, value?_cons hc hslash, ih hlast]
      rfl

/-- **A value that is read** was written up to the quote behind it, and does not end in a backslash. -/
theorem value?_eq_some_iff {s v rest : List Char} :
    value? s = some (v, rest) ↔ s = escape v ++ '"' :: rest ∧ v.getLast? ≠ some '\\' := by
  refine ⟨fun h => ?_, fun ⟨hs, hlast⟩ => hs ▸ value?_escape hlast rest⟩
  fun_induction value? s generalizing v with
  | case1 => cases h
  | case2 r =>
    cases h
    exact ⟨rfl, by simp⟩
  | case3 r ih =>
    obtain ⟨⟨v', r'⟩, hr, heq⟩ := Option.map_eq_some_iff.mp h
    cases heq
    obtain ⟨rfl, hlast⟩ := ih hr
    refine ⟨by rw [escape_quote]; rfl, ?_⟩
    cases v' with
    | nil => exact fun heq => absurd (Option.some.inj heq) (by decide)
    | cons d v => rwa [List.getLast?_cons_cons]
  | case4 c r hquote hhide ih =>
    obtain ⟨⟨v', r'⟩, hr, heq⟩ := Option.map_eq_some_iff.mp h
    cases heq
    obtain ⟨rfl, hlast⟩ := ih hr
    refine ⟨by rw [escape_cons hquote]; rfl, ?_⟩
    cases v' with
    | nil =>
      -- a backslash in front of the closing quote would be part of an escaped one
      intro heq
      exact hhide _ (Option.some.inj heq) rfl
    | cons d v => rwa [List.getLast?_cons_cons]

/-! ## Attributes -/

/-- An attribute as it is written. -/
def attributeText (a : List Char × List Char) : List Char := a.1 ++ '=' :: '"' :: (escape a.2 ++ ['"'])

/-- Attributes as they are written, with a comma and a blank between them. -/
def attributesText (as : List (List Char × List Char)) : List Char := [',', ' '].intercalate (as.map attributeText)

/-- An attribute that can be read back from its text. -/
structure Readable (a : List Char × List Char) : Prop where
  key : Text.isIdent a.1 = true
  value : a.2.getLast? ≠ some '\\'

/-- A key with its opening quote is found. -/
theorem attributeKey?_append {key : List Char} (h : Text.isIdent key = true) (rest : List Char) :
    attributeKey? (key ++ '=' :: '"' :: rest) = some (key, rest) := by
  have hkey : Text.identifier? (key ++ '=' :: '"' :: rest) = some (key, '=' :: '"' :: rest) :=
    Text.identifier?_eq_some_iff.mpr ⟨rfl, h, Text.beginsOutside_cons (by decide)⟩
  simp only [attributeKey?, hkey, Text.afterChar?_eq_some_iff.mpr rfl, Option.bind_eq_bind, Option.bind_some,
    Option.pure_def]

/-- A key that is found is an identifier. -/
theorem isIdent_of_attributeKey? {s key r : List Char} (h : attributeKey? s = some (key, r)) : Text.isIdent key = true := by
  simp only [attributeKey?, Option.bind_eq_bind, Option.bind_eq_some_iff, Option.pure_def, Option.some.injEq,
    Prod.exists, Prod.mk.injEq] at h
  obtain ⟨k, s₁, hkey, -, -, -, -, rfl, -⟩ := h
  exact (Text.identifier?_eq_some_iff.mp hkey).2.1

/-- What begins with a key and a value is an attribute. -/
theorem attributes_of_key {c : Char} {s r key value after : List Char} (hkey : attributeKey? (c :: s) = some (key, r))
    (hvalue : value? r = some (value, after)) : attributes (c :: s) = (key, value) :: attributes after := by
  rw [attributes]
  split
  next hnone =>
    rw [hkey] at hnone
    cases hnone
  next hsome =>
    rw [hkey] at hsome
    cases hsome
    split
    next hnone =>
      rw [hvalue] at hnone
      cases hnone
    next hsome =>
      rw [hvalue] at hsome
      cases hsome
      rfl

/-- A character at which no key begins is left out. -/
theorem attributes_of_no_key {c : Char} {s : List Char} (h : attributeKey? (c :: s) = none) :
    attributes (c :: s) = attributes s := by
  rw [attributes]
  split
  next => rfl
  next hsome =>
    rw [h] at hsome
    cases hsome

/-- No key begins outside an identifier. -/
theorem attributes_of_not_isIdentChar {c : Char} (h : Text.isIdentChar c = false) (s : List Char) :
    attributes (c :: s) = attributes s := by
  refine attributes_of_no_key ?_
  rw [attributeKey?, Text.identifier?, Text.takeIdent, List.takeWhile_cons_of_neg (by simp [h])]
  rfl

/-- **Every attribute that is read** can be read back. -/
theorem readable_of_mem_attributes {s : List Char} {a : List Char × List Char} (h : a ∈ attributes s) : Readable a := by
  fun_induction attributes s with
  | case1 => cases h
  | case2 c rest hkey ih => exact ih h
  | case3 c rest key r hkey hvalue => cases h
  | case4 c rest key r hkey value after hvalue ih =>
    rcases List.mem_cons.mp h with rfl | h
    · exact ⟨isIdent_of_attributeKey? hkey, (value?_eq_some_iff.mp hvalue).2⟩
    · exact ih h

/-- An attribute is read back from its text. -/
theorem attributes_attributeText {a : List Char × List Char} (h : Readable a) (rest : List Char) :
    attributes (attributeText a ++ rest) = a :: attributes rest := by
  obtain ⟨key, value⟩ := a
  have htext : attributeText (key, value) ++ rest = key ++ '=' :: '"' :: (escape value ++ '"' :: rest) := by
    simp [attributeText]
  obtain ⟨c, key', hkey⟩ := List.exists_cons_of_ne_nil (Text.isIdent_iff.mp h.key).1
  rw [htext]
  have hfound := attributeKey?_append h.key (escape value ++ '"' :: rest)
  simp only at hkey
  rw [hkey, List.cons_append] at hfound ⊢
  exact attributes_of_key hfound (value?_escape h.value rest)

/-- **Attributes are read back** from their text, in order. -/
theorem attributes_attributesText {as : List (List Char × List Char)} (h : ∀ a ∈ as, Readable a) :
    attributes (attributesText as) = as := by
  induction as with
  | nil => rw [attributesText, List.map_nil, List.intercalate_nil, attributes]
  | cons a as ih =>
    have ha := h a List.mem_cons_self
    have has := ih fun x hx => h x (List.mem_cons_of_mem a hx)
    cases as with
    | nil =>
      have htext : attributesText [a] = attributeText a ++ [] := by simp [attributesText]
      rw [htext, attributes_attributeText ha, attributes]
    | cons b as =>
      have htext : attributesText (a :: b :: as) = attributeText a ++ ',' :: ' ' :: attributesText (b :: as) := by
        simp [attributesText, List.intercalate_cons_cons]
      rw [htext, attributes_attributeText ha, attributes_of_not_isIdentChar (by decide),
        attributes_of_not_isIdentChar (by decide), has]

/-! ## Cutting levels -/

/-- Where the cutting of levels stands between two characters. -/
inductive QuoteState where
  | outside
  | inside
  /-- Inside quotes, right after a backslash that hides the next character. -/
  | hidden
  deriving DecidableEq

namespace QuoteState

/-- Where it stands after a character; nothing if a level ends there. -/
def next? : QuoteState → Char → Option QuoteState
  | outside, c => if c = '"' then some inside else if c = '/' then none else some outside
  | inside, c => if c = '\\' then some hidden else if c = '"' then some outside else some inside
  | hidden, _ => some inside

/-- Where it stands after a text; nothing if a level ends in it. -/
def after? (state : QuoteState) (s : List Char) : Option QuoteState := s.foldlM next? state

/-- The first character decides where the cutting of the others begins. -/
theorem after?_cons (state : QuoteState) (c : Char) (s : List Char) :
    state.after? (c :: s) = (state.next? c).bind fun state' => state'.after? s := List.foldlM_cons

/-- Of two texts the second begins where the cutting of the first stands. -/
theorem after?_append (state : QuoteState) (s t : List Char) :
    state.after? (s ++ t) = (state.after? s).bind fun state' => state'.after? t := List.foldlM_append

end QuoteState

/-- The state inside or outside quotes. -/
def QuoteState.ofQuoted (quoted : Bool) : QuoteState := if quoted then inside else outside

/-- A text cut where levels end, read character by character. -/
def cutFrom : QuoteState → List Char → List (List Char)
  | _, [] => [[]]
  | state, c :: rest =>
    match state.next? c with
    | none => [] :: cutFrom .outside rest
    | some state' => consFirst c (cutFrom state' rest)

/-- A character at which no level ends belongs to the first piece. -/
theorem cutFrom_cons {state state' : QuoteState} {c : Char} (h : state.next? c = some state') (rest : List Char) :
    cutFrom state (c :: rest) = consFirst c (cutFrom state' rest) := by
  rw [cutFrom, h]

/-- Levels are cut in one pass over the characters. -/
theorem cutLevels_eq_cutFrom (quoted : Bool) (s : List Char) : cutLevels quoted s = cutFrom (.ofQuoted quoted) s := by
  fun_induction cutLevels quoted s with
  | case1 => rfl
  | case2 c rest ih =>
    have hslash : (QuoteState.ofQuoted true).next? '\\' = some .hidden := rfl
    have hhidden : QuoteState.hidden.next? c = some (.ofQuoted true) := rfl
    rw [cutFrom_cons hslash, cutFrom_cons hhidden, ih]
  | case3 quoted rest ih =>
    have hnext : (QuoteState.ofQuoted quoted).next? '"' = some (.ofQuoted (!quoted)) := by
      cases quoted <;> rfl
    rw [cutFrom_cons hnext, ih]
  | case4 rest ih =>
    rw [ih]
    rfl
  | case5 quoted c rest hhide hquote hslash ih =>
    by_cases hc : quoted = true ∧ c = '\\'
    · -- a backslash at the end has nothing to hide
      obtain ⟨rfl, rfl⟩ := hc
      cases rest with
      | nil => rfl
      | cons d rest => exact absurd rfl (hhide d rest rfl rfl)
    · have hnext : (QuoteState.ofQuoted quoted).next? c = some (.ofQuoted quoted) := by
        cases quoted with
        | false => exact (if_neg hquote).trans (if_neg (hslash rfl))
        | true => exact (if_neg fun h => hc ⟨rfl, h⟩).trans (if_neg hquote)
      rw [cutFrom_cons hnext, ih]

/-- There is always a first piece. -/
theorem cutFrom_ne_nil (state : QuoteState) (s : List Char) : cutFrom state s ≠ [] := by
  cases s with
  | nil => exact List.cons_ne_nil _ _
  | cons c s =>
    rw [cutFrom]
    split
    · exact List.cons_ne_nil _ _
    · cases cutFrom _ s <;> exact List.cons_ne_nil _ _

/-- A character in front belongs to the first piece. -/
theorem consFirst_eq_cons_iff {c : Char} {pieces rest : List (List Char)} {piece : List Char} (h : pieces ≠ []) :
    consFirst c pieces = (c :: piece) :: rest ↔ pieces = piece :: rest := by
  cases pieces with
  | nil => exact absurd rfl h
  | cons first pieces => simp [consFirst]

/-- A text is one piece if no level ends in it. -/
theorem cutFrom_eq_singleton_iff {state : QuoteState} {s : List Char} :
    cutFrom state s = [s] ↔ state.after? s ≠ none := by
  induction s generalizing state with
  | nil => simp [cutFrom, QuoteState.after?]
  | cons c s ih =>
    rw [QuoteState.after?_cons]
    cases hnext : state.next? c with
    | none => simp [cutFrom, hnext]
    | some state' =>
      rw [cutFrom_cons hnext, consFirst_eq_cons_iff (cutFrom_ne_nil state' s)]
      exact ih

/-- **A slash ends the first piece** at which the text stands outside quotes and has not been cut. -/
theorem cutFrom_append_slash_iff {state : QuoteState} {s t : List Char} {pieces : List (List Char)} :
    cutFrom state (s ++ '/' :: t) = s :: pieces ↔
      state.after? s = some .outside ∧ cutFrom .outside t = pieces := by
  induction s generalizing state with
  | nil =>
    have hafter : state.after? [] = some state := rfl
    rw [List.nil_append, hafter, Option.some.injEq]
    cases hnext : state.next? '/' with
    | none =>
      have hstate : state = .outside := by
        cases state with
        | outside => rfl
        | inside => cases hnext
        | hidden => cases hnext
      subst hstate
      rw [and_iff_right rfl, cutFrom, hnext]
      exact List.cons_inj_right []
    | some state' =>
      have hstate : state ≠ .outside := by
        rintro rfl
        cases hnext
      rw [cutFrom_cons hnext]
      refine iff_of_false ?_ fun h => hstate h.1
      cases cutFrom state' t <;> simp [consFirst]
  | cons c s ih =>
    rw [QuoteState.after?_cons, List.cons_append]
    cases hnext : state.next? c with
    | none => simp [cutFrom, hnext]
    | some state' =>
      rw [cutFrom_cons hnext, consFirst_eq_cons_iff (cutFrom_ne_nil state' _)]
      exact ih

/-- Texts that are kept apart by slashes: each but the last begins and ends outside quotes as levels are
cut, and no level ends within one of them. -/
def CutApart : List (List Char) → Prop
  | [] => True
  | [s] => QuoteState.outside.after? s ≠ none
  | s :: rest => QuoteState.outside.after? s = some .outside ∧ CutApart rest

/-- **Cutting levels.** Texts with slashes between them are found again exactly if they are kept apart. -/
theorem levelTexts_intercalate_iff {texts : List (List Char)} (h : texts ≠ []) :
    levelTexts (['/'].intercalate texts) = texts ↔ CutApart texts := by
  have hlevels : ∀ s, levelTexts s = cutFrom .outside s := cutLevels_eq_cutFrom false
  simp only [hlevels]
  induction texts with
  | nil => exact absurd rfl h
  | cons s texts ih =>
    cases texts with
    | nil =>
      rw [List.intercalate_singleton, CutApart]
      exact cutFrom_eq_singleton_iff
    | cons s' texts =>
      have htext : ['/'].intercalate (s :: s' :: texts) = s ++ '/' :: ['/'].intercalate (s' :: texts) := by
        rw [List.intercalate_cons_cons, List.append_assoc]
        rfl
      rw [htext, cutFrom_append_slash_iff]
      exact and_congr_right fun _ => ih (List.cons_ne_nil s' texts)

/-- Texts that begin and end outside quotes are kept apart. -/
theorem cutApart_of_forall {texts : List (List Char)}
    (h : ∀ s ∈ texts, QuoteState.outside.after? s = some .outside) : CutApart texts := by
  induction texts with
  | nil => exact trivial
  | cons s texts ih =>
    have hs := h s List.mem_cons_self
    cases texts with
    | nil =>
      rw [CutApart, hs]
      exact Option.some_ne_none _
    | cons s' texts => exact ⟨hs, ih fun x hx => h x (List.mem_cons_of_mem s hx)⟩

/-! ## Quotes and backslashes -/

/-- A character with a meaning of its own between quotes. -/
def isSpecial (c : Char) : Bool := c == '\\' || c == '"'

/-- No character of a name is special. -/
theorem isSpecial_of_isIdentChar {c : Char} (h : Text.isIdentChar c = true) : isSpecial c = false := by
  rw [isSpecial, Bool.or_eq_false_iff, beq_eq_false_iff_ne, beq_eq_false_iff_ne]
  refine ⟨?_, ?_⟩
  · rintro rfl
    exact absurd h (by decide)
  · rintro rfl
    exact absurd h (by decide)

/-- No quote of a text stands behind an odd number of backslashes; `odd` tells whether the text itself
stands behind an odd number of them. -/
def quotesBare : Bool → List Char → Bool
  | _, [] => true
  | odd, c :: rest =>
    if c = '\\' then quotesBare (!odd) rest
    else if c = '"' then !odd && quotesBare false rest
    else quotesBare false rest

/-- No quote of a text stands behind an odd number of backslashes. -/
def QuotesBare (v : List Char) : Prop := quotesBare false v = true

/-- Whether the quotes of a text are bare can be decided. -/
instance (v : List Char) : Decidable (QuotesBare v) := inferInstanceAs (Decidable (_ = _))

/-- A text without special characters has no quotes. -/
theorem quotesBare_of_forall {s : List Char} (h : ∀ c ∈ s, isSpecial c = false) : QuotesBare s := by
  unfold QuotesBare
  induction s with
  | nil => rfl
  | cons c s ih =>
    have hc := h c List.mem_cons_self
    rw [isSpecial, Bool.or_eq_false_iff, beq_eq_false_iff_ne, beq_eq_false_iff_ne] at hc
    rw [quotesBare, if_neg hc.1, if_neg hc.2]
    exact ih fun d hd => h d (List.mem_cons_of_mem c hd)

/-- A text without special characters does not end in a backslash. -/
theorem getLast?_ne_slash_of_forall {s : List Char} (h : ∀ c ∈ s, isSpecial c = false) : s.getLast? ≠ some '\\' :=
  fun heq => absurd (h _ (List.mem_of_getLast? heq)) (by decide)

/-- The state inside quotes behind a number of backslashes. -/
def QuoteState.behind (odd : Bool) : QuoteState := if odd then hidden else inside

/-- Where the cutting of levels stands after a value: inside its quotes, unless the value ends in a
backslash. -/
theorem after?_escape {odd : Bool} {v : List Char} (h : quotesBare odd v = true)
    (hlast : v.getLast? ≠ some '\\') (hne : v = [] → odd = false) :
    (QuoteState.behind odd).after? (escape v) = some .inside := by
  induction v generalizing odd with
  | nil =>
    rw [hne rfl]
    rfl
  | cons c v ih =>
    have hlast' := getLast?_ne_slash_of_cons hlast
    unfold quotesBare at h
    split at h
    case isTrue hc =>
      -- one more backslash
      subst hc
      have hnext : (QuoteState.behind odd).next? '\\' = some (.behind !odd) := by
        cases odd <;> rfl
      have hv : v = [] → (!odd) = false := by
        rintro rfl
        exact absurd rfl hlast
      rw [escape_cons (by decide), QuoteState.after?_cons, hnext, Option.bind_some]
      exact ih h hlast' hv
    case isFalse hc =>
      split at h
      case isTrue hquote =>
        -- the backslash that is written before a quote hides it
        subst hquote
        simp only [Bool.and_eq_true, Bool.not_eq_true'] at h
        obtain ⟨rfl, hrest⟩ := h
        have hslash : (QuoteState.behind false).next? '\\' = some .hidden := rfl
        have hhidden : QuoteState.hidden.next? '"' = some (.behind false) := rfl
        rw [escape_quote, QuoteState.after?_cons, hslash, Option.bind_some, QuoteState.after?_cons, hhidden,
          Option.bind_some]
        exact ih hrest hlast' fun _ => rfl
      case isFalse hquote =>
        have hnext : (QuoteState.behind odd).next? c = some (.behind false) := by
          cases odd with
          | false => exact (if_neg hc).trans (if_neg hquote)
          | true => rfl
        rw [escape_cons hquote, QuoteState.after?_cons, hnext, Option.bind_some]
        exact ih h hlast' fun _ => rfl

/-- No quote and no slash changes the state outside quotes. -/
theorem after?_outside_of_forall {s : List Char} (h : ∀ c ∈ s, c ≠ '"' ∧ c ≠ '/') :
    QuoteState.outside.after? s = some .outside := by
  induction s with
  | nil => rfl
  | cons c s ih =>
    obtain ⟨hquote, hslash⟩ := h c List.mem_cons_self
    have hnext : QuoteState.outside.next? c = some .outside := (if_neg hquote).trans (if_neg hslash)
    rw [QuoteState.after?_cons, hnext, Option.bind_some]
    exact ih fun d hd => h d (List.mem_cons_of_mem c hd)

/-- An attribute begins and ends outside quotes. -/
theorem after?_attributeText {a : List Char × List Char} (h : Readable a) (hbare : QuotesBare a.2) :
    QuoteState.outside.after? (attributeText a) = some .outside := by
  have hkey : QuoteState.outside.after? a.1 = some .outside := by
    refine after?_outside_of_forall fun c hc => ?_
    have hident := (Text.isIdent_iff.mp h.key).2 c hc
    refine ⟨?_, ?_⟩ <;>
      · rintro rfl
        exact absurd hident (by decide)
  have hopen : QuoteState.outside.after? ['=', '"'] = some .inside := rfl
  have hvalue : QuoteState.inside.after? (escape a.2) = some .inside := after?_escape hbare h.value fun _ => rfl
  have hclose : QuoteState.inside.after? ['"'] = some .outside := rfl
  have htext : attributeText a = a.1 ++ (['=', '"'] ++ (escape a.2 ++ ['"'])) := rfl
  rw [htext, QuoteState.after?_append, hkey, Option.bind_some, QuoteState.after?_append, hopen, Option.bind_some,
    QuoteState.after?_append, hvalue, Option.bind_some, hclose]

/-- **A level begins and ends outside quotes** if no quote in its values stands behind an odd number of
backslashes. -/
theorem after?_attributesText {as : List (List Char × List Char)} (h : ∀ a ∈ as, Readable a)
    (hbare : ∀ a ∈ as, QuotesBare a.2) : QuoteState.outside.after? (attributesText as) = some .outside := by
  induction as with
  | nil => rfl
  | cons a as ih =>
    have ha := after?_attributeText (h a List.mem_cons_self) (hbare a List.mem_cons_self)
    have has := ih (fun x hx => h x (List.mem_cons_of_mem a hx)) fun x hx => hbare x (List.mem_cons_of_mem a hx)
    cases as with
    | nil =>
      rw [attributesText, List.map_singleton, List.intercalate_singleton]
      exact ha
    | cons b as =>
      have hcomma : QuoteState.outside.after? [',', ' '] = some .outside := rfl
      have htext : attributesText (a :: b :: as) = attributeText a ++ ([',', ' '] ++ attributesText (b :: as)) := by
        simp [attributesText, List.intercalate_cons_cons]
      rw [htext, QuoteState.after?_append, ha, Option.bind_some, QuoteState.after?_append, hcomma, Option.bind_some]
      exact has

end MediaCatalog.Schema
