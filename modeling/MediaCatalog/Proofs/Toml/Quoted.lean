import Mathlib.Data.List.Infix
import Mathlib.Tactic.SplitIfs
import MediaCatalog.Proofs.Text.Reader
import MediaCatalog.Toml.Quoted

/-!
# Strings are read back

A string is written in the plainest of several forms that can hold it. Each form is read back as the string, whatever
text follows, unless this begins with another quote.

* `escaped_cases`: a character stands for itself, or an escape stands for it.
* `basic?_basicContent`, `literal?_append`: strings on one line.
* `multiBasic?_multiContent`, `multiLiteral?_append`: strings on several lines, where quotes may stand as long as there
  are not three in a row.
* `text?_basic`, `text?_literal`, `text?_multiBasic`, `text?_multiLiteral`: the four forms with their quotes.
* **Main results** (`readText_write`, `readName_writeName`): strings and the names of keys are read back.
-/

namespace MediaCatalog.Toml

open Text

/-! ## Characters -/

/-- An escape is read as its character, and the line does not end with its backslash. -/
structure Escape (c : Char) (e : List Char) : Prop where
  read : ∀ rest, escape? (e ++ rest) = some (c, rest)
  not_continued : ∀ rest, continued? (e ++ rest) = none

/-- The digits of the code point of a character that is not plain. -/
theorem hexNat?_codePoint : ∀ n : Fin 128, isPlain (Char.ofNat n) = false →
    (hexNat? ['0', '0', (hexDigit (n / 16)).toUpper, (hexDigit (n % 16)).toUpper]).bind charOf? =
      some (Char.ofNat n) := by decide +kernel

/-- The code point of a character that is not plain is small. -/
theorem toNat_lt_of_not_plain {c : Char} (h : isPlain c = false) : c.toNat < 128 := by
  simp only [isPlain, Bool.or_eq_false_iff, Bool.and_eq_false_iff, decide_eq_false_iff_not] at h
  omega

/-- The code point of a character that is not plain is an escape. -/
theorem escape_codePoint {c : Char} (h : isPlain c = false) :
    Escape c ['u', '0', '0', (hexDigit (c.toNat / 16)).toUpper, (hexDigit (c.toNat % 16)).toUpper] where
  read rest := by
    have hc : Char.ofNat c.toNat = c := Char.ofNat_toNat c
    have hdigits := hexNat?_codePoint ⟨c.toNat, toNat_lt_of_not_plain h⟩
    rw [hc] at hdigits
    rw [List.cons_append, escape?, codePoint?]
    simp [hdigits h]
  not_continued rest := rfl

/-- **A character in a basic string** stands for itself, or an escape stands for it. -/
theorem escaped_cases (c : Char) :
    ((escaped c).toList = [c] ∧ isPlain c = true ∧ c ≠ '"' ∧ c ≠ '\\' ∧ c ≠ '\n') ∨
      ∃ e, (escaped c).toList = '\\' :: e ∧ Escape c e := by
  unfold escaped
  split
  · exact .inr ⟨['b'], rfl, fun _ => rfl, fun _ => rfl⟩
  · exact .inr ⟨['t'], rfl, fun _ => rfl, fun _ => rfl⟩
  · exact .inr ⟨['n'], rfl, fun _ => rfl, fun _ => rfl⟩
  · exact .inr ⟨['f'], rfl, fun _ => rfl, fun _ => rfl⟩
  · exact .inr ⟨['r'], rfl, fun _ => rfl, fun _ => rfl⟩
  · exact .inr ⟨['"'], rfl, fun _ => rfl, fun _ => rfl⟩
  · exact .inr ⟨['\\'], rfl, fun _ => rfl, fun _ => rfl⟩
  · next hnewline _ _ hquote hbackslash =>
    split
    · next hplain => exact .inl ⟨by simp, hplain, hquote, hbackslash, hnewline⟩
    · next hplain =>
      refine .inr ⟨_, ?_, escape_codePoint (by simpa using hplain)⟩
      simp [String.toUpper]

/-! ## Strings on one line -/

/-- A character of a basic string is read first. -/
theorem basic?_escaped (c : Char) (rest : List Char) :
    basic? ((escaped c).toList ++ rest) = andBefore c (basic? rest) := by
  rcases escaped_cases c with ⟨hc, hplain, hquote, hbackslash, -⟩ | ⟨e, hc, hescape⟩
  · rw [hc, List.singleton_append, basic?, if_neg hquote, if_neg hbackslash, if_pos hplain]
  · rw [hc, List.cons_append, basic?, if_neg (by decide), if_pos rfl]
    split
    · next hnone => rw [hescape.read] at hnone; cases hnone
    · next hsome => rw [hescape.read] at hsome; cases hsome; rfl

/-- **A basic string** on one line is read back. -/
theorem basic?_basicContent (text rest : List Char) :
    basic? ((basicContent text).toList ++ '"' :: rest) = some (text, rest) := by
  rw [basicContent, String.toList_join, List.flatMap_map]
  induction text with
  | nil => rw [List.flatMap_nil, List.nil_append, basic?, if_pos rfl]
  | cons c text ih => rw [List.flatMap_cons, List.append_assoc, basic?_escaped, ih]; rfl

/-- What can be written as a literal string. -/
theorem fitsLiteral_iff {text : List Char} :
    fitsLiteral text = true ↔ ∀ c ∈ text, isPlain c = true ∧ c ≠ '\'' := by
  simp only [fitsLiteral, hasControl, Bool.and_eq_true, Bool.not_eq_true', List.any_eq_false, List.contains_eq_mem,
    decide_eq_false_iff_not, bne_iff_ne, ne_eq, not_and, not_not]
  constructor
  · rintro ⟨⟨hcontrol, hquote⟩, hnewline⟩ c hc
    refine ⟨?_, fun heq => hquote (heq ▸ hc)⟩
    by_contra hplain
    exact hnewline (hcontrol c hc (by simpa using hplain) ▸ hc)
  · intro h
    refine ⟨⟨fun c hc hplain => ?_, fun hquote => (h _ hquote).2 rfl⟩, fun hnewline => ?_⟩
    · rw [(h c hc).1] at hplain
      cases hplain
    · exact absurd (h _ hnewline).1 (by decide)

/-- **A literal string** on one line is read back. -/
theorem literal?_append {text : List Char} (h : ∀ c ∈ text, isPlain c = true ∧ c ≠ '\'') (rest : List Char) :
    literal? (text ++ '\'' :: rest) = some (text, rest) := by
  induction text with
  | nil => rfl
  | cons c text ih =>
    obtain ⟨hplain, hquote⟩ := h c List.mem_cons_self
    rw [List.cons_append, literal?, if_neg hquote, if_pos hplain, ih fun d hd => h d (List.mem_cons_of_mem c hd)]
    rfl

/-! ## Strings on several lines -/

/-- Up to two quotes before the closing ones belong to the content. -/
theorem closing_replicate {quote : Char} {n : Nat} (hn : n ≤ 2) {rest : List Char} (hrest : ∀ after, rest ≠ quote :: after) :
    closing quote (List.replicate n quote ++ rest) = (List.replicate n quote, rest) := by
  have hhead (c : Char) (after : List Char) (h : rest = c :: after) : c ≠ quote := by
    rintro rfl
    exact hrest after h
  match n, hn with
  | 0, _ =>
    match rest, hhead with
    | [], _ => rfl
    | [c], hhead => exact if_neg (hhead c [] rfl)
    | c :: d :: after, hhead => exact if_neg (hhead c (d :: after) rfl)
  | 1, _ =>
    match rest, hhead with
    | [], _ => exact if_pos rfl
    | d :: after, hhead => exact (if_pos rfl).trans (if_neg (hhead d after rfl))
  | 2, _ => exact (if_pos rfl).trans (if_pos rfl)

/-- A character that begins neither three quotes nor a line break is read first. -/
theorem multiBasic?_cons {c : Char} (hquote : c ≠ '"') (hreturn : c ≠ '\r') (hbackslash : c ≠ '\\')
    (hplain : c = '\n' ∨ isPlain c = true) (rest : List Char) :
    multiBasic? (c :: rest) = andBefore c (multiBasic? rest) := by
  rw [multiBasic?]
  · rw [if_neg hbackslash, if_pos (by simpa using hplain)]
  · exact fun _ heq => absurd heq hquote
  · exact fun _ heq => absurd heq hreturn

/-- An escape is read as its character. -/
theorem multiBasic?_escape {c : Char} {e : List Char} (h : Escape c e) (rest : List Char) :
    multiBasic? ('\\' :: (e ++ rest)) = andBefore c (multiBasic? rest) := by
  rw [multiBasic?]
  · rw [if_pos rfl]
    split
    · next hsome => rw [h.not_continued] at hsome; cases hsome
    · split
      · next hnone => rw [h.read] at hnone; cases hnone
      · next hsome => rw [h.read] at hsome; cases hsome; rfl
  · exact fun _ heq => absurd heq (by decide)
  · exact fun _ heq => absurd heq (by decide)

/-- A quote that does not begin three is read first. -/
theorem multiBasic?_quote {rest : List Char} (h : ∀ after, rest ≠ '"' :: '"' :: after) :
    multiBasic? ('"' :: rest) = andBefore '"' (multiBasic? rest) := by
  rw [multiBasic?]
  · rfl
  · exact fun after _ heq => h after heq
  · exact fun _ heq => absurd heq (by decide)

/-- A character other than a quote is read first, escaped or not. -/
theorem multiBasic?_escaped {c : Char} (hquote : c ≠ '"') (rest : List Char) :
    multiBasic? ((if c = '\n' then "\n" else escaped c).toList ++ rest) = andBefore c (multiBasic? rest) := by
  by_cases hnewline : c = '\n'
  · subst hnewline
    exact multiBasic?_cons (by decide) (by decide) (by decide) (.inl rfl) rest
  · rw [if_neg hnewline]
    rcases escaped_cases c with ⟨hc, hplain, -, hbackslash, -⟩ | ⟨e, hc, hescape⟩
    · have hreturn : c ≠ '\r' := by
        rintro rfl
        exact absurd hplain (by decide)
      rw [hc]
      exact multiBasic?_cons hquote hreturn hbackslash (.inr hplain) rest
    · rw [hc]
      exact multiBasic?_escape hescape rest

/-- The first character of a content is a quote only if the content begins with one and less than two stand before
it. -/
theorem head_multiContent (quotes : Nat) {c : Char} (h : c = '"' → quotes = 2) (text : List Char) :
    ∃ d rest, (multiContent quotes (c :: text)).toList = d :: rest ∧ d ≠ '"' := by
  rw [multiContent]
  split
  · next hquote =>
    rw [if_pos (h hquote), String.toList_append]
    exact ⟨'\\', _, rfl, by decide⟩
  · next hquote =>
    rw [String.toList_append]
    split
    · exact ⟨'\n', _, rfl, by decide⟩
    · rcases escaped_cases c with ⟨hc, -⟩ | ⟨e, hc, -⟩
      · rw [hc]
        exact ⟨c, _, rfl, hquote⟩
      · rw [hc]
        exact ⟨'\\', _, rfl, by decide⟩

/-- **The content of a basic string on several lines** is read back. The induction is on the content, with any number of
quotes before it; where less than three quotes end the content, they are read together with the closing ones. -/
theorem multiBasic?_multiContent {rest : List Char} (hrest : ∀ after, rest ≠ '"' :: after) (text : List Char) {quotes : Nat}
    (hquotes : quotes ≤ 2) :
    multiBasic? ((multiContent quotes text).toList ++ '"' :: '"' :: '"' :: rest) = some (text, rest) := by
  have hclosing {n : Nat} (hn : n ≤ 2) : multiBasic? ('"' :: '"' :: '"' :: (List.replicate n '"' ++ rest)) =
      some (List.replicate n '"', rest) := (multiBasic?.eq_2 _).trans (congrArg some (closing_replicate hn hrest))
  induction text generalizing quotes with
  | nil => exact hclosing (Nat.zero_le 2)
  | cons c text ih =>
    by_cases hquote : c = '"'
    · subst hquote
      by_cases hthird : quotes = 2
      · have hescape := multiBasic?_escape (c := '"') (e := ['"']) ⟨fun _ => rfl, fun _ => rfl⟩
        rw [multiContent, if_pos rfl, if_pos hthird, String.toList_append, List.append_assoc]
        refine (hescape _).trans ?_
        rw [ih (Nat.zero_le 2)]
        rfl
      · rw [multiContent, if_pos rfl, if_neg hthird, String.toList_append, List.append_assoc]
        have hsingle (h : ∀ after, (multiContent (quotes + 1) text).toList ++ '"' :: '"' :: '"' :: rest ≠ '"' :: '"' :: after) :
            multiBasic? ('"' :: ((multiContent (quotes + 1) text).toList ++ '"' :: '"' :: '"' :: rest)) =
              some ('"' :: text, rest) := by
          rw [multiBasic?_quote h, ih (by omega)]
          rfl
        cases text with
        | nil => exact hclosing (n := 1) (by decide)
        | cons d text =>
          by_cases hd : d = '"' → quotes + 1 = 2
          · obtain ⟨e, inner, hhead, he⟩ := head_multiContent (quotes + 1) hd text
            refine hsingle fun after heq => he ?_
            rw [hhead] at heq
            exact (List.cons.inj heq).1
          · obtain ⟨rfl, hnext⟩ := Classical.not_imp.mp hd
            cases text with
            | nil =>
              rw [multiContent, if_pos rfl, if_neg hnext, String.toList_append, multiContent]
              exact hclosing (n := 2) (by decide)
            | cons e text =>
              obtain ⟨f, inner, hhead, hf⟩ := head_multiContent (quotes + 1 + 1) (c := e) (fun _ => by omega) text
              refine hsingle fun after heq => hf ?_
              rw [multiContent, if_pos rfl, if_neg hnext, String.toList_append, hhead] at heq
              exact (List.cons.inj (List.cons.inj heq).2).1
    · rw [multiContent, if_neg hquote, String.toList_append, List.append_assoc, multiBasic?_escaped hquote,
        ih (Nat.zero_le 2)]
      rfl

/-- What a literal string on several lines can hold. -/
theorem plain_of_hasControl {text : List Char} (h : hasControl text = false) : ∀ c ∈ text, c = '\n' ∨ isPlain c = true := by
  intro c hc
  by_contra hnot
  obtain ⟨hnewline, hplain⟩ := not_or.mp hnot
  have hany : hasControl text = true := List.any_eq_true.mpr ⟨c, hc, by simpa [hplain] using hnewline⟩
  rw [h] at hany
  cases hany

/-- A run of three is seen wherever it stands. -/
theorem three_le_longestRun (c : Char) (before after : List Char) : 3 ≤ longestRun c (before ++ c :: c :: c :: after) := by
  let step : Nat × Nat → Char → Nat × Nat := fun seen d =>
    let here := if d = c then seen.2 + 1 else 0
    (max seen.1 here, here)
  -- what was seen stays seen
  have hstays (text : List Char) : ∀ seen : Nat × Nat, seen.1 ≤ (text.foldl step seen).1 := by
    induction text with
    | nil => exact fun seen => Nat.le_refl _
    | cons d text ih => exact fun seen => (Nat.le_max_left _ _).trans (ih (step seen d))
  change 3 ≤ ((before ++ c :: c :: c :: after).foldl step (0, 0)).1
  rw [List.foldl_append, List.foldl_cons, List.foldl_cons, List.foldl_cons]
  generalize before.foldl step (0, 0) = seen
  refine le_trans ?_ (hstays after _)
  obtain ⟨longest, here⟩ := seen
  simp only [step, if_pos]
  omega

/-- **The content of a literal string on several lines** is read back. -/
theorem multiLiteral?_append {rest : List Char} (hrest : ∀ after, rest ≠ '\'' :: after) {text : List Char}
    (hplain : ∀ c ∈ text, c = '\n' ∨ isPlain c = true) (hrun : ∀ before after, text ≠ before ++ '\'' :: '\'' :: '\'' :: after) :
    multiLiteral? (text ++ '\'' :: '\'' :: '\'' :: rest) = some (text, rest) := by
  have hclosing {n : Nat} (hn : n ≤ 2) : multiLiteral? ('\'' :: '\'' :: '\'' :: (List.replicate n '\'' ++ rest)) =
      some (List.replicate n '\'', rest) := congrArg some (closing_replicate hn hrest)
  induction text with
  | nil => exact hclosing (Nat.zero_le 2)
  | cons c text ih =>
    have hcons (h : ∀ after, c = '\'' → text ++ '\'' :: '\'' :: '\'' :: rest ≠ '\'' :: '\'' :: after) :
        multiLiteral? (c :: text ++ '\'' :: '\'' :: '\'' :: rest) = some (c :: text, rest) := by
      have hc := hplain c List.mem_cons_self
      have hreturn : c ≠ '\r' := by
        rintro rfl
        exact absurd hc (by decide)
      rw [List.cons_append, multiLiteral?]
      · rw [if_pos (by simpa using hc), ih (fun d hd => hplain d (List.mem_cons_of_mem c hd))
          fun before after heq => hrun (c :: before) after (congrArg (c :: ·) heq)]
        rfl
      · exact fun after hquote heq => h after hquote heq
      · exact fun _ heq => absurd heq hreturn
    by_cases hquote : c = '\''
    · subst hquote
      match text with
      | [] => exact hclosing (n := 1) (by decide)
      | [d] =>
        by_cases hd : d = '\''
        · subst hd
          exact hclosing (n := 2) (by decide)
        · exact hcons fun after _ heq => hd (List.cons.inj heq).1
      | d :: e :: text =>
        refine hcons fun after _ heq => ?_
        obtain ⟨hd, heq⟩ := List.cons.inj heq
        exact hrun [] text (by rw [hd, (List.cons.inj heq).1]; rfl)
    · exact hcons fun _ hc => absurd hc hquote

/-! ## Strings in any form -/

/-- A character that begins and ends strings. -/
def isQuote (c : Char) : Bool := c == '"' || c == '\''

/-- A text that does not begin with a quote. -/
theorem ne_cons_of_beginsOutside {rest : List Char} (h : BeginsOutside isQuote rest) {c : Char} (hc : isQuote c = true)
    (after : List Char) : rest ≠ c :: after := by
  rintro rfl
  rw [h c rfl] at hc
  cases hc

/-- A text whose first character is no line end is left as it is. -/
theorem dropLineBreak_cons {c : Char} (hnewline : c ≠ '\n') (hreturn : c ≠ '\r') (rest : List Char) :
    dropLineBreak (c :: rest) = c :: rest := by
  rw [dropLineBreak, lineBreak?]
  · rfl
  · exact fun _ heq => absurd (List.cons.inj heq).1 hnewline
  · exact fun _ heq => absurd (List.cons.inj heq).1 hreturn

/-- The content of a basic string never begins with a quote. -/
theorem head_basicContent (c : Char) (text : List Char) :
    ∃ d rest, (basicContent (c :: text)).toList = d :: rest ∧ d ≠ '"' := by
  rw [basicContent, List.map_cons, String.toList_join, List.flatMap_cons]
  rcases escaped_cases c with ⟨hc, -, hquote, -⟩ | ⟨e, hc, -⟩
  · rw [hc]
    exact ⟨c, _, rfl, hquote⟩
  · rw [hc]
    exact ⟨'\\', _, rfl, by decide⟩

section Forms

variable {text rest : List Char}

/-- A basic string. -/
theorem text?_basic (hrest : BeginsOutside isQuote rest) (text : List Char) :
    text? ('"' :: ((basicContent text).toList ++ '"' :: rest)) = some (text, rest) := by
  rw [text?]
  · exact basic?_basicContent text rest
  · intro after heq
    cases text with
    | nil => exact ne_cons_of_beginsOutside hrest (by decide) after (List.cons.inj heq).2
    | cons c text =>
      obtain ⟨d, inner, hhead, hd⟩ := head_basicContent c text
      rw [hhead] at heq
      exact hd (List.cons.inj heq).1

/-- A literal string. -/
theorem text?_literal (hrest : BeginsOutside isQuote rest) (htext : fitsLiteral text = true) :
    text? ('\'' :: (text ++ '\'' :: rest)) = some (text, rest) := by
  have hplain := fitsLiteral_iff.mp htext
  rw [text?]
  · exact literal?_append hplain rest
  · intro after heq
    cases text with
    | nil => exact ne_cons_of_beginsOutside hrest (by decide) after (List.cons.inj heq).2
    | cons c text => exact (hplain c List.mem_cons_self).2 (List.cons.inj heq).1

/-- A content on several lines stands after a line break if it holds one. -/
def opening (text : List Char) : String := if text.contains '\n' then "\n" else ""

/-- The line break after the opening quotes is dropped, and nothing else. -/
theorem dropLineBreak_opening {content : List Char} (h : '\n' ∉ text → dropLineBreak content = content) :
    dropLineBreak ((opening text).toList ++ content) = content := by
  by_cases hmem : '\n' ∈ text
  · rw [opening, if_pos (List.contains_iff_mem.mpr hmem)]
    rfl
  · rw [opening, if_neg (mt List.contains_iff_mem.mp hmem)]
    exact h hmem

/-- A basic string on several lines. -/
theorem text?_multiBasic (hrest : BeginsOutside isQuote rest) (text : List Char) :
    text? ('"' :: '"' :: '"' :: ((opening text).toList ++ ((multiContent 0 text).toList ++ '"' :: '"' :: '"' :: rest))) =
      some (text, rest) := by
  rw [text?, dropLineBreak_opening, multiBasic?_multiContent (ne_cons_of_beginsOutside hrest (by decide)) text (Nat.zero_le 2)]
  intro hnewline
  cases text with
  | nil => exact dropLineBreak_cons (by decide) (by decide) _
  | cons c text =>
    have hc : c ≠ '\n' := fun hc => hnewline (hc ▸ List.mem_cons_self)
    by_cases hquote : c = '"'
    · subst hquote
      rw [multiContent, if_pos rfl, if_neg (by decide), String.toList_append]
      exact dropLineBreak_cons (c := '"') (by decide) (by decide) _
    · rw [multiContent, if_neg hquote, if_neg hc, String.toList_append]
      rcases escaped_cases c with ⟨hchar, hplain, -⟩ | ⟨e, hchar, -⟩
      · have hreturn : c ≠ '\r' := by
          rintro rfl
          exact absurd hplain (by decide)
        rw [hchar]
        exact dropLineBreak_cons hc hreturn _
      · rw [hchar]
        exact dropLineBreak_cons (c := '\\') (by decide) (by decide) _

/-- A literal string on several lines. -/
theorem text?_multiLiteral (hrest : BeginsOutside isQuote rest) (hcontrol : hasControl text = false)
    (hrun : longestRun '\'' text ≤ 2) :
    text? ('\'' :: '\'' :: '\'' :: ((opening text).toList ++ (text ++ '\'' :: '\'' :: '\'' :: rest))) = some (text, rest) := by
  have hplain := plain_of_hasControl hcontrol
  have hthree : ∀ before after, text ≠ before ++ '\'' :: '\'' :: '\'' :: after := by
    rintro before after rfl
    have := three_le_longestRun '\'' before after
    omega
  rw [text?, dropLineBreak_opening, multiLiteral?_append (ne_cons_of_beginsOutside hrest (by decide)) hplain hthree]
  intro hnewline
  cases text with
  | nil => exact dropLineBreak_cons (by decide) (by decide) _
  | cons c text =>
    have hc : c ≠ '\n' := fun hc => hnewline (hc ▸ List.mem_cons_self)
    refine dropLineBreak_cons hc ?_ _
    rintro rfl
    exact absurd (hplain '\r' List.mem_cons_self) (by decide)

end Forms

/-- The written form of a string begins with a quote. -/
theorem head_write (s : String) : ∃ c after, (write s).toList = c :: after ∧ (c = '"' ∨ c = '\'') := by
  dsimp only [write]
  split_ifs
  all_goals simp only [String.toList_append, List.append_assoc]
  all_goals first
    | exact ⟨'"', _, rfl, .inl rfl⟩
    | exact ⟨'\'', _, rfl, .inr rfl⟩

/-- **A string is read back** from its written form, unless another quote follows. -/
theorem readText_write (s : String) {rest : List Char} (hrest : BeginsOutside isQuote rest) :
    readText ((write s).toList ++ rest) = some (s, rest) := by
  have hform (h : text? ((write s).toList ++ rest) = some (s.toList, rest)) :
      readText ((write s).toList ++ rest) = some (s, rest) := by
    rw [readText, h]
    simp
  refine hform ?_
  have hopening : (if s.toList.contains '\n' then "\n" else "") = opening s.toList := rfl
  dsimp only [write]
  rw [hopening]
  split
  · have := text?_basic hrest s.toList
    simpa using this
  · split
    · next hfits =>
      have := text?_literal hrest hfits
      simpa using this
    · have hbasic := text?_multiBasic hrest s.toList
      split
      · simpa using hbasic
      · split
        · next h =>
          simp only [Bool.and_eq_true, Bool.not_eq_true', decide_eq_true_eq] at h
          have := text?_multiLiteral hrest h.1 h.2
          simpa using this
        · split
          · simpa using hbasic
          · have := text?_basic hrest s.toList
            simpa using this

/-- **A name in a key is read back** from its written form, unless the text goes on with it. -/
theorem readName_writeName (s : String) {rest : List Char} (hrest : BeginsOutside isBare rest) :
    readName ((writeName s).toList ++ rest) = some (s, rest) := by
  dsimp only [writeName]
  split
  · next hbare =>
    simp only [Bool.and_eq_true, Bool.not_eq_true', List.isEmpty_eq_false_iff, List.all_eq_true] at hbare
    obtain ⟨hne, hbare⟩ := hbare
    have hhead {c : Char} (hc : isBare c = false) (after : List Char) : s.toList ++ rest ≠ c :: after := by
      intro heq
      cases htext : s.toList with
      | nil => exact hne htext
      | cons d text =>
        rw [htext] at heq hbare
        have hd := hbare d List.mem_cons_self
        rw [(List.cons.inj heq).1, hc] at hd
        cases hd
    rw [readName]
    · rw [Reader.takeSome_append hne hbare hrest]
      simp
    · exact hhead (by decide)
    · exact hhead (by decide)
  · split
    · next hfits =>
      have hplain := fitsLiteral_iff.mp (Bool.and_eq_true_iff.mp hfits).2
      have hread := literal?_append hplain rest
      simp [readName, hread]
    · have hread := basic?_basicContent s.toList rest
      simp [readName, hread]

end MediaCatalog.Toml
