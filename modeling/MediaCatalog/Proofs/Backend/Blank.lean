import MediaCatalog.Proofs.Backend.Release
import MediaCatalog.Proofs.Text.Ends

/-!
# Blank parts of release names

A release name has at least one character in the brackets of its group, and one before the dash for its title. The
blanks at the ends are dropped afterwards, so that these parts may turn out empty: the group if it is all blank, and the
title if it is, which a title is only where no other can be read.

* `Release.Untitled`: no title can be read at the start of a text; `Release.titleEnding?_eq_none_iff`.
* `Release.afterGroup?_blank_iff`: the title is blank exactly if no title can be read behind the blanks.
* `Release.isBlank_eq_false_of_isDigit`: digits of no script are blank, so an episode never is.
* **Main result** (`Release.empty_parts_iff`): which parts of a release are empty, and which of its sets have no name.
-/

namespace MediaCatalog.Release

variable {s title rest : List Char} {ending : Ending}

/-! ## Titles -/

/-- No title can be read at the start of a text: behind no beginning of the text without line feeds does an ending
follow. -/
def Untitled (s : List Char) : Prop :=
  ∀ title rest, s = title ++ rest → title ≠ [] → '\n' ∉ title → ending? rest = none

/-- No title can be read in a text from a character on if none ends with it, and none can be read behind it. -/
theorem untitled_cons_iff {c : Char} (hc : c ≠ '\n') : Untitled (c :: s) ↔ ending? s = none ∧ Untitled s := by
  constructor
  · intro h
    refine ⟨h [c] s rfl (List.cons_ne_nil _ _) (by simpa using hc.symm), ?_⟩
    intro title rest hs _ hline
    refine h (c :: title) rest (by rw [hs, List.cons_append]) (List.cons_ne_nil _ _) ?_
    rw [List.mem_cons, not_or]
    exact ⟨hc.symm, hline⟩
  · rintro ⟨hhere, hlater⟩ title rest hs hne hline
    obtain ⟨d, title, rfl⟩ := List.exists_cons_of_ne_nil hne
    obtain ⟨-, hrest⟩ := List.cons.inj hs
    cases title with
    | nil =>
      rw [hrest] at hhere
      exact hhere
    | cons e title => exact hlater _ rest hrest (List.cons_ne_nil _ _) fun hmem => hline (List.mem_cons_of_mem d hmem)

/-- **A title is read** unless there is none. -/
theorem titleEnding?_eq_none_iff : titleEnding? s = none ↔ Untitled s := by
  induction s with
  | nil =>
    refine iff_of_true rfl ?_
    intro title rest hs hne
    exact absurd (List.append_eq_nil_iff.mp hs.symm).1 hne
  | cons c s ih =>
    rw [titleEnding?]
    by_cases hc : c = '\n'
    · rw [if_pos hc]
      refine iff_of_true rfl ?_
      intro title rest hs hne hline
      obtain ⟨d, title, rfl⟩ := List.exists_cons_of_ne_nil hne
      obtain ⟨hd, -⟩ := List.cons.inj hs
      exact absurd (hc ▸ hd ▸ List.mem_cons_self) hline
    · rw [if_neg hc, untitled_cons_iff hc, ← ih]
      cases hhere : ending? s with
      | some ending => simp
      | none => simp

/-- A title begins with the first character of its text. -/
theorem head?_of_titleEnding? (h : titleEnding? s = some (title, ending)) : title ≠ [] ∧ title.head? = s.head? := by
  cases s with
  | nil => cases h
  | cons c s =>
    rw [titleEnding?] at h
    split at h
    · cases h
    · split at h
      · cases h
        exact ⟨List.cons_ne_nil _ _, rfl⟩
      · obtain ⟨⟨title', ending'⟩, -, heq⟩ := Option.map_eq_some_iff.mp h
        cases heq
        exact ⟨List.cons_ne_nil _ _, rfl⟩

/-- Where no title can be read behind blanks, a title that is read from them is blank. -/
theorem blank_of_titleEnding?_append {blanks : List Char} (hblanks : ∀ c ∈ blanks, Text.isBlank c = true)
    (hnone : titleEnding? s = none) (h : titleEnding? (blanks ++ s) = some (title, ending)) :
    ∀ c ∈ title, Text.isBlank c = true := by
  induction blanks generalizing title with
  | nil =>
    rw [List.nil_append, hnone] at h
    cases h
  | cons b blanks ih =>
    have hb := hblanks b List.mem_cons_self
    rw [List.cons_append, titleEnding?] at h
    split at h
    · cases h
    · split at h
      · cases h
        exact List.forall_mem_singleton.mpr hb
      · obtain ⟨⟨title', ending'⟩, hlater, heq⟩ := Option.map_eq_some_iff.mp h
        cases heq
        exact List.forall_mem_cons.mpr ⟨hb, ih (fun c hc => hblanks c (List.mem_cons_of_mem b hc)) hlater⟩

/-- Where no title can be read behind the blanks of a text, all titles that are read before are blank. -/
theorem blank_of_afterGroup? {blanks : List Char} (hblanks : ∀ c ∈ blanks, Text.isBlank c = true)
    (hnone : titleEnding? s = none) {n : Nat} (hn : n ≤ blanks.length)
    (h : afterGroup? (blanks ++ s) n = some (title, ending)) : ∀ c ∈ title, Text.isBlank c = true := by
  have hread (k : Nat) (hk : k ≤ blanks.length) (hhere : titleEnding? ((blanks ++ s).drop k) = some (title, ending)) :
      ∀ c ∈ title, Text.isBlank c = true := by
    rw [List.drop_append_of_le_length hk] at hhere
    exact blank_of_titleEnding?_append (fun c hc => hblanks c (List.mem_of_mem_drop hc)) hnone hhere
  induction n with
  | zero => exact hread 0 (Nat.zero_le _) h
  | succ n ih =>
    rcases Option.or_eq_some_iff.mp h with hhere | ⟨-, hlater⟩
    · exact hread (n + 1) hn hhere
    · exact ih (Nat.le_of_succ_le hn) hlater

/-- The title that is read first is that behind the most blanks. -/
theorem afterGroup?_of_titleEnding? {n : Nat} (h : titleEnding? (s.drop n) = some (title, ending)) :
    afterGroup? s n = some (title, ending) := by
  cases n with
  | zero => exact h
  | succ n => rw [afterGroup?, h, Option.some_or]

/-- **The title after a group is blank** exactly if no title can be read behind the blanks. -/
theorem afterGroup?_blank_iff {blanks : List Char} (hblanks : ∀ c ∈ blanks, Text.isBlank c = true)
    (hs : Text.BeginsOutside Text.isBlank s) (h : afterGroup? (blanks ++ s) blanks.length = some (title, ending)) :
    (∀ c ∈ title, Text.isBlank c = true) ↔ Untitled s := by
  rw [← titleEnding?_eq_none_iff]
  constructor
  · intro hblank
    cases hread : titleEnding? s with
    | none => rfl
    | some found =>
      -- the title behind the blanks is read first, and it begins with no blank
      obtain ⟨title', ending'⟩ := found
      obtain ⟨hne, hhead⟩ := head?_of_titleEnding? hread
      have hfirst : afterGroup? (blanks ++ s) blanks.length = some (title', ending') := by
        apply afterGroup?_of_titleEnding?
        rw [List.drop_left, hread]
      rw [h] at hfirst
      cases hfirst
      obtain ⟨c, title, rfl⟩ := List.exists_cons_of_ne_nil hne
      have hc := hs c (by rw [← hhead]; rfl)
      rw [hblank c List.mem_cons_self] at hc
      cases hc
  · intro hnone
    exact blank_of_afterGroup? hblanks hnone (Nat.le_refl _) h

/-! ## Episodes -/

/-- The codes of blank characters. -/
def blankCodes : List Nat :=
  [9, 10, 11, 12, 13, 0x20, 0x85, 0xA0, 0x1680] ++ List.range' 0x2000 11 ++ [0x2028, 0x2029, 0x202F, 0x205F, 0x3000]

/-- The code of a blank character is one of some few. -/
theorem mem_blankCodes {c : Char} (h : Text.isBlank c = true) : c.toNat ∈ blankCodes := by
  simp only [Text.isBlank, Bool.or_eq_true, Bool.and_eq_true, decide_eq_true_eq, beq_iff_eq] at h
  generalize c.toNat = code at h
  simp only [blankCodes, List.mem_append, List.mem_cons, List.mem_range'_1, List.not_mem_nil, or_false]
  omega

set_option maxRecDepth 4000 in
/-- A digit of any script is not blank. -/
theorem isBlank_eq_false_of_isDigit {c : Char} (h : isDigit c = true) : Text.isBlank c = false := by
  cases hblank : Text.isBlank c with
  | false => rfl
  | true =>
    exfalso
    have hcode := mem_blankCodes hblank
    unfold isDigit Unicode.decimalDigits at h
    have hcontains := (Unicode.CharSet.contains_ofText _ c).symm.trans h
    unfold Unicode.CharSet.contains at hcontains
    generalize c.toNat = code at hcode hcontains
    revert hcontains
    revert code
    decide +kernel

/-- An episode is not empty, and has no blanks. -/
theorem ne_nil_of_episode? {episode : List Char} (h : episode? s = some (episode, rest)) :
    episode ≠ [] ∧ ∀ c ∈ episode, Text.isBlank c = false := by
  constructor
  · simp only [episode?] at h
    split at h
    · cases h
    · next hdigits =>
      split at h
      · split at h
        · cases h
          simpa using hdigits
        · cases h
          simp
      · cases h
        simpa using hdigits
  · intro c hc
    rcases mem_episode h hc with hdigit | rfl
    · exact isBlank_eq_false_of_isDigit hdigit
    · decide

/-! ## Whole names -/

/-- **Which parts of a release are empty.** The group, the title and the episode that are read from a name neither begin
nor end with a blank, and the episode is not empty. The group is empty exactly if the text in its brackets is blank, and
the title exactly if no title can be read behind the blanks that follow. Then, and only then, a file of this name belongs
to a set without a name. -/
theorem empty_parts_iff {stem : String} {r : Release} (h : ofStem? stem = some r) :
    Text.NoBlankEnds r.group ∧ Text.NoBlankEnds r.title ∧ Text.NoBlankEnds r.episode ∧ r.episode ≠ "" ∧
      (∃ group body, Bracketed stem group body ∧ (r.group = "" ↔ ∀ c ∈ group, Text.isBlank c = true) ∧
        (r.title = "" ↔ Untitled (body.dropWhile Text.isBlank))) ∧
      ∀ file : FileInfo, file.stem?.getD "" = stem →
        ((∃ s ∈ (contribution file).sets, s.name = "") ↔ r.group = "" ∨ r.title = "") := by
  obtain ⟨group, body, title, ending, hname, hending, hgroup, htitle, hepisode⟩ := of_ofStem? h
  obtain ⟨t, ht⟩ := ending?_of_afterGroup? hending
  obtain ⟨u, rest, -, hread, -⟩ := of_ending? ht
  obtain ⟨hne, hblank⟩ := ne_nil_of_episode? hread
  have hchars : r.episode.toList = ending.episode := by rw [hepisode, String.toList_ofList]
  refine ⟨?_, ?_, ?_, ?_, ⟨group, body, hname, ?_, ?_⟩, ?_⟩
  · rw [hgroup]
    exact Text.noBlankEnds_trimChars group
  · rw [htitle]
    exact Text.noBlankEnds_trimChars title
  · exact Text.noBlankEnds_of_forall (hchars ▸ hblank)
  · intro hempty
    rw [hempty] at hchars
    exact hne hchars.symm
  · rw [hgroup]
    exact Text.ofList_trimChars_eq_empty_iff
  · have hbody : body.takeWhile Text.isBlank ++ body.dropWhile Text.isBlank = body := List.takeWhile_append_dropWhile
    rw [htitle, trimmed, Text.ofList_trimChars_eq_empty_iff]
    apply afterGroup?_blank_iff (fun c hc => List.mem_takeWhile_imp hc) (Text.beginsOutside_dropWhile _ _)
    rw [hbody]
    exact hending
  · intro file hfile
    have hsets : (contribution file).sets = r.sets := by
      rw [contribution, hfile, h]
    rw [hsets, sets]
    simp [or_comm]

/-- A name with nothing but a blank in the brackets of its group. -/
theorem ofStem?_of_blank_group : ofStem? "[ ] Show - 1" = some ⟨"", "Show", "1", none, none, none⟩ := by
  have hname : "[ ] Show - 1" =
      String.ofList ('[' :: ([' '] ++ ']' :: ' ' :: (['S', 'h', 'o', 'w'] ++ ' ' :: '-' :: ' ' :: ['1']))) := by
    decide +kernel
  have hdigits : ∀ c ∈ ['1'], isDigit c = true := by
    intro c hc
    cases List.mem_singleton.mp hc
    exact isDigit_one
  have hending := ending?_of_episode? (Text.beginsOutside_cons (by decide)) (episode?_of_digits (by simp) hdigits) rfl
  have htitle : ∀ c ∈ ['S', 'h', 'o', 'w'], Text.isBlank c = false := by simp [Text.isBlank]
  have hread := titleEnding?_append (by simp) htitle hending
  have hlast : Text.EndsOutside Text.isBlank (' ' :: '-' :: ' ' :: ['1']) := by
    intro c hc
    cases hc
    decide
  rw [hname, ofStem?_of_titleEnding? (by simp) (by simp) (by simp) (Text.beginsOutside_cons (by decide)) (by simp) hlast
    hread]
  rfl

/-- The parts of the name with nothing but a blank in its brackets. -/
theorem empty_parts_iff_of_blank_group :
    ofStem? "[ ] Show - 1" = some ⟨"", "Show", "1", none, none, none⟩ ∧ Text.NoBlankEnds "Show" ∧
      ∃ group body, Bracketed "[ ] Show - 1" group body ∧ ∀ c ∈ group, Text.isBlank c = true := by
  obtain ⟨-, htitle, -, -, ⟨group, body, hname, hgroup, -⟩, -⟩ := empty_parts_iff ofStem?_of_blank_group
  exact ⟨ofStem?_of_blank_group, htitle, group, body, hname, hgroup.mp rfl⟩

/-- The parts of a release need not be there. -/
theorem not_parts_named : ¬∀ (stem : String) (r : Release), ofStem? stem = some r → r.group ≠ "" ∧ r.title ≠ "" := by
  intro hclaim
  exact (hclaim _ _ ofStem?_of_blank_group).1 rfl

end MediaCatalog.Release
