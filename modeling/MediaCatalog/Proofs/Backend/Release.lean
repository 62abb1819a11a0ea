import Mathlib.Data.List.Basic
import Mathlib.Data.List.TakeWhile
import MediaCatalog.Backend.Release
import MediaCatalog.Proofs.Record.Key
import MediaCatalog.Proofs.Text.Identifier
import MediaCatalog.Scan.Record

/-!
# What release names say

The label of a release's file is put together from the title, the episode, the group and the extension.
An episode is made of digits and points, and a group has no closing bracket, so that the group can be read
off the label again once the title is known.

* `Release.of_ofStem?`: how a name is read, as a group in brackets and what follows (`Release.Bracketed`).
* `Release.WellFormed`: what the episode and the group are free of; `Release.wellFormed_of_ofStem?`.
* `Release.ofStem?_of_plain`: a name without blanks in its parts is read as these.
* `Release.fileLabel`: the label of files with a release name.
* **Main result** (`Release.group_eq_of_label_eq`): files with one title and one label have one group.
-/

namespace MediaCatalog

/-- What stands between the blank ends of a text is part of it. -/
theorem Text.mem_of_mem_trimChars {s : List Char} {c : Char} (h : c ∈ trimChars s) : c ∈ s := by
  have hback := (List.dropWhile_sublist isBlank).mem (List.mem_reverse.mp h)
  exact (List.dropWhile_sublist isBlank).mem (List.mem_reverse.mp hback)

/-- The set that a literal stands for, from its characters. -/
theorem Unicode.CharSet.contains_ofText (text : List Char) (c : Char) :
    (ofText (String.ofList text)).contains c = (ofChars text).contains c := by
  rw [ofText, String.toList_ofList]

namespace Release

/-! ## Parts of a name -/

set_option maxRecDepth 4000 in
/-- In ASCII the digits are the usual ones. -/
theorem isDigit_of_ascii {c : Char} (h : c.toNat < 128) : isDigit c = c.isDigit := by
  have hcode : c.isDigit = decide (48 ≤ c.toNat ∧ c.toNat ≤ 57) :=
    Bool.eq_iff_iff.mpr (Char.isDigit_iff_toNat.trans decide_eq_true_iff.symm)
  rw [hcode]
  unfold isDigit Unicode.decimalDigits
  refine (Unicode.CharSet.contains_ofText _ c).trans ?_
  unfold Unicode.CharSet.contains
  generalize c.toNat = code at h ⊢
  revert code
  decide +kernel

/-- A blank is no digit. -/
theorem isDigit_blank : isDigit ' ' = false := isDigit_of_ascii (by decide)

/-- A one is a digit. -/
theorem isDigit_one : isDigit '1' = true := isDigit_of_ascii (by decide)

/-- An episode is made of digits and points. -/
theorem mem_episode {s episode rest : List Char} (h : episode? s = some (episode, rest)) {c : Char} (hc : c ∈ episode) :
    isDigit c = true ∨ c = '.' := by
  simp only [episode?] at h
  split at h
  · cases h
  · split at h
    · next after _ =>
      split at h
      · cases h
        exact .inl (List.mem_takeWhile_imp hc)
      · cases h
        rcases List.mem_append.mp hc with hc | hc
        · exact .inl (List.mem_takeWhile_imp hc)
        · rcases List.mem_cons.mp hc with rfl | hc
          · exact .inr rfl
          · exact .inl (List.mem_takeWhile_imp hc)
    · cases h
      exact .inl (List.mem_takeWhile_imp hc)

/-- What was read as an ending is a dash between blanks, an episode, a version and tags. -/
theorem of_ending? {s : List Char} {ending : Ending} (h : ending? s = some ending) :
    ∃ t rest, s.dropWhile Text.isBlank = '-' :: t ∧
      episode? (t.dropWhile Text.isBlank) = some (ending.episode, rest) ∧
      splitVersion rest = (ending.version, ending.tags) ∧ isTags false ending.tags = true := by
  have hdrop : ∀ {s t : List Char}, afterBlanks? s = some t → s.dropWhile Text.isBlank = t := by
    intro s t h
    unfold afterBlanks? at h
    split at h
    · split at h
      · next hblank =>
        cases h
        exact List.dropWhile_cons_of_pos hblank
      · cases h
    · cases h
  simp only [ending?, Option.bind_eq_bind, Option.bind_eq_some_iff] at h
  obtain ⟨_, hdash, h⟩ := h
  split at h
  · next t =>
    obtain ⟨u, hu, h⟩ := Option.bind_eq_some_iff.mp h
    obtain ⟨⟨episode, rest⟩, hepisode, h⟩ := Option.bind_eq_some_iff.mp h
    split at h
    · next htags =>
      cases h
      rw [← hdrop hu] at hepisode
      exact ⟨t, rest, hdrop hdash, hepisode, rfl, htags⟩
    · cases h
  · cases h

/-- The ending after a title was read as one. -/
theorem ending?_of_titleEnding? {s title : List Char} {ending : Ending} (h : titleEnding? s = some (title, ending)) :
    ∃ t, ending? t = some ending := by
  induction s generalizing title with
  | nil => cases h
  | cons c rest ih =>
    rw [titleEnding?] at h
    split at h
    · cases h
    · split at h
      · next hending =>
        cases h
        exact ⟨rest, hending⟩
      · obtain ⟨⟨title', ending'⟩, hrest, heq⟩ := Option.map_eq_some_iff.mp h
        cases heq
        exact ih hrest

/-- The ending after a group was read as one. -/
theorem ending?_of_afterGroup? {s title : List Char} {blanks : Nat} {ending : Ending}
    (h : afterGroup? s blanks = some (title, ending)) : ∃ t, ending? t = some ending := by
  induction blanks with
  | zero => exact ending?_of_titleEnding? h
  | succ blanks ih =>
    rcases Option.or_eq_some_iff.mp h with hhere | ⟨-, hrest⟩
    · exact ending?_of_titleEnding? hhere
    · exact ih hrest

/-- A name without its blank ends is a text in brackets and what follows. -/
def Bracketed (stem : String) (group body : List Char) : Prop :=
  Text.trimChars stem.toList = '[' :: (group ++ ']' :: body) ∧ ']' ∉ group

/-- **How a release name is read**: its group from the brackets, its title and its episode from what follows. -/
theorem of_ofStem? {stem : String} {r : Release} (h : ofStem? stem = some r) :
    ∃ group body title ending, Bracketed stem group body ∧
      afterGroup? body (body.takeWhile Text.isBlank).length = some (title, ending) ∧
      r.group = trimmed group ∧ r.title = trimmed title ∧ r.episode = String.ofList ending.episode := by
  simp only [ofStem?] at h
  split at h
  · next s hname =>
    split at h
    · next c body hrest =>
      split at h
      · cases h
      · obtain ⟨⟨title, ending⟩, hending, rfl⟩ := Option.map_eq_some_iff.mp h
        refine ⟨_, body, title, ending, ⟨?_, ?_⟩, hending, rfl, rfl, rfl⟩
        · have hc : c = ']' := by
            have hstops := List.head?_dropWhile_not (· ≠ ']') s
            rw [hrest] at hstops
            simpa using hstops
          subst hc
          rw [hname, ← hrest, List.takeWhile_append_dropWhile]
        · intro hbracket
          have hgroup := List.mem_takeWhile_imp hbracket
          simp at hgroup
    · cases h
  · cases h

/-- The episode is free of blanks, and the group of closing brackets. -/
structure WellFormed (r : Release) : Prop where
  episode : ' ' ∉ r.episode.toList
  group : ']' ∉ r.group.toList

/-- **Release names are well-formed.** -/
theorem wellFormed_of_ofStem? {stem : String} {r : Release} (h : ofStem? stem = some r) : r.WellFormed := by
  obtain ⟨group, body, title, ending, ⟨-, hfree⟩, hending, hgroup, -, hepisode⟩ := of_ofStem? h
  constructor
  · rw [hepisode, String.toList_ofList]
    intro hblank
    obtain ⟨t, ht⟩ := ending?_of_afterGroup? hending
    obtain ⟨u, rest, -, hread, -⟩ := of_ending? ht
    rcases mem_episode hread hblank with hdigit | hpoint
    · rw [isDigit_blank] at hdigit
      cases hdigit
    · cases hpoint
  · rw [hgroup, trimmed, String.toList_ofList]
    exact fun hbracket => hfree (Text.mem_of_mem_trimChars hbracket)

/-! ## Plain names -/

/-- Digits at the end of a name are an episode. -/
theorem episode?_of_digits {digits : List Char} (hne : digits ≠ []) (hdigits : ∀ c ∈ digits, isDigit c = true) :
    episode? digits = some (digits, []) := by
  have htake : digits.takeWhile isDigit = digits := List.takeWhile_eq_self_iff.mpr hdigits
  have hdrop : digits.dropWhile isDigit = [] := List.dropWhile_eq_nil_iff.mpr hdigits
  have hempty : digits.isEmpty = false := by simpa using hne
  simp only [episode?, htake, hdrop, hempty]
  rfl

/-- A dash, an episode and tags at the end of a name are an ending. -/
theorem ending?_of_episode? {s episode rest : List Char} (hfirst : Text.BeginsOutside Text.isBlank s)
    (hepisode : episode? s = some (episode, rest)) (htags : isTags false (splitVersion rest).2 = true) :
    ending? (' ' :: '-' :: ' ' :: s) = some ⟨episode, (splitVersion rest).1, (splitVersion rest).2⟩ := by
  have hdrop : ([] ++ s).dropWhile Text.isBlank = s :=
    Text.dropWhile_append_of_beginsOutside (List.forall_mem_nil _) hfirst
  have hdash : afterBlanks? (' ' :: '-' :: ' ' :: s) = some ('-' :: ' ' :: s) := rfl
  have hrest : afterBlanks? (' ' :: s) = some s := congrArg some hdrop
  simp only [ending?, hdash, hrest, hepisode, Option.bind_eq_bind, Option.bind_some]
  exact if_pos htags

/-- A title goes as far as the ending if no shorter one is followed by an ending. -/
theorem titleEnding?_of_shortest {title s : List Char} {ending : Ending} (hne : title ≠ []) (hline : '\n' ∉ title)
    (hshort : ∀ u, u <:+ title → u ≠ [] → u ≠ title → ending? (u ++ s) = none) (h : ending? s = some ending) :
    titleEnding? (title ++ s) = some (title, ending) := by
  induction title with
  | nil => exact absurd rfl hne
  | cons c rest ih =>
    have hc : c ≠ '\n' := fun hc => hline (hc ▸ List.mem_cons_self)
    rw [List.cons_append, titleEnding?, if_neg hc]
    cases rest with
    | nil => rw [List.nil_append, h]
    | cons c' rest =>
      rw [hshort (c' :: rest) (List.suffix_cons c _) (List.cons_ne_nil _ _) (List.ne_cons_self)]
      rw [ih (List.cons_ne_nil _ _) fun hmem => hline (List.mem_cons_of_mem c hmem)]
      · rfl
      · intro u hsuffix hu hne
        refine hshort u (hsuffix.trans (List.suffix_cons c _)) hu fun hwhole => ?_
        have hlength := hsuffix.length_le
        rw [hwhole, List.length_cons] at hlength
        omega

/-- A title without blanks goes as far as the ending. -/
theorem titleEnding?_append {title s : List Char} {ending : Ending} (hne : title ≠ [])
    (hblank : ∀ c ∈ title, Text.isBlank c = false) (h : ending? s = some ending) :
    titleEnding? (title ++ s) = some (title, ending) := by
  apply titleEnding?_of_shortest hne ?_ ?_ h
  · intro hline
    exact absurd (hblank '\n' hline) (by decide)
  · intro u hsuffix hu _
    obtain ⟨c, rest, rfl⟩ := List.exists_cons_of_ne_nil hu
    have hc := hblank c (hsuffix.mem List.mem_cons_self)
    have hnone : afterBlanks? (c :: (rest ++ s)) = none := by simp [afterBlanks?, hc]
    simp [ending?, hnone]

/-- A name is read as its group, and as the title and the ending that are read after it. -/
theorem ofStem?_of_titleEnding? {group title s : List Char} {ending : Ending} (hgroup : group ≠ []) (hbracket : ']' ∉ group)
    (htitle : title ≠ []) (hfirst : Text.BeginsOutside Text.isBlank title) (hs : s ≠ [])
    (hlast : Text.EndsOutside Text.isBlank s) (hending : titleEnding? (title ++ s) = some (title, ending)) :
    ofStem? (String.ofList ('[' :: (group ++ ']' :: ' ' :: (title ++ s)))) =
      some ⟨trimmed group, trimmed title, String.ofList ending.episode, ending.version.map String.ofList,
        (resolution? false ending.tags).map String.ofList, (checksum? ending.tags).map String.ofList⟩ := by
  have hname : Text.trimChars ('[' :: (group ++ ']' :: ' ' :: (title ++ s))) =
      '[' :: (group ++ ']' :: ' ' :: (title ++ s)) := by
    apply Text.trimChars_eq_self
    · simp [Text.isBlank]
    · have hsplit : '[' :: (group ++ ']' :: ' ' :: (title ++ s)) = ('[' :: (group ++ ']' :: ' ' :: title)) ++ s := by simp
      rw [hsplit, List.getLast?_append_of_ne_nil _ hs]
      exact hlast
  have htake : (group ++ ']' :: ' ' :: (title ++ s)).takeWhile (· ≠ ']') = group := takeWhile_separator hbracket _
  have hdrop : (group ++ ']' :: ' ' :: (title ++ s)).dropWhile (· ≠ ']') = ']' :: ' ' :: (title ++ s) := by
    have hwhole := List.takeWhile_append_dropWhile (p := (· ≠ ']')) (l := group ++ ']' :: ' ' :: (title ++ s))
    rw [htake] at hwhole
    exact List.append_cancel_left hwhole
  have hblanks : (' ' :: (title ++ s)).takeWhile Text.isBlank = [' '] := by
    obtain ⟨c, rest, rfl⟩ := List.exists_cons_of_ne_nil htitle
    rw [List.takeWhile_cons_of_pos (by decide), List.cons_append, List.takeWhile_cons_of_neg (by simp [hfirst c rfl])]
  have hafter : afterGroup? (' ' :: (title ++ s)) 1 = some (title, ending) := by
    rw [afterGroup?, List.drop_one, List.tail_cons, hending]
    rfl
  have hempty : group.isEmpty = false := by simpa using hgroup
  unfold ofStem?
  rw [String.toList_ofList, hname]
  simp only [htake, hdrop, hempty, hblanks, List.length_singleton, hafter, Option.map_some]
  rfl

/-- **A plain name** is read as its parts. -/
theorem ofStem?_of_plain {group title digits : List Char} (hgroup : group ≠ []) (htitle : title ≠ []) (hdigits : digits ≠ [])
    (hgroupChars : ∀ c ∈ group, Text.isBlank c = false ∧ c ≠ ']') (htitleChars : ∀ c ∈ title, Text.isBlank c = false)
    (hdigitChars : ∀ c ∈ digits, isDigit c = true ∧ Text.isBlank c = false) :
    ofStem? (String.ofList ('[' :: (group ++ ']' :: ' ' :: (title ++ ' ' :: '-' :: ' ' :: digits)))) =
      some ⟨String.ofList group, String.ofList title, String.ofList digits, none, none, none⟩ := by
  have hplain : ∀ s : List Char, (∀ c ∈ s, Text.isBlank c = false) → trimmed s = String.ofList s :=
    fun s hs => congrArg String.ofList (Text.trimChars_of_forall hs)
  have hbracket : ']' ∉ group := fun hmem => (hgroupChars _ hmem).2 rfl
  have hlast : Text.EndsOutside Text.isBlank (' ' :: '-' :: ' ' :: digits) := by
    intro c hc
    rw [show ' ' :: '-' :: ' ' :: digits = [' ', '-', ' '] ++ digits from rfl,
      List.getLast?_append_of_ne_nil _ hdigits] at hc
    exact (hdigitChars c (List.mem_of_getLast? hc)).2
  have hepisode := episode?_of_digits hdigits fun c hc => (hdigitChars c hc).1
  have hending := titleEnding?_append htitle htitleChars
    (ending?_of_episode? (fun c hc => (hdigitChars c (List.mem_of_mem_head? hc)).2) hepisode rfl)
  rw [ofStem?_of_titleEnding? hgroup hbracket htitle (fun c hc => htitleChars c (List.mem_of_mem_head? hc))
    (List.cons_ne_nil _ _) hlast hending, hplain group fun c hc => (hgroupChars c hc).1, hplain title htitleChars]
  rfl

/-! ## Labels -/

/-- The label of a file with a release name. -/
def fileLabel : LabelTemplate := ⟨"$title - $episode [$group_name].$ext"⟩

/-- An entry has the title, the episode and the group of a release. -/
structure DescribedIn (r : Release) (e : Entry) : Prop where
  title : e.get? "title" = some r.title
  episode : e.get? "episode" = some r.episode
  group : e.get? "group_name" = some r.group

/-- The label of a file with a release name, character by character. -/
theorem toList_fileLabel {r : Release} {e : Entry} (h : r.DescribedIn e) :
    (e.label fileLabel).toList =
      r.title.toList ++ " - ".toList ++ (r.episode.toList ++ ' ' :: '[' ::
        (r.group.toList ++ ']' :: '.' :: ((e.get? "ext").getD "").toList)) := by
  have hparts : fileLabel.parts = [.field "title".toList, .literal " - ".toList, .field "episode".toList,
      .literal " [".toList, .field "group_name".toList, .literal "].".toList, .field "ext".toList] := by decide +kernel
  unfold Entry.label LabelTemplate.render
  rw [hparts, String.toList_ofList]
  simp [LabelPart.render, h.title, h.episode, h.group]

/-- **The group can be read off the label** once the title is known. -/
theorem group_eq_of_label_eq {r r' : Release} {e e' : Entry} (h : r.DescribedIn e) (h' : r'.DescribedIn e')
    (hr : r.WellFormed) (hr' : r'.WellFormed) (htitle : r.title = r'.title)
    (hlabel : e.label fileLabel = e'.label fileLabel) : r.group = r'.group := by
  have hchars := congrArg String.toList hlabel
  rw [toList_fileLabel h, toList_fileLabel h', htitle] at hchars
  -- the episode ends at the first blank, the group at the first closing bracket
  obtain ⟨-, hrest⟩ := eq_of_append_separator hr.episode hr'.episode (List.append_cancel_left hchars)
  obtain ⟨hgroup, -⟩ := eq_of_append_separator hr.group hr'.group (List.cons.inj hrest).2
  exact String.toList_inj.mp hgroup

end Release

end MediaCatalog
