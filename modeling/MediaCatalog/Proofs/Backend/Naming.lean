import MediaCatalog.Proofs.Backend.Release
import MediaCatalog.Proofs.Text.Ends

/-!
# Writing release names

A release is named by its parts, and from the name the parts are read again. The title may itself look like the
beginning of an ending, with dashes, digits and versions, but the ending after a shorter title would have to go on with
the rest of the title and the dash behind it, and these are no tags.

* `Release.stem`: the name of a release; `Release.Writable`: what its parts must be for the name to be clear.
* `Release.ending?_of_before_dash`: no ending begins within a title.
* `Release.resolution?_tags`, `Release.checksum?_tags`: the tags are told from each other.
* **Main result** (`Release.ofStem_stem`): the parts are read from the name again.
-/

namespace MediaCatalog

/-! ## Texts and their ends -/

section Ends

variable {α : Type} {p : α → Bool} {c : α} {first rest : List α}

/-- Nothing is dropped from an item on that is not to be. -/
theorem dropWhile_append_cons (h : p c = false) : (first ++ c :: rest).dropWhile p = first.dropWhile p ++ c :: rest := by
  rw [List.dropWhile_append]
  split
  · next hempty => rw [List.isEmpty_iff.mp hempty, List.dropWhile_cons_of_neg (by simp [h]), List.nil_append]
  · rfl

/-- An item is among the first ones if there are fewer before it. -/
theorem mem_take_append_cons {n : Nat} (h : first.length < n) : c ∈ (first ++ c :: rest).take n := by
  obtain ⟨k, rfl⟩ := Nat.exists_eq_add_of_lt h
  rw [List.take_append, List.mem_append]
  right
  rw [show first.length + k + 1 - first.length = k + 1 by omega, List.take_succ_cons]
  exact List.mem_cons_self

end Ends

namespace Release

/-! ## Parts of a name -/

/-- Digits of ASCII, at least one. -/
structure IsNumeral (s : List Char) : Prop where
  ne_nil : s ≠ []
  digits : ∀ c ∈ s, c.isDigit = true

/-- The number of an episode, which may have a decimal part. -/
inductive IsEpisode : List Char → Prop
  | whole {digits : List Char} (h : IsNumeral digits) : IsEpisode digits
  | part {digits decimals : List Char} (h : IsNumeral digits) (hdecimals : IsNumeral decimals) :
    IsEpisode (digits ++ '.' :: decimals)

/-- Whether a text is a numeral can be decided. -/
instance (s : List Char) : Decidable (IsNumeral s) :=
  decidable_of_iff (s ≠ [] ∧ s.all Char.isDigit = true)
    ⟨fun h => ⟨h.1, List.all_eq_true.mp h.2⟩, fun h => ⟨h.ne_nil, List.all_eq_true.mpr h.digits⟩⟩

/-- A number of three or four digits. -/
structure IsCount (s : List Char) : Prop extends IsNumeral s where
  length : s.length = 3 ∨ s.length = 4

/-- A resolution, such as `720p` or `1920x1080`. -/
inductive IsResolution : List Char → Prop
  | lines {count : List Char} (h : IsCount count) : IsResolution (count ++ ['p'])
  | frame {width height : List Char} (hwidth : IsCount width) (hheight : IsCount height) :
    IsResolution (width ++ 'x' :: height)

/-- The hexadecimal digits in upper case. -/
def hexDigits : List Char := "0123456789ABCDEF".toList

/-- A checksum in upper case. -/
structure IsChecksum (s : List Char) : Prop where
  length : s.length = 8
  digits : ∀ c ∈ s, c ∈ hexDigits

/-- Whether a text is a checksum can be decided. -/
instance (s : List Char) : Decidable (IsChecksum s) :=
  decidable_of_iff (s.length = 8 ∧ s.all hexDigits.contains = true)
    ⟨fun h => ⟨h.1, fun c hc => List.contains_iff_mem.mp (List.all_eq_true.mp h.2 c hc)⟩,
      fun h => ⟨h.length, List.all_eq_true.mpr fun c hc => List.contains_iff_mem.mpr (h.digits c hc)⟩⟩

/-- A part that may be missing, with what stands before and after it. -/
def mark (before : String) (part : Option String) (after : String) : String :=
  part.elim "" fun s => before ++ s ++ after

/-- The tags of a release. -/
def tags (r : Release) : String := mark " [" r.resolution "]" ++ mark "[" r.checksum "]"

/-- The name of a release, `[Group] Title - 01v2 [720p][ABCD1234]`. -/
def stem (r : Release) : String :=
  "[" ++ r.group ++ "] " ++ r.title ++ " - " ++ r.episode ++ mark "v" r.version "" ++ r.tags

/-- The group, the title and the tags of a release can be told from each other in its name: no blank ends, and no
brackets where they would end a part or begin one. -/
structure Writable (r : Release) : Prop where
  group_ne : r.group ≠ ""
  group_trim : Text.trim r.group = r.group
  group_bracket : ']' ∉ r.group.toList
  title_ne : r.title ≠ ""
  title_trim : Text.trim r.title = r.title
  title_bracket : ∀ c ∈ ['\n', '[', ']', '(', ')'], c ∉ r.title.toList
  episode : IsEpisode r.episode.toList
  version : ∀ v ∈ r.version, IsNumeral v.toList
  resolution : ∀ s ∈ r.resolution, IsResolution s.toList
  checksum : ∀ s ∈ r.checksum, IsChecksum s.toList

/-! ## Characters -/

section Characters

variable {c : Char}

/-- The digits of ASCII are digits. -/
theorem isDigit_of_isDigit (h : c.isDigit = true) : isDigit c = true := by
  have hcode : 48 ≤ c.toNat ∧ c.toNat ≤ 57 := Char.isDigit_iff_toNat.mp h
  rw [isDigit_of_ascii (by omega), h]

/-- A digit is neither of some other characters. -/
theorem ne_of_isDigit (h : c.isDigit = true) {d : Char} (hd : d.isDigit = false) : c ≠ d := by
  rintro rfl
  rw [h] at hd
  cases hd

/-- Digits are no brackets. -/
theorem not_bracket_of_isDigit (h : c.isDigit = true) : isOpening c = false ∧ isClosing c = false := by
  simp [isOpening, isClosing, ne_of_isDigit h]

/-- The digits of a checksum are read as they are, and they are no parts of a resolution or brackets. -/
theorem of_mem_hexDigits (h : c ∈ hexDigits) :
    isHexDigit c = true ∧ c.toUpper = c ∧ isClosing c = false ∧ c ≠ 'p' ∧ c ≠ 'P' ∧ c ≠ 'x' ∧ c ≠ 'X' := by
  have hall : hexDigits.all (fun c => isHexDigit c ∧ c.toUpper = c ∧ isClosing c = false ∧
      c ≠ 'p' ∧ c ≠ 'P' ∧ c ≠ 'x' ∧ c ≠ 'X') = true := by decide
  exact of_decide_eq_true (List.all_eq_true.mp hall c h)

set_option maxRecDepth 20000 in
/-- Brackets are no characters of words. -/
theorem isWordChar_bracket (h : c = '[' ∨ c = ']') : isWordChar c = false := by
  unfold isWordChar Unicode.wordChars
  refine (Unicode.CharSet.contains_ofText _ c).trans ?_
  rcases h with rfl | rfl
  · decide +kernel
  · decide +kernel

end Characters

/-! ## No ending before the dash -/

/-- No episode is read where no digit stands. -/
theorem episode?_eq_none {c : Char} (h : isDigit c = false) (s : List Char) : episode? (c :: s) = none := by
  simp [episode?, h]

/-- Reading an episode does not go past a blank. -/
theorem episode?_append_blank {w s episode rest : List Char} (h : episode? (w ++ ' ' :: s) = some (episode, rest)) :
    ∃ left, left <:+ w ∧ rest = left ++ ' ' :: s := by
  have hdrop : ∀ w : List Char, (w ++ ' ' :: s).dropWhile isDigit = w.dropWhile isDigit ++ ' ' :: s :=
    fun w => dropWhile_append_cons isDigit_blank
  have hsuffix : w.dropWhile isDigit <:+ w := List.dropWhile_suffix isDigit
  simp only [episode?, hdrop] at h
  split at h
  · cases h
  · split at h
    · next after hafter =>
      cases hleft : w.dropWhile isDigit with
      | nil =>
        rw [hleft] at hafter
        cases hafter
      | cons c left =>
        rw [hleft] at hafter hsuffix
        obtain ⟨rfl, rfl⟩ := List.cons.inj hafter
        split at h
        · cases h
          exact ⟨'.' :: left, hsuffix, by rw [hleft]⟩
        · cases h
          have hleft : left <:+ w := (List.suffix_cons _ _).trans hsuffix
          exact ⟨left.dropWhile isDigit, (List.dropWhile_suffix isDigit).trans hleft, hdrop left⟩
    · cases h
      exact ⟨_, hsuffix, rfl⟩

/-- Reading a version does not go past a blank. -/
theorem splitVersion_append_blank (w s : List Char) :
    ∃ left, left <:+ w ∧ (splitVersion (w ++ ' ' :: s)).2 = left ++ ' ' :: s := by
  unfold splitVersion
  split
  · next after hafter =>
    cases w with
    | nil => cases hafter
    | cons c w =>
      obtain ⟨rfl, rfl⟩ := List.cons.inj hafter
      simp only
      split
      · exact ⟨'v' :: w, List.suffix_refl _, rfl⟩
      · exact ⟨w.dropWhile isDigit, (List.dropWhile_suffix isDigit).trans (List.suffix_cons _ _),
          dropWhile_append_cons isDigit_blank⟩
  · exact ⟨w, List.suffix_refl _, rfl⟩

/-- A text with a dash before its first bracket is no row of tags. -/
theorem isTags_append_dash {w : List Char} (h : ∀ c ∈ w, isOpening c = false) (s : List Char) :
    isTags false (w ++ ' ' :: '-' :: s) = false := by
  induction w with
  | nil => rfl
  | cons c w ih =>
    simp [isTags, h c List.mem_cons_self, ih fun d hd => h d (List.mem_cons_of_mem c hd)]

/-- **No ending begins within a title**: one that did would have the dash behind the title among its tags. -/
theorem ending?_of_before_dash {u s : List Char} (hne : u ≠ []) (hlast : Text.EndsOutside Text.isBlank u)
    (hbrackets : ∀ c ∈ u, isOpening c = false) : ending? (u ++ ' ' :: '-' :: s) = none := by
  cases h : ending? (u ++ ' ' :: '-' :: s) with
  | none => rfl
  | some ending =>
    exfalso
    obtain ⟨t, rest, hdash, hepisode, hversion, htags⟩ := of_ending? h
    -- the dash of the ending stands in the title
    have hsuffix : u.dropWhile Text.isBlank <:+ u := List.dropWhile_suffix Text.isBlank
    have hdrop : (u ++ ' ' :: '-' :: s).dropWhile Text.isBlank = u.dropWhile Text.isBlank ++ ' ' :: '-' :: s := by
      rw [List.dropWhile_append, if_neg]
      rw [List.isEmpty_iff, List.dropWhile_eq_nil_iff]
      intro hblank
      have hmem := List.getLast?_eq_some_getLast hne
      have hend := hlast _ hmem
      rw [hblank _ (List.getLast_mem hne)] at hend
      cases hend
    rw [hdrop] at hdash
    cases hu : u.dropWhile Text.isBlank with
    | nil =>
      rw [hu] at hdash
      cases hdash
    | cons c w =>
      rw [hu, List.cons_append] at hdash
      rw [hu] at hsuffix
      obtain ⟨rfl, rfl⟩ := List.cons.inj hdash
      have hw : ∀ left, left <:+ w → ∀ c ∈ left, isOpening c = false := fun left hleft c hc =>
        hbrackets c (hsuffix.mem (List.mem_cons_of_mem _ (hleft.mem hc)))
      rw [List.dropWhile_append] at hepisode
      split at hepisode
      · -- the title ends with the dash, and behind it no episode stands but the other dash
        have hother : (' ' :: '-' :: s).dropWhile Text.isBlank = '-' :: s := rfl
        rw [hother, episode?_eq_none (isDigit_of_ascii (by decide))] at hepisode
        cases hepisode
      · obtain ⟨left, hleft, rfl⟩ := episode?_append_blank hepisode
        obtain ⟨left', hleft', htail⟩ := splitVersion_append_blank left ('-' :: s)
        simp only [hversion] at htail
        rw [htail, isTags_append_dash (hw left' ((hleft'.trans hleft).trans (List.dropWhile_suffix _)))] at htags
        cases htags

/-! ## The ending -/

/-- Digits are read up to something else. -/
theorem IsNumeral.span {digits rest : List Char} (h : IsNumeral digits) (hrest : Text.BeginsOutside isDigit rest) :
    (digits ++ rest).takeWhile isDigit = digits ∧ (digits ++ rest).dropWhile isDigit = rest :=
  have hdigits : ∀ c ∈ digits, isDigit c = true := fun c hc => isDigit_of_isDigit (h.digits c hc)
  ⟨Text.takeWhile_append_of_beginsOutside hdigits hrest, Text.dropWhile_append_of_beginsOutside hdigits hrest⟩

/-- An episode begins with a digit. -/
theorem IsEpisode.head {episode : List Char} (h : IsEpisode episode) : ∃ c rest, episode = c :: rest ∧ c.isDigit = true := by
  cases h with
  | whole h | part h =>
    obtain ⟨c, rest, rfl⟩ := List.exists_cons_of_ne_nil h.ne_nil
    exact ⟨c, _, rfl, h.digits c List.mem_cons_self⟩

/-- An episode has no blanks. -/
theorem IsEpisode.not_blank {episode : List Char} (h : IsEpisode episode) : ∀ c ∈ episode, Text.isBlank c = false := by
  intro c hc
  cases h with
  | whole h => exact Text.isBlank_of_isDigit (h.digits c hc)
  | part h hdecimals =>
    rcases List.mem_append.mp hc with hc | hc
    · exact Text.isBlank_of_isDigit (h.digits c hc)
    · rcases List.mem_cons.mp hc with rfl | hc
      · decide
      · exact Text.isBlank_of_isDigit (hdecimals.digits c hc)

/-- An episode is read up to something that is neither a digit nor a point. -/
theorem episode?_of_isEpisode {episode rest : List Char} (h : IsEpisode episode)
    (hrest : ∀ c ∈ rest.head?, isDigit c = false ∧ c ≠ '.') : episode? (episode ++ rest) = some (episode, rest) := by
  cases h with
  | whole h =>
    obtain ⟨htake, hdrop⟩ := h.span fun c hc => (hrest c hc).1
    simp only [episode?, htake, hdrop]
    rw [if_neg (by simpa using h.ne_nil)]
    split
    · exact absurd rfl (hrest '.' rfl).2
    · rfl
  | @part digits decimals h hdecimals =>
    have hpoint : Text.BeginsOutside isDigit ('.' :: (decimals ++ rest)) :=
      Text.beginsOutside_cons (isDigit_of_ascii (by decide))
    obtain ⟨htake, hdrop⟩ := h.span hpoint
    obtain ⟨htake', hdrop'⟩ := hdecimals.span fun c hc => (hrest c hc).1
    rw [List.append_assoc, List.cons_append]
    simp only [episode?, htake, hdrop, htake', hdrop']
    rw [if_neg (by simpa using h.ne_nil), if_neg (by simpa using hdecimals.ne_nil)]

/-- The characters of a part that is there. -/
theorem toList_mark_some (before s after : String) :
    (mark before (some s) after).toList = before.toList ++ (s.toList ++ after.toList) := by
  simp [mark]

/-- A version is read up to something that is neither a digit nor the letter of a version. -/
theorem splitVersion_mark {version : Option String} (h : ∀ v ∈ version, IsNumeral v.toList) {rest : List Char}
    (hrest : ∀ c ∈ rest.head?, isDigit c = false ∧ c ≠ 'v') :
    splitVersion ((mark "v" version "").toList ++ rest) = (version.map String.toList, rest) := by
  cases version with
  | none =>
    change splitVersion rest = (none, rest)
    unfold splitVersion
    split
    · exact absurd rfl (hrest 'v' rfl).2
    · rfl
  | some v =>
    have hv := h v rfl
    obtain ⟨htake, hdrop⟩ := hv.span fun c hc => (hrest c hc).1
    have hchars : (mark "v" (some v) "").toList ++ rest = 'v' :: (v.toList ++ rest) := by simp [toList_mark_some]
    rw [hchars]
    simp only [splitVersion, htake, hdrop]
    rw [if_neg (by simpa using hv.ne_nil)]
    rfl

/-- A tag is a row of its own. -/
theorem isTags_tag {s : List Char} (h : ∀ c ∈ s, isClosing c = false) (rest : List Char) :
    isTags false ('[' :: (s ++ ']' :: rest)) = isTags false rest := by
  have hinside : isTags true (s ++ ']' :: rest) = isTags false rest := by
    induction s with
    | nil => rfl
    | cons c s ih =>
      rw [List.cons_append, isTags, if_pos rfl, h c List.mem_cons_self]
      exact ih fun d hd => h d (List.mem_cons_of_mem c hd)
  exact hinside

/-! ## Tags -/

/-- A resolution has no brackets. -/
theorem IsResolution.not_bracket {s : List Char} (h : IsResolution s) : ∀ c ∈ s, isOpening c = false ∧ isClosing c = false := by
  intro c hc
  cases h with
  | lines h =>
    rcases List.mem_append.mp hc with hc | hc
    · exact not_bracket_of_isDigit (h.digits c hc)
    · rw [List.mem_singleton.mp hc]
      decide
  | frame hwidth hheight =>
    rcases List.mem_append.mp hc with hc | hc
    · exact not_bracket_of_isDigit (hwidth.digits c hc)
    · rcases List.mem_cons.mp hc with rfl | hc
      · decide
      · exact not_bracket_of_isDigit (hheight.digits c hc)

/-- Digits that are read as a number of three or four come first. -/
theorem of_fourOrThreeDigits {α : Type} {s : List Char} {k : List Char → List Char → Option α} {a : α}
    (h : fourOrThreeDigits s k = some a) : ∃ n d, (∀ c ∈ s.take n, isDigit c = true) ∧ k d (s.drop n) = some a := by
  have hexact : ∀ n, (exactDigits? n s).bind (fun found => k found.1 found.2) = some a →
      ∃ d, (∀ c ∈ s.take n, isDigit c = true) ∧ k d (s.drop n) = some a := by
    intro n hn
    obtain ⟨⟨d, r⟩, hd, hk⟩ := Option.bind_eq_some_iff.mp hn
    simp only [exactDigits?] at hd
    split at hd
    · next hdigits =>
      cases hd
      exact ⟨_, by simpa using (Bool.and_eq_true_iff.mp hdigits).2, hk⟩
    · cases hd
  rcases Option.or_eq_some_iff.mp h with h | ⟨-, h⟩
  · exact ⟨4, hexact 4 h⟩
  · exact ⟨3, hexact 3 h⟩

/-- A number of three or four digits begins with one. -/
theorem fourOrThreeDigits_eq_none {α : Type} {c : Char} (h : isDigit c = false) (s : List Char)
    (k : List Char → List Char → Option α) : fourOrThreeDigits (c :: s) k = none := by
  simp [fourOrThreeDigits, exactDigits?, h]

/-- A number of three or four digits is read up to something else. -/
theorem IsCount.fourOrThreeDigits {α : Type} {count rest : List Char} {k : List Char → List Char → Option α} {a : α}
    (h : IsCount count) (hrest : Text.BeginsOutside isDigit rest) (hk : k count rest = some a) :
    Release.fourOrThreeDigits (count ++ rest) k = some a := by
  have hdigits : count.all isDigit = true := List.all_eq_true.mpr fun c hc => isDigit_of_isDigit (h.digits c hc)
  have hexact : exactDigits? count.length (count ++ rest) = some (count, rest) := by simp [exactDigits?, hdigits]
  unfold Release.fourOrThreeDigits
  rcases h.length with hlength | hlength
  · have hfour : exactDigits? 4 (count ++ rest) = none := by
      cases rest with
      | nil => simp [exactDigits?, hlength]
      | cons c rest =>
        have hc : c ∈ (count ++ c :: rest).take 4 := mem_take_append_cons (by omega)
        have hall : ((count ++ c :: rest).take 4).all isDigit = false :=
          List.all_eq_false.mpr ⟨c, hc, by simp [hrest c rfl]⟩
        simp only [exactDigits?, hall, Bool.and_false]
        rfl
    rw [hlength] at hexact
    rw [hfour, hexact]
    exact hk
  · rw [hlength] at hexact
    rw [hexact]
    exact Option.or_eq_some_iff.mpr (.inl hk)

/-- A number of lines is digits and their letter. -/
theorem letter_of_lineCount? {s lines : List Char} (h : lineCount? s = some lines) :
    ∃ n c rest, (∀ d ∈ s.take n, isDigit d = true) ∧ s.drop n = c :: rest ∧ (c = 'p' ∨ c = 'P') := by
  obtain ⟨n, d, hdigits, hk⟩ := of_fourOrThreeDigits h
  split at hk
  · next c rest hdrop =>
    split at hk
    · next hletter => exact ⟨n, c, rest, hdigits, hdrop, hletter.1⟩
    · cases hk
  · cases hk

/-- A size is digits and their letter, and more. -/
theorem letter_of_frameSize? {s size : List Char} (h : frameSize? s = some size) :
    ∃ n c rest, s.drop n = c :: rest ∧ (c = 'x' ∨ c = 'X') := by
  obtain ⟨n, d, -, hk⟩ := of_fourOrThreeDigits h
  split at hk
  · next c rest hdrop =>
    split at hk
    · next hletter => exact ⟨n, c, rest, hdrop, hletter⟩
    · cases hk
  · cases hk

/-- There is no resolution without a letter of one. -/
theorem resolution?_eq_none {s : List Char} (h : ∀ c ∈ s, c ≠ 'p' ∧ c ≠ 'P' ∧ c ≠ 'x' ∧ c ≠ 'X') (inWord : Bool) :
    resolution? inWord s = none := by
  induction s generalizing inWord with
  | nil => rfl
  | cons c s ih =>
    have hmem : ∀ {n d rest}, (c :: s).drop n = d :: rest → d ∈ c :: s :=
      fun hdrop => List.mem_of_mem_drop (hdrop ▸ List.mem_cons_self)
    have hlines : lineCount? (c :: s) = none := by
      refine Option.eq_none_iff_forall_ne_some.mpr fun lines hlines => ?_
      obtain ⟨n, d, rest, -, hdrop, hletter⟩ := letter_of_lineCount? hlines
      have hd := h d (hmem hdrop)
      exact hletter.elim hd.1 hd.2.1
    have hsize : frameSize? (c :: s) = none := by
      refine Option.eq_none_iff_forall_ne_some.mpr fun size hsize => ?_
      obtain ⟨n, d, rest, hdrop, hletter⟩ := letter_of_frameSize? hsize
      have hd := h d (hmem hdrop)
      exact hletter.elim hd.2.2.1 hd.2.2.2
    rw [resolution?, hlines, hsize, ih fun d hd => h d (List.mem_cons_of_mem c hd)]
    cases inWord <;> rfl

/-- A number of lines is read, if it is a word. -/
theorem IsCount.lineCount? {count rest : List Char} (h : IsCount count) (hends : endsWord rest = true) :
    Release.lineCount? (count ++ 'p' :: rest) = some (count ++ ['p']) := by
  have hletter : isDigit 'p' = false := isDigit_of_ascii (by decide)
  exact h.fourOrThreeDigits (Text.beginsOutside_cons hletter) (if_pos ⟨.inl rfl, hends⟩)

/-- A width is no number of lines. -/
theorem IsCount.lineCount?_eq_none {width : List Char} (h : IsCount width) (rest : List Char) :
    Release.lineCount? (width ++ 'x' :: rest) = none := by
  refine Option.eq_none_iff_forall_ne_some.mpr fun lines hlines => ?_
  obtain ⟨n, c, after, hdigits, hdrop, hletter⟩ := letter_of_lineCount? hlines
  have hc : c.isDigit = false ∧ c ≠ 'x' := by
    rcases hletter with rfl | rfl <;> decide
  -- digits come first, so that the letter is among the other digits or it is that of the width
  have hn : n ≤ width.length := by
    by_contra hmore
    have hx := hdigits 'x' (mem_take_append_cons (by omega))
    rw [isDigit_of_ascii (by decide)] at hx
    cases hx
  rw [List.drop_append_of_le_length hn] at hdrop
  cases hleft : width.drop n with
  | nil =>
    rw [hleft] at hdrop
    exact hc.2 (List.cons.inj hdrop).1.symm
  | cons d left =>
    rw [hleft] at hdrop
    have hd := h.digits d (List.mem_of_mem_drop (hleft ▸ List.mem_cons_self))
    rw [(List.cons.inj hdrop).1, hc.1] at hd
    cases hd

/-- A size is read, if it is a word. -/
theorem IsCount.frameSize? {width height rest : List Char} (hwidth : IsCount width) (hheight : IsCount height)
    (hrest : Text.BeginsOutside isDigit rest) (hends : endsWord rest = true) :
    Release.frameSize? (width ++ 'x' :: (height ++ rest)) = some (width ++ 'x' :: height) := by
  have hletter : isDigit 'x' = false := isDigit_of_ascii (by decide)
  refine hwidth.fourOrThreeDigits (Text.beginsOutside_cons hletter) ?_
  change (if _ then _ else _) = _
  rw [if_pos (.inl rfl)]
  exact hheight.fourOrThreeDigits hrest (if_pos hends)

/-- No resolution begins with anything but a digit. -/
theorem resolution?_cons {c : Char} (h : isDigit c = false) (inWord : Bool) (s : List Char) :
    resolution? inWord (c :: s) = resolution? (isWordChar c) s := by
  rw [resolution?, lineCount?, frameSize?, fourOrThreeDigits_eq_none h, fourOrThreeDigits_eq_none h]
  simp

/-- **The resolution is found** in the first tag. -/
theorem resolution?_of_isResolution {s : List Char} (h : IsResolution s) (rest : List Char) :
    resolution? false (' ' :: '[' :: (s ++ ']' :: rest)) = some s := by
  have hends : endsWord (']' :: rest) = true := by
    rw [endsWord, List.head?_cons, Option.any_some, isWordChar_bracket (.inr rfl), Bool.not_false]
  have hword : ∀ {s : List Char}, s ≠ [] → ((lineCount? s).or (frameSize? s)).isSome = true →
      resolution? false s = (lineCount? s).or (frameSize? s) := by
    intro s hne hfound
    obtain ⟨c, s, rfl⟩ := List.exists_cons_of_ne_nil hne
    obtain ⟨found, hfound⟩ := Option.isSome_iff_exists.mp hfound
    rw [resolution?, if_neg Bool.false_ne_true, hfound]
    rfl
  rw [resolution?_cons isDigit_blank, resolution?_cons (isDigit_of_ascii (by decide)), isWordChar_bracket (.inl rfl)]
  cases h with
  | @lines count h =>
    have hlines : lineCount? (count ++ ['p'] ++ ']' :: rest) = some (count ++ ['p']) := by
      rw [List.append_assoc]
      exact h.lineCount? hends
    rw [hword (by simp) (by rw [hlines]; rfl), hlines]
    rfl
  | @frame width height hwidth hheight =>
    have hnone : lineCount? (width ++ 'x' :: height ++ ']' :: rest) = none := by
      rw [List.append_assoc]
      exact hwidth.lineCount?_eq_none _
    have hsize : frameSize? (width ++ 'x' :: height ++ ']' :: rest) = some (width ++ 'x' :: height) := by
      have hbracket : isDigit ']' = false := isDigit_of_ascii (by decide)
      rw [List.append_assoc]
      exact hwidth.frameSize? hheight (Text.beginsOutside_cons hbracket) hends
    rw [hword (by simp) (by rw [hnone, hsize]; rfl), hnone, hsize]
    rfl

/-- Without an opening bracket no checksum begins. -/
theorem checksum?_append {s : List Char} (h : ∀ c ∈ s, isOpening c = false) (rest : List Char) :
    checksum? (s ++ rest) = checksum? rest := by
  induction s with
  | nil => rfl
  | cons c s ih =>
    rw [List.cons_append, checksum?, h c List.mem_cons_self]
    exact ih fun d hd => h d (List.mem_cons_of_mem c hd)

/-- A resolution has a letter that is no hexadecimal digit, before a checksum would be complete. -/
theorem IsResolution.exists_not_hex {s : List Char} (h : IsResolution s) (rest : List Char) :
    ∃ c ∈ (s ++ rest).take 8, isHexDigit c = false := by
  have hcount : ∀ {count : List Char}, IsCount count → count.length < 8 := by
    intro count hcount
    have hlength := hcount.length
    omega
  cases h with
  | lines h =>
    rw [List.append_assoc]
    exact ⟨'p', mem_take_append_cons (hcount h), by decide⟩
  | frame hwidth hheight =>
    rw [List.append_assoc]
    exact ⟨'x', mem_take_append_cons (hcount hwidth), by decide⟩

/-- **A resolution is no checksum.** -/
theorem checksum?_of_isResolution {s : List Char} (h : IsResolution s) (rest : List Char) :
    checksum? (' ' :: '[' :: (s ++ ']' :: rest)) = checksum? rest := by
  have hall : ((s ++ ']' :: rest).take 8).all isHexDigit = false := by
    obtain ⟨c, hc, hhex⟩ := h.exists_not_hex (']' :: rest)
    exact List.all_eq_false.mpr ⟨c, hc, by simp [hhex]⟩
  have hbrackets : ∀ c ∈ s ++ [']'], isOpening c = false := by
    intro c hc
    rcases List.mem_append.mp hc with hc | hc
    · exact (h.not_bracket c hc).1
    · rw [List.mem_singleton.mp hc]
      decide
  calc checksum? (' ' :: '[' :: (s ++ ']' :: rest))
      = checksum? ('[' :: (s ++ ']' :: rest)) := by
        rw [checksum?, show isOpening ' ' = false by decide]
        rfl
    _ = checksum? (s ++ [']'] ++ rest) := by
        rw [checksum?, hall]
        simp
    _ = checksum? rest := checksum?_append hbrackets rest

/-- **The checksum is found** in its tag. -/
theorem checksum?_of_isChecksum {s : List Char} (h : IsChecksum s) : checksum? ('[' :: (s ++ [']'])) = some s := by
  have htake : (s ++ [']']).take 8 = s := by rw [← h.length, List.take_left]
  have hdrop : (s ++ [']']).drop 8 = [']'] := by rw [← h.length, List.drop_left]
  have hhex : s.all isHexDigit = true := List.all_eq_true.mpr fun c hc => (of_mem_hexDigits (h.digits c hc)).1
  have hupper : s.map Char.toUpper = s :=
    (List.map_congr_left fun c hc => (of_mem_hexDigits (h.digits c hc)).2.1).trans (List.map_id s)
  simp only [checksum?, htake, hdrop, hhex, h.length, hupper]
  rfl

/-- No letter of a resolution stands in the tag of a checksum. -/
theorem IsChecksum.not_letter {s : List Char} (h : IsChecksum s) :
    ∀ c ∈ '[' :: (s ++ [']']), c ≠ 'p' ∧ c ≠ 'P' ∧ c ≠ 'x' ∧ c ≠ 'X' := by
  intro c hc
  rcases List.mem_cons.mp hc with rfl | hc
  · decide
  · rcases List.mem_append.mp hc with hc | hc
    · exact (of_mem_hexDigits (h.digits c hc)).2.2.2
    · rw [List.mem_singleton.mp hc]
      decide

section Written

variable {r : Release}

/-- The tags, with a resolution. -/
theorem toList_tags_some {s : String} (h : r.resolution = some s) :
    r.tags.toList = ' ' :: '[' :: (s.toList ++ ']' :: (mark "[" r.checksum "]").toList) := by
  rw [tags, h, String.toList_append, toList_mark_some]
  simp

/-- The tags, without a resolution. -/
theorem toList_tags_none (h : r.resolution = none) : r.tags.toList = (mark "[" r.checksum "]").toList := by
  rw [tags, h, String.toList_append]
  rfl

/-- The tag of a checksum. -/
theorem toList_mark_checksum (s : String) : (mark "[" (some s) "]").toList = '[' :: (s.toList ++ [']']) :=
  toList_mark_some "[" s "]"

/-- The tags begin with a blank or a bracket. -/
theorem head_tags (r : Release) : ∀ c ∈ r.tags.toList.head?, c = ' ' ∨ c = '[' := by
  intro c hc
  cases hresolution : r.resolution with
  | some s =>
    rw [toList_tags_some hresolution] at hc
    cases hc
    exact .inl rfl
  | none =>
    rw [toList_tags_none hresolution] at hc
    cases hchecksum : r.checksum with
    | some s =>
      rw [hchecksum, toList_mark_checksum] at hc
      cases hc
      exact .inr rfl
    | none =>
      rw [hchecksum] at hc
      cases hc

/-- The checksum is read from its tag. -/
theorem checksum?_mark (h : r.Writable) : checksum? (mark "[" r.checksum "]").toList = r.checksum.map String.toList := by
  cases hchecksum : r.checksum with
  | none => rfl
  | some s =>
    rw [toList_mark_checksum]
    exact checksum?_of_isChecksum (h.checksum s hchecksum)

/-- The tags are read as such. -/
theorem isTags_tags (h : r.Writable) : isTags false r.tags.toList = true := by
  have hchecksum : isTags false (mark "[" r.checksum "]").toList = true := by
    cases hchecksum : r.checksum with
    | none => rfl
    | some s =>
      rw [toList_mark_checksum]
      exact isTags_tag (fun c hc => (of_mem_hexDigits ((h.checksum s hchecksum).digits c hc)).2.2.1) []
  cases hresolution : r.resolution with
  | none => rwa [toList_tags_none hresolution]
  | some s =>
    rw [toList_tags_some hresolution]
    exact (isTags_tag (fun c hc => ((h.resolution s hresolution).not_bracket c hc).2) _).trans hchecksum

/-- **The resolution** is read from the tags. -/
theorem resolution?_tags (h : r.Writable) : resolution? false r.tags.toList = r.resolution.map String.toList := by
  cases hresolution : r.resolution with
  | some s =>
    rw [toList_tags_some hresolution]
    exact resolution?_of_isResolution (h.resolution s hresolution) _
  | none =>
    rw [toList_tags_none hresolution]
    cases hchecksum : r.checksum with
    | none => rfl
    | some s =>
      rw [toList_mark_checksum]
      exact resolution?_eq_none (h.checksum s hchecksum).not_letter false

/-- **The checksum** is read from the tags. -/
theorem checksum?_tags (h : r.Writable) : checksum? r.tags.toList = r.checksum.map String.toList := by
  rw [← checksum?_mark h]
  cases hresolution : r.resolution with
  | none => rw [toList_tags_none hresolution]
  | some s =>
    rw [toList_tags_some hresolution]
    exact checksum?_of_isResolution (h.resolution s hresolution) _

end Written

/-! ## Whole names -/

section Whole

variable {r : Release}

/-- What stands behind the title of a name. -/
def endingChars (r : Release) : List Char :=
  ' ' :: '-' :: ' ' :: (r.episode.toList ++ ((mark "v" r.version "").toList ++ r.tags.toList))

/-- The name of a release, character by character. -/
theorem stem_eq (r : Release) :
    r.stem = String.ofList ('[' :: (r.group.toList ++ ']' :: ' ' :: (r.title.toList ++ r.endingChars))) := by
  rw [← String.toList_inj, String.toList_ofList]
  simp [stem, endingChars]

/-- The ending of a name is read. -/
theorem ending?_endingChars (h : r.Writable) :
    ending? r.endingChars = some ⟨r.episode.toList, r.version.map String.toList, r.tags.toList⟩ := by
  have hstop : ∀ {c : Char}, c = ' ' ∨ c = '[' → isDigit c = false ∧ c ≠ 'v' ∧ c ≠ '.' := by
    rintro c (rfl | rfl)
    · exact ⟨isDigit_blank, by decide, by decide⟩
    · exact ⟨isDigit_of_ascii (by decide), by decide, by decide⟩
  have hversion := splitVersion_mark h.version fun c hc =>
    ⟨(hstop (head_tags r c hc)).1, (hstop (head_tags r c hc)).2.1⟩
  have hhead : ∀ c ∈ ((mark "v" r.version "").toList ++ r.tags.toList).head?, isDigit c = false ∧ c ≠ '.' := by
    intro c hc
    cases hv : r.version with
    | none =>
      rw [hv] at hc
      exact ⟨(hstop (head_tags r c hc)).1, (hstop (head_tags r c hc)).2.2⟩
    | some v =>
      rw [hv, toList_mark_some] at hc
      cases hc
      exact ⟨isDigit_of_ascii (by decide), by decide⟩
  obtain ⟨c, rest, hepisode, hc⟩ := h.episode.head
  have hfirst : ∀ d ∈ (r.episode.toList ++ ((mark "v" r.version "").toList ++ r.tags.toList)).head?,
      Text.isBlank d = false := by
    rw [hepisode]
    rintro d ⟨⟩
    exact Text.isBlank_of_isDigit hc
  have htags : isTags false (splitVersion ((mark "v" r.version "").toList ++ r.tags.toList)).2 = true := by
    rw [hversion]
    exact isTags_tags h
  rw [endingChars, ending?_of_episode? hfirst (episode?_of_isEpisode h.episode hhead) htags, hversion]

/-- A tag does not end with a blank. -/
theorem endsOutside_mark (before : String) (part : Option String) :
    Text.EndsOutside Text.isBlank (mark before part "]").toList := by
  intro c hc
  cases part with
  | none => cases hc
  | some s =>
    rw [toList_mark_some, ← List.append_assoc, List.getLast?_append_of_ne_nil _ (by simp)] at hc
    cases hc
    decide

/-- A version has no blanks. -/
theorem not_blank_version (h : r.Writable) : ∀ c ∈ (mark "v" r.version "").toList, Text.isBlank c = false := by
  intro c hc
  cases hversion : r.version with
  | none =>
    rw [hversion] at hc
    cases hc
  | some v =>
    rw [hversion, toList_mark_some, String.toList_empty, List.append_nil] at hc
    rcases List.mem_cons.mp hc with rfl | hc
    · decide
    · exact Text.isBlank_of_isDigit ((h.version v hversion).digits c hc)

/-- A name does not end with a blank. -/
theorem endsOutside_endingChars (h : r.Writable) : Text.EndsOutside Text.isBlank r.endingChars := by
  have htags : Text.EndsOutside Text.isBlank r.tags.toList := by
    rw [tags, String.toList_append]
    exact (endsOutside_mark _ _).append (endsOutside_mark _ _)
  have hrest := (Text.endsOutside_of_forall h.episode.not_blank).append
    ((Text.endsOutside_of_forall (not_blank_version h)).append htags)
  -- the blank behind the dash is not the end, as there is an episode
  obtain ⟨c, rest, hepisode, -⟩ := h.episode.head
  intro d hd
  rw [endingChars, show ∀ s, ' ' :: '-' :: ' ' :: s = [' ', '-', ' '] ++ s from fun _ => rfl,
    List.getLast?_append_of_ne_nil _ (by simp [hepisode])] at hd
  exact hrest d hd

/-- The title of a name goes as far as its ending. -/
theorem titleEnding?_title (h : r.Writable) : titleEnding? (r.title.toList ++ r.endingChars) =
    some (r.title.toList, ⟨r.episode.toList, r.version.map String.toList, r.tags.toList⟩) := by
  obtain ⟨-, hlast⟩ := Text.trim_eq_self_iff.mp h.title_trim
  refine titleEnding?_of_shortest (by simpa using h.title_ne) (h.title_bracket '\n' (by decide)) ?_
    (ending?_endingChars h)
  rintro u ⟨first, hfirst⟩ hu -
  rw [Text.EndsOutside, ← hfirst, List.getLast?_append_of_ne_nil _ hu] at hlast
  refine ending?_of_before_dash hu hlast fun c hc => ?_
  have hmem : c ∈ r.title.toList := hfirst ▸ List.mem_append_right first hc
  have hsquare : c ≠ '[' := fun hbracket => h.title_bracket '[' (by decide) (hbracket ▸ hmem)
  have hround : c ≠ '(' := fun hbracket => h.title_bracket '(' (by decide) (hbracket ▸ hmem)
  simp [isOpening, hsquare, hround]

/-- **Release names round trip**: from the name of a release its parts are read again. -/
theorem ofStem_stem (h : r.Writable) : ofStem? r.stem = some r := by
  have hback : ∀ part : Option String, (part.map String.toList).map String.ofList = part := by
    intro part
    cases part <;> simp
  have hne : r.endingChars ≠ [] := List.cons_ne_nil _ _
  rw [stem_eq, ofStem?_of_titleEnding? (by simpa using h.group_ne) h.group_bracket (by simpa using h.title_ne)
    (Text.trim_eq_self_iff.mp h.title_trim).1 hne (endsOutside_endingChars h) (titleEnding?_title h)]
  simp only [resolution?_tags h, checksum?_tags h, hback, String.ofList_toList]
  exact congrArg₂ (fun group title => some (Release.mk group title _ _ _ _)) h.group_trim h.title_trim

/-- A title that looks like the beginning of an ending, and a group with brackets in it. -/
theorem ofStem_stem_of_dashes :
    let r : Release := ⟨"A (B[", "Another - Show - 12v2 - 1.5 x", "12.5", some "2", some "1080p", some "0123ABCD"⟩
    r.Writable ∧ r.stem = "[A (B[] Another - Show - 12v2 - 1.5 x - 12.5v2 [1080p][0123ABCD]" ∧
      ofStem? "[A (B[] Another - Show - 12v2 - 1.5 x - 12.5v2 [1080p][0123ABCD]" = some r := by
  intro r
  have hepisode : IsEpisode r.episode.toList := by
    rw [show r.episode.toList = ['1', '2'] ++ '.' :: ['5'] by decide]
    exact .part (by decide) (by decide)
  have hresolution : IsResolution "1080p".toList := by
    rw [show "1080p".toList = ['1', '0', '8', '0'] ++ ['p'] by decide]
    exact .lines ⟨by decide, by decide⟩
  have htitle : ['\n', '[', ']', '(', ')'].all (fun c => c ∉ r.title.toList) = true := by decide
  have hr : r.Writable := by
    refine ⟨by decide, by decide, by decide, by decide, by decide,
      fun c hc => of_decide_eq_true (List.all_eq_true.mp htitle c hc), hepisode, ?_, ?_, ?_⟩
    · rintro _ ⟨⟩
      decide
    · rintro _ ⟨⟩
      exact hresolution
    · rintro _ ⟨⟩
      decide
  have hstem : r.stem = "[A (B[] Another - Show - 12v2 - 1.5 x - 12.5v2 [1080p][0123ABCD]" := by decide +kernel
  refine ⟨hr, hstem, ?_⟩
  rw [← hstem]
  exact ofStem_stem hr

end Whole

end Release

end MediaCatalog
