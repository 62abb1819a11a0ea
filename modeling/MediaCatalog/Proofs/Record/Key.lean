import Mathlib.Data.Set.Function
import MediaCatalog.Record.Key

/-!
# What keys tell apart

The parts of a key stand between colons. The first part and a digest hold none, but the name of a backend and
the kind of a set may. Where names of backends do not, the parts of a key can be read off from both ends.

* `Key.isSet_file`, `Key.isSet_set`: files and sets are told apart by the first part of their keys.
* `Digest.Separates`: digests tell some texts apart and hold no colons; `Blake3.separates_of_injOn`.
* `Key.Regroups`, `Key.Confusable`: colons in the name of a backend, which may also be read as colons in a kind.
* **Main results** (`Key.eq_of_file`, `Key.set_eq_set_iff`): keys of files that are the same come from the same
  path, and keys of sets from the same parts up to such a reading; from the same parts (`Key.eq_of_set`), if
  names of backends hold no colons.
-/

namespace MediaCatalog

/-! ## Parts between separators -/

/-- The part before the first separator. -/
theorem takeWhile_separator {c : Char} {first : List Char} (h : c ∉ first) (rest : List Char) :
    (first ++ c :: rest).takeWhile (· ≠ c) = first := by
  rw [List.takeWhile_append_of_pos, List.takeWhile_cons_of_neg]
  · exact List.append_nil first
  · simp
  · intro d hd
    rw [decide_eq_true_eq]
    rintro rfl
    exact h hd

/-- Where the parts before the first separator hold none, both parts are determined. -/
theorem eq_of_append_separator {c : Char} {first first' rest rest' : List Char} (hfirst : c ∉ first) (hfirst' : c ∉ first')
    (h : first ++ c :: rest = first' ++ c :: rest') : first = first' ∧ rest = rest' := by
  have hsame : first = first' := by
    rw [← takeWhile_separator hfirst rest, h, takeWhile_separator hfirst' rest']
  subst hsame
  exact ⟨rfl, (List.cons.inj (List.append_cancel_left h)).2⟩

/-- Where the parts after the last separator hold none, both parts are determined. -/
theorem eq_of_append_separator_last {c : Char} {first first' last last' : List Char} (hlast : c ∉ last) (hlast' : c ∉ last')
    (h : first ++ c :: last = first' ++ c :: last') : first = first' ∧ last = last' := by
  have hreversed : last.reverse ++ c :: first.reverse = last'.reverse ++ c :: first'.reverse := by
    simpa using congrArg List.reverse h
  obtain ⟨hl, hf⟩ := eq_of_append_separator (mt List.mem_reverse.mp hlast) (mt List.mem_reverse.mp hlast') hreversed
  exact ⟨List.reverse_inj.mp hf, List.reverse_inj.mp hl⟩

/-- Texts that are joined at a separator are the same if their parts are, or if one of them is joined at a
separator within a part of the other. -/
theorem append_separator_eq_iff {c : Char} {first first' last last' : List Char} :
    first ++ c :: last = first' ++ c :: last' ↔
      (first = first' ∧ last = last') ∨ (∃ middle, first' = first ++ c :: middle ∧ last = middle ++ c :: last') ∨
        ∃ middle, first = first' ++ c :: middle ∧ last' = middle ++ c :: last := by
  constructor
  · intro h
    rcases List.append_eq_append_iff.mp h with ⟨between, hfirst, hlast⟩ | ⟨between, hfirst, hlast⟩
    · cases between with
      | nil => exact .inl ⟨by simpa using hfirst.symm, (List.cons.inj hlast).2⟩
      | cons d middle =>
        obtain ⟨rfl, hrest⟩ := List.cons.inj hlast
        exact .inr (.inl ⟨middle, hfirst, hrest⟩)
    · cases between with
      | nil => exact .inl ⟨by simpa using hfirst, (List.cons.inj hlast).2.symm⟩
      | cons d middle =>
        obtain ⟨rfl, hrest⟩ := List.cons.inj hlast
        exact .inr (.inr ⟨middle, hfirst, hrest⟩)
  · rintro (⟨rfl, rfl⟩ | ⟨middle, rfl, rfl⟩ | ⟨middle, rfl, rfl⟩)
    · rfl
    · rw [List.append_assoc, List.cons_append]
    · rw [List.append_assoc, List.cons_append]

/-! ## Files and sets -/

namespace Key

/-- The head of a key ends at its first colon. -/
theorem head_of_text {key : Key} {first : String} {rest : List Char} (hfirst : ':' ∉ first.toList)
    (htext : key.text.toList = first.toList ++ ':' :: rest) : key.head = first := by
  unfold head
  rw [htext, takeWhile_separator hfirst, String.ofList_toList]

/-- The key of a file is not that of a set. -/
theorem isSet_file (digest : Digest) (path : String) : (file digest path).isSet = false := by
  have htext : (file digest path).text.toList = fileHead.toList ++ ':' :: (digest path).toList := by
    rw [file_text, String.toList_append]
    rfl
  have hhead : (file digest path).head = fileHead := head_of_text (by decide) htext
  unfold isSet
  rw [hhead]
  decide

/-- The key of a set is that of a set. -/
theorem isSet_set (digest : Digest) (source kind name : String) : (set digest source kind name).isSet = true := by
  have htext : (set digest source kind name).text.toList =
      setHead.toList ++ ':' :: (source ++ ":" ++ kind ++ ":" ++ digest name).toList := by
    rw [set_text]
    simp only [String.toList_append, List.append_assoc]
    rfl
  have hhead : (set digest source kind name).head = setHead := head_of_text (by decide) htext
  unfold isSet
  rw [hhead]
  decide

/-- The second source and kind are read from the first ones, with the beginning of the kind, up to one of its
colons, taken as the end of the source. -/
def Regroups (source kind source' kind' : String) : Prop :=
  ∃ middle, source' = source ++ ":" ++ middle ∧ kind = middle ++ ":" ++ kind'

/-- A source that takes over the beginning of a kind holds a colon. -/
theorem Regroups.colon_mem {source kind source' kind' : String} (h : Regroups source kind source' kind') :
    ':' ∈ source'.toList := by
  obtain ⟨middle, rfl, -⟩ := h
  simp

/-- Sources and kinds that keys do not tell apart: they are the same, or are read from each other at another colon. -/
def Confusable (source kind source' kind' : String) : Prop :=
  (source = source' ∧ kind = kind') ∨ Regroups source kind source' kind' ∨ Regroups source' kind' source kind

/-- Sources without colons are not confused. -/
theorem confusable_iff_of_colon_not_mem {source kind source' kind' : String} (h : ':' ∉ source.toList)
    (h' : ':' ∉ source'.toList) : Confusable source kind source' kind' ↔ source = source' ∧ kind = kind' := by
  constructor
  · rintro (hsame | hregroups | hregroups)
    · exact hsame
    · exact absurd hregroups.colon_mem h'
    · exact absurd hregroups.colon_mem h
  · exact .inl

/-- The same in the characters of the texts. -/
theorem regroups_iff_toList {source kind source' kind' : String} :
    Regroups source kind source' kind' ↔
      ∃ middle, source'.toList = source.toList ++ ':' :: middle ∧ kind.toList = middle ++ ':' :: kind'.toList := by
  constructor
  · rintro ⟨middle, rfl, rfl⟩
    exact ⟨middle.toList, by simp, by simp⟩
  · rintro ⟨middle, hsource, hkind⟩
    refine ⟨String.ofList middle, String.toList_injective ?_, String.toList_injective ?_⟩
    · simpa using hsource
    · simpa using hkind

/-- They give the same text when they are joined at a colon. -/
theorem confusable_iff_toList {source kind source' kind' : String} :
    Confusable source kind source' kind' ↔
      source.toList ++ ':' :: kind.toList = source'.toList ++ ':' :: kind'.toList := by
  unfold Confusable
  rw [append_separator_eq_iff, regroups_iff_toList, regroups_iff_toList, String.toList_inj, String.toList_inj]

end Key

/-! ## Digests -/

/-- A digest tells some texts apart, and is a text without colons for each of them. -/
structure Digest.Separates (digest : Digest) (texts : Set String) : Prop where
  colonFree : ∀ text ∈ texts, ':' ∉ (digest text).toList
  injOn : Set.InjOn digest texts

/-- Hexadecimal text is made of hexadecimal digits. -/
theorem Text.exists_of_mem_hexOfBytes {bytes : ByteArray} {c : Char} (h : c ∈ (hexOfBytes bytes).toList) :
    ∃ n < 16, c = hexDigit n := by
  unfold hexOfBytes at h
  rw [String.toList_ofList] at h
  obtain ⟨b, -, hdigit⟩ := List.mem_flatMap.mp h
  have hb : b.toNat < 256 := b.toNat_lt
  rcases List.mem_cons.mp hdigit with heq | hlast
  · exact ⟨b.toNat / 16, by omega, heq⟩
  · exact ⟨b.toNat % 16, by omega, List.mem_singleton.mp hlast⟩

/-- A hexadecimal digit is no colon, and means nothing in a query. -/
theorem Text.hexDigit_ne {n : Nat} (h : n < 16) :
    hexDigit n ≠ ':' ∧ hexDigit n ≠ '\\' ∧ hexDigit n ≠ '(' ∧ hexDigit n ≠ ')' := by
  decide +revert

/-- Hexadecimal text holds no colons. -/
theorem Text.colon_not_mem_hexOfBytes (bytes : ByteArray) : ':' ∉ (hexOfBytes bytes).toList := by
  intro hmem
  obtain ⟨n, hn, hdigit⟩ := exists_of_mem_hexOfBytes hmem
  exact (hexDigit_ne hn).1 hdigit.symm

/-- The digests that programs use hold no colons, so they tell texts apart where they differ. -/
theorem Blake3.separates_of_injOn {texts : Set String} (h : Set.InjOn hashText texts) :
    Digest.Separates hashText texts :=
  ⟨fun text _ => Text.colon_not_mem_hexOfBytes (hash text.toUTF8), h⟩

/-- The digest of a text that fits into one block. -/
theorem Blake3.hashText_of_block {text : String} (h : text.toUTF8.size ≤ 64) :
    hashText text = Text.hexOfBytes (Node.rootChaining
      ⟨initialChain, blockAt text.toUTF8 0, 0, text.toUTF8.size.toUInt32, chunkStart ||| chunkEnd⟩).bytes := by
  have hcount : chunkCount text.toUTF8.size = 1 := by
    unfold chunkCount
    omega
  have hlength : min 1024 (text.toUTF8.size - 1024 * 0) = text.toUTF8.size := by omega
  unfold hashText hash
  rw [hcount, subtreeNode, if_neg (by omega), chunkNode, chunkFrom, hlength, dif_neg (by omega)]
  rfl

namespace Key

variable {digest : Digest} {texts : Set String}

/-- Keys of files tell paths apart where digests do. -/
theorem injOn_file (h : Set.InjOn digest texts) : Set.InjOn (file digest) texts := by
  intro path hpath path' hpath' hsame
  have htext := congrArg Key.text hsame
  rw [file_text, file_text, String.append_right_inj] at htext
  exact h hpath hpath' htext

variable (hdigest : digest.Separates texts)
include hdigest

/-- **Files with one key** have one path, where digests tell paths apart. -/
theorem eq_of_file {path path' : String} (hpath : path ∈ texts) (hpath' : path' ∈ texts)
    (h : file digest path = file digest path') : path = path' :=
  injOn_file hdigest.injOn hpath hpath' h

/-- **Which sets have one key**: sets of one name whose sources and kinds are the same, or are read from each
other at another colon. -/
theorem set_eq_set_iff {source source' kind kind' name name' : String} (hname : name ∈ texts) (hname' : name' ∈ texts) :
    set digest source kind name = set digest source' kind' name' ↔
      name = name' ∧ Confusable source kind source' kind' := by
  have htext : ∀ source kind name, (set digest source kind name).text.toList =
      "set:".toList ++ ((source.toList ++ ':' :: kind.toList) ++ ':' :: (digest name).toList) := by
    intro source kind name
    simp [set_text]
  constructor
  · intro h
    have hchars := congrArg (fun key : Key => key.text.toList) h
    simp only [htext, List.append_cancel_left_eq] at hchars
    obtain ⟨hparts, hdigests⟩ :=
      eq_of_append_separator_last (hdigest.colonFree name hname) (hdigest.colonFree name' hname') hchars
    refine ⟨hdigest.injOn hname hname' (String.toList_injective hdigests), ?_⟩
    exact confusable_iff_toList.mpr hparts
  · rintro ⟨rfl, h⟩
    have hchars : (set digest source kind name).text.toList = (set digest source' kind' name).text.toList := by
      rw [htext, htext, confusable_iff_toList.mp h]
    exact congrArg Key.mk (String.toList_injective hchars)

/-- **Sets with one key** come from backends of one name and have one kind and one name, where names of
backends hold no colons and digests tell names of sets apart. -/
theorem eq_of_set {source source' kind kind' name name' : String} (hsource : ':' ∉ source.toList)
    (hsource' : ':' ∉ source'.toList) (hname : name ∈ texts) (hname' : name' ∈ texts)
    (h : set digest source kind name = set digest source' kind' name') :
    source = source' ∧ kind = kind' ∧ name = name' := by
  obtain ⟨hnames, hconfusable⟩ := (set_eq_set_iff hdigest hname hname').mp h
  obtain ⟨hsources, hkinds⟩ := (confusable_iff_of_colon_not_mem hsource hsource').mp hconfusable
  exact ⟨hsources, hkinds, hnames⟩

end Key

end MediaCatalog
