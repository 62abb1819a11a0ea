import Mathlib.Data.List.Basic
import Mathlib.Data.List.Induction
import MediaCatalog.Namespace.Inode
import MediaCatalog.Proofs.Text.Segments

/-!
# Spellings of paths

The table of inode numbers knows a path in tidy spelling, without slashes at its ends. What tells such spellings
from each other are the names between the slashes, where a name is empty if two slashes follow each other. The
segments of a path are those of its names that are not empty.

* `Text.pathText`: the absolute path of names; `Text.pathText_inj`: it determines them.
* `innerNames`: the names in a path; `innerNames_eq_iff`: they determine the tidy spelling, and it them.
* `IsInner`: what names in a path are like; they are read off the path that they make up
  (`innerNames_pathText`).
* `segments_eq_filter`: the segments of a path are its non-empty names.
* `parentPath_eq`: the path of the parent has all names but the last.
-/

namespace MediaCatalog

/-- The absolute path of names. -/
def Text.pathText (names : List String) : String := "/" ++ "/".intercalate names

/-- No name holds a slash. -/
def Text.SlashFree (names : List String) : Prop := ∀ name ∈ names, '/' ∉ name.toList

/-- The names in a path, between its slashes but for those at its ends. A name is empty where one slash
follows another. -/
def innerNames (path : String) : List String :=
  if trimSlashes path.toList = [] then [] else ((trimSlashes path.toList).splitOn '/').map String.ofList

/-- Names as they are in a path: without slashes, and the outer ones not empty. -/
structure IsInner (names : List String) : Prop where
  slashFree : Text.SlashFree names
  head : names.head? ≠ some ""
  last : names.getLast? ≠ some ""

/-! ## Joined names -/

/-- A text joined to others comes behind one more separator. -/
theorem intercalate_concat {α : Type} {sep last : List α} {init : List (List α)} (h : init ≠ []) :
    sep.intercalate (init ++ [last]) = sep.intercalate init ++ (sep ++ last) := by
  induction init with
  | nil => exact absurd rfl h
  | cons first init ih =>
    cases init with
    | nil => simp [List.intercalate_cons_cons]
    | cons second init =>
      rw [List.cons_append, List.cons_append, List.intercalate_cons_cons, ← List.cons_append,
        ih (List.cons_ne_nil _ _), List.intercalate_cons_cons]
      simp only [List.append_assoc]

namespace Text

/-- The path of no names is that of the root. -/
theorem pathText_nil : pathText [] = "/" := rfl

/-- A path of one name. -/
theorem pathText_singleton (name : String) : pathText [name] = "/" ++ name := rfl

/-- A path with one more name. -/
theorem pathText_concat {names : List String} (h : names ≠ []) (name : String) :
    pathText (names ++ [name]) = pathText names ++ "/" ++ name := by
  have hne : names.map String.toList ≠ [] := mt List.map_eq_nil_iff.mp h
  rw [← String.toList_inj]
  simp only [pathText, String.toList_append, String.toList_intercalate, List.map_append, List.map_cons, List.map_nil,
    intercalate_concat hne, List.append_assoc]

/-- The characters of a path. -/
theorem toList_pathText (names : List String) :
    (pathText names).toList = '/' :: ['/'].intercalate (names.map String.toList) := by
  rw [pathText, String.toList_append, String.toList_intercalate]
  rfl

/-- **A path determines the names in it**, unless it is the root. -/
theorem pathText_inj {names names' : List String} (hnames : SlashFree names) (hnames' : SlashFree names')
    (hne : names ≠ []) (hne' : names' ≠ []) (h : pathText names = pathText names') : names = names' := by
  have hjoined : ['/'].intercalate (names.map String.toList) = ['/'].intercalate (names'.map String.toList) := by
    have htext := congrArg String.toList h
    rw [toList_pathText, toList_pathText] at htext
    exact (List.cons.inj htext).2
  have hsplit := splitOn_eq_names_iff.mpr ⟨hne, hnames, rfl⟩
  have hsplit' := splitOn_eq_names_iff.mpr ⟨hne', hnames', hjoined⟩
  exact hsplit.symm.trans hsplit'

end Text

/-! ## Names in a path -/

/-- A path without its outer slashes does not begin or end with one. -/
theorem trimSlashes_eq_trimEnds (s : List Char) : trimSlashes s = Text.trimEnds (· == '/') s := rfl

/-- The names in a path, joined by slashes, are the path without its outer slashes. -/
theorem intercalate_innerNames (path : String) :
    ['/'].intercalate ((innerNames path).map String.toList) = trimSlashes path.toList := by
  unfold innerNames
  split
  · next hnil => rw [hnil, List.map_nil, List.intercalate_nil]
  · exact (Text.splitOn_eq_names_iff.mp rfl).2.2.symm

/-- **The tidy spelling of a path** is made up of the names in it. -/
theorem tidyPath_eq (path : String) : tidyPath path = Text.pathText (innerNames path) := by
  rw [tidyPath, ← intercalate_innerNames, ← Text.toList_pathText, String.ofList_toList]

/-- **Paths have the same tidy spelling** exactly if the names in them are the same. -/
theorem innerNames_eq_iff {path path' : String} :
    innerNames path = innerNames path' ↔ tidyPath path = tidyPath path' := by
  constructor
  · intro h
    rw [tidyPath_eq, tidyPath_eq, h]
  · intro h
    have hinner : trimSlashes path.toList = trimSlashes path'.toList := (List.cons.inj (String.ofList_injective h)).2
    unfold innerNames
    rw [hinner]

/-- The names in a path have no slashes, and the outer ones are not empty. -/
theorem isInner_innerNames (path : String) : IsInner (innerNames path) := by
  have hbegins := Text.beginsOutside_trimEnds (· == '/') path.toList
  have hends := Text.endsOutside_trimEnds (· == '/') path.toList
  have hjoined := intercalate_innerNames path
  rw [← trimSlashes_eq_trimEnds, ← hjoined] at hbegins hends
  have hne : innerNames path ≠ [""] := by
    intro hempty
    have hnil : trimSlashes path.toList = [] := by
      rw [← hjoined, hempty]
      rfl
    rw [innerNames, if_pos hnil] at hempty
    cases hempty
  refine ⟨?_, ?_, ?_⟩
  · unfold innerNames
    split
    · exact nofun
    · exact (Text.splitOn_eq_names_iff.mp rfl).2.1
  · intro hhead
    obtain ⟨rest, hnames⟩ := List.head?_eq_some_iff.mp hhead
    rw [hnames] at hbegins hne
    cases rest with
    | nil => exact hne rfl
    | cons next rest => exact absurd (hbegins '/' rfl) (by decide)
  · intro hlast
    obtain ⟨init, hnames⟩ := List.getLast?_eq_some_iff.mp hlast
    rw [hnames] at hends hne
    have hinit : init.map String.toList ≠ [] := by
      rintro hnil
      rw [List.map_eq_nil_iff.mp hnil] at hne
      exact hne rfl
    rw [List.map_append, List.map_cons, List.map_nil, intercalate_concat hinit] at hends
    exact absurd (hends '/' (by simp)) (by decide)

/-- Names as they are in a path make up a text that does not begin with a slash. -/
theorem IsInner.beginsOutside {names : List String} (h : IsInner names) :
    Text.BeginsOutside (· == '/') (['/'].intercalate (names.map String.toList)) := by
  cases names with
  | nil => exact fun c hc => by cases hc
  | cons first rest =>
    have hfirst : first.toList ≠ [] := fun hnil => h.head (congrArg some (String.toList_inj.mp hnil))
    obtain ⟨c, cs, hchars⟩ := List.exists_cons_of_ne_nil hfirst
    have hslash : c ≠ '/' := by
      rintro rfl
      exact h.slashFree first List.mem_cons_self (hchars ▸ List.mem_cons_self)
    rw [List.map_cons, hchars]
    cases rest with
    | nil => exact Text.beginsOutside_cons (by simpa using hslash)
    | cons next rest => exact Text.beginsOutside_cons (by simpa using hslash)

/-- Names as they are in a path make up a text that does not end with a slash. -/
theorem IsInner.endsOutside {names : List String} (h : IsInner names) :
    Text.EndsOutside (· == '/') (['/'].intercalate (names.map String.toList)) := by
  have hends (name : String) (hname : name ∈ names) : Text.EndsOutside (· == '/') name.toList := by
    refine Text.endsOutside_of_forall fun c hc => ?_
    have hslash : c ≠ '/' := fun heq => h.slashFree name hname (heq ▸ hc)
    simpa using hslash
  rcases List.eq_nil_or_concat names with rfl | ⟨init, last, hnames⟩
  · exact fun c hc => by cases hc
  · rw [List.concat_eq_append] at hnames
    have hlast : last.toList ≠ [] := by
      intro hnil
      have hempty : last = "" := String.toList_inj.mp hnil
      exact h.last (by rw [hnames, List.getLast?_concat, hempty])
    have hlastEnds := hends last (hnames ▸ List.mem_append_right init List.mem_cons_self)
    by_cases hinit : init = []
    · rw [hnames, hinit]
      simpa using hlastEnds
    · have hne : init.map String.toList ≠ [] := mt List.map_eq_nil_iff.mp hinit
      rw [hnames, List.map_append, List.map_cons, List.map_nil, intercalate_concat hne, ← List.append_assoc]
      intro c hc
      rw [List.getLast?_append_of_ne_nil _ hlast] at hc
      exact hlastEnds c hc

/-- **Names are read off** the path that they make up. -/
theorem innerNames_pathText {names : List String} (h : IsInner names) : innerNames (Text.pathText names) = names := by
  cases hnames : names with
  | nil => rfl
  | cons first rest =>
    rw [← hnames]
    have hinner : trimSlashes (Text.pathText names).toList = ['/'].intercalate (names.map String.toList) := by
      rw [Text.toList_pathText]
      exact Text.trimEnds_eq_self h.beginsOutside h.endsOutside
    have hsplit := Text.splitOn_eq_names_iff.mpr ⟨hnames ▸ List.cons_ne_nil first rest, h.slashFree, rfl⟩
    have hne : ['/'].intercalate (names.map String.toList) ≠ [] := by
      intro hnil
      -- the empty text has one part, and that is empty
      rw [hnil, hnames] at hsplit
      have hempty : first = "" := (List.cons.inj hsplit).1.symm
      exact h.head (by rw [hnames, List.head?_cons, hempty])
    rw [innerNames, hinner, if_neg hne, hsplit]

/-- A path can be continued by a name. -/
theorem IsInner.concat {names : List String} (h : IsInner names) {name : String} (hne : name ≠ "")
    (hslash : '/' ∉ name.toList) : IsInner (names ++ [name]) := by
  refine ⟨?_, ?_, ?_⟩
  · intro other hother
    rcases List.mem_append.mp hother with hmem | hmem
    · exact h.slashFree other hmem
    · cases List.mem_singleton.mp hmem
      exact hslash
  · cases names with
    | nil => exact fun heq => hne (Option.some.inj heq)
    | cons first rest => exact h.head
  · rw [List.getLast?_concat]
    exact fun heq => hne (Option.some.inj heq)

/-! ## Segments -/

/-- Slashes at the ends of a path make no segments. -/
theorem segments_tidyPath (path : String) : Text.segments (tidyPath path) = Text.segments path := by
  have hruns : Text.runs (· == '/') (tidyPath path).toList = Text.runs (· == '/') path.toList := by
    rw [tidyPath, String.toList_ofList, ← List.singleton_append, Text.runs_append_left (by simp), trimSlashes_eq_trimEnds,
      Text.runs_trimEnds]
  rw [Text.segments, hruns]
  rfl

/-- The segments of a path that is made up of names are those that are not empty. -/
theorem segments_pathText {names : List String} (h : Text.SlashFree names) :
    Text.segments (Text.pathText names) = names.filter (· ≠ "") := by
  induction names using List.reverseRecOn with
  | nil => rfl
  | append_singleton init last ih =>
    have hinit : Text.SlashFree init := fun name hname => h name (List.mem_append_left _ hname)
    have hlast : Text.segments last = [last].filter (· ≠ "") := by
      by_cases hempty : last = ""
      · rw [hempty]
        rfl
      · rw [Text.segments_of_name hempty (h last (by simp))]
        simp [hempty]
    by_cases hnil : init = []
    · subst hnil
      have hroot : "/" ++ last = "" ++ "/" ++ last := by rw [String.empty_append]
      rw [List.nil_append, Text.pathText_singleton, hroot, Text.segments_slash, Text.segments_empty, hlast,
        List.nil_append]
    · rw [Text.pathText_concat hnil, Text.segments_slash, ih hinit, hlast, List.filter_append]

/-- **The segments of a path** are the names in it that are not empty. -/
theorem segments_eq_filter (path : String) : Text.segments path = (innerNames path).filter (· ≠ "") := by
  rw [← segments_tidyPath, tidyPath_eq, segments_pathText (isInner_innerNames path).slashFree]

/-! ## Parents -/

/-- What stands before the last slash. -/
theorem beforeLastSlash_append {s t : List Char} (h : '/' ∉ t) : beforeLastSlash (s ++ '/' :: t) = s := by
  have hdrop : (s ++ '/' :: t).reverse.dropWhile (· ≠ '/') = '/' :: s.reverse := by
    rw [List.reverse_append, List.reverse_cons, List.append_assoc, List.singleton_append]
    refine Text.dropWhile_append_of_beginsOutside ?_ (Text.beginsOutside_cons (by decide))
    intro c hc
    have hne : c ≠ '/' := fun heq => h (heq ▸ List.mem_reverse.mp hc)
    simpa using hne
  rw [beforeLastSlash, hdrop, List.drop_one, List.tail_cons, List.reverse_reverse]

/-- **The path of the parent** has all names but the last. -/
theorem parentPath_eq (path : String) : parentPath path = Text.pathText (innerNames path).dropLast := by
  have hslashes := (isInner_innerNames path).slashFree
  rw [parentPath, tidyPath_eq]
  rcases List.eq_nil_or_concat (innerNames path) with hnames | ⟨init, last, hnames⟩
  · rw [hnames]
    rfl
  · rw [List.concat_eq_append] at hnames
    have hlast : '/' ∉ last.toList := hslashes last (by simp [hnames])
    rw [hnames, List.dropLast_concat]
    by_cases hinit : init = []
    · subst hinit
      have hbefore : beforeLastSlash (Text.pathText ([] ++ [last])).toList = [] := by
        rw [List.nil_append, Text.pathText_singleton, String.toList_append]
        exact beforeLastSlash_append (s := []) hlast
      rw [hbefore]
      rfl
    · have hbefore : beforeLastSlash (Text.pathText (init ++ [last])).toList = (Text.pathText init).toList := by
        rw [Text.pathText_concat hinit, String.toList_append, String.toList_append, List.append_assoc]
        exact beforeLastSlash_append hlast
      rw [hbefore, Text.toList_pathText]
      change String.ofList ('/' :: _) = _
      rw [← Text.toList_pathText, String.ofList_toList]

/-- The segments of the parent's path are those of the path but the last. -/
theorem segments_parentPath (path : String) : Text.segments (parentPath path) = (Text.segments path).dropLast := by
  obtain ⟨hslashes, -, hlast⟩ := isInner_innerNames path
  rw [parentPath_eq, segments_pathText fun name hname => hslashes name (List.dropLast_subset _ hname), segments_eq_filter]
  rcases List.eq_nil_or_concat (innerNames path) with hnames | ⟨init, last, hnames⟩
  · rw [hnames]
    rfl
  · rw [List.concat_eq_append] at hnames
    have hne : last ≠ "" := by
      rintro rfl
      exact hlast (by rw [hnames, List.getLast?_concat])
    rw [hnames, List.filter_append, List.filter_cons_of_pos (by simpa using hne), List.filter_nil, List.dropLast_concat,
      List.dropLast_concat]

/-- **The path of the parent is made up of segments** exactly if no slash follows another one within the path. -/
theorem parentPath_eq_iff (path : String) :
    parentPath path = Text.pathText (Text.segments path).dropLast ↔ "" ∉ innerNames path := by
  obtain ⟨hslashes, hhead, hlast⟩ := isInner_innerNames path
  have hparent : Text.SlashFree (innerNames path).dropLast := fun name hname => hslashes name (List.dropLast_subset _ hname)
  rw [← segments_parentPath, parentPath_eq, segments_pathText hparent]
  constructor
  · intro htext hempty
    -- an empty name is neither the first nor the last one, so it is dropped among others
    rcases List.eq_nil_or_concat (innerNames path) with hnames | ⟨init, last, hnames⟩
    · rw [hnames] at hempty
      cases hempty
    rw [List.concat_eq_append] at hnames
    rw [hnames, List.dropLast_concat] at htext hparent
    have hinit : "" ∈ init := by
      rw [hnames] at hempty
      rcases List.mem_append.mp hempty with hinit | hsame
      · exact hinit
      · cases List.mem_singleton.mp hsame
        exact absurd (by rw [hnames, List.getLast?_concat]) hlast
    obtain ⟨first, rest, rfl⟩ := List.exists_cons_of_ne_nil (List.ne_nil_of_mem hinit)
    have hfirst : first ≠ "" := by
      rintro rfl
      exact hhead (by rw [hnames]; rfl)
    have hkept : first ∈ (first :: rest).filter (· ≠ "") := List.mem_filter.mpr ⟨List.mem_cons_self, by simpa using hfirst⟩
    have hsame := Text.pathText_inj hparent (fun name hname => hparent name (List.mem_of_mem_filter hname))
      (List.cons_ne_nil _ _) (List.ne_nil_of_mem hkept) htext
    rw [hsame] at hinit
    simpa using (List.mem_filter.mp hinit).2
  · intro hnone
    congr 1
    refine (List.filter_eq_self.mpr ?_).symm
    intro name hname
    have hne : name ≠ "" := fun heq => hnone (heq ▸ List.dropLast_subset _ hname)
    simpa using hne

end MediaCatalog
