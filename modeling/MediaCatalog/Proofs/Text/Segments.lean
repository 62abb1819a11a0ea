import MediaCatalog.Proofs.Text.Ends
import MediaCatalog.Text.Segments

/-!
# Paths and their segments

Joining paths with a slash joins their segments, whatever slashes stand at the ends.

* `splitOn_eq_names_iff`: names between separators are read off the text that they make up.
* `segments_slash`: the segments of two paths with a slash between.
* `segments_child`: a path continued by one name.
* `descend`: a path continued by names; these are its further segments (`segments_descend`).
* `Respelled`: a path with more slashes than it needs; its segments are the same (`Respelled.segments_eq`).
-/

namespace MediaCatalog.Text

/-! ## Runs between separators -/

/-- What stands between separators has none. -/
theorem eq_false_of_mem_splitOnP {sep : Char → Bool} {s part : List Char} (h : part ∈ s.splitOnP sep) :
    ∀ c ∈ part, sep c = false := by
  induction s generalizing part with
  | nil =>
    cases List.mem_singleton.mp h
    exact fun c hc => absurd hc List.not_mem_nil
  | cons first rest ih =>
    rw [List.splitOnP_cons_eq_if_modifyHead] at h
    split at h
    · rcases List.mem_cons.mp h with rfl | h
      · exact fun c hc => absurd hc List.not_mem_nil
      · exact ih h
    · next hfirst =>
      -- the first character goes to the first part of the rest
      obtain ⟨head, tail, hsplit⟩ := List.exists_cons_of_ne_nil (List.splitOnP_ne_nil sep rest)
      rw [hsplit] at h ih
      rcases List.mem_cons.mp h with rfl | h
      · intro c hc
        rcases List.mem_cons.mp hc with rfl | hc
        · simpa using hfirst
        · exact ih List.mem_cons_self c hc
      · exact ih (List.mem_cons_of_mem _ h)

/-- **Names between separators** are read off the text that they make up: those that have no separator. -/
theorem splitOn_eq_names_iff {sep : Char} {s : List Char} {names : List String} :
    (s.splitOn sep).map String.ofList = names ↔
      names ≠ [] ∧ (∀ name ∈ names, sep ∉ name.toList) ∧ s = [sep].intercalate (names.map String.toList) := by
  constructor
  · rintro rfl
    have hparts : ((s.splitOn sep).map String.ofList).map String.toList = s.splitOn sep := by simp
    refine ⟨mt List.map_eq_nil_iff.mp (List.splitOnP_ne_nil _ _), ?_, ?_⟩
    · intro name hname hsep
      obtain ⟨part, hpart, rfl⟩ := List.mem_map.mp hname
      rw [String.toList_ofList] at hsep
      simpa using eq_false_of_mem_splitOnP hpart sep hsep
    · rw [hparts, List.intercalate_splitOn]
  · rintro ⟨hne, hfree, rfl⟩
    have hsplit : ([sep].intercalate (names.map String.toList)).splitOn sep = names.map String.toList := by
      apply List.splitOn_intercalate
      · intro part hpart
        obtain ⟨name, hname, rfl⟩ := List.mem_map.mp hpart
        exact hfree name hname
      · exact mt List.map_eq_nil_iff.mp hne
    rw [hsplit, List.map_map]
    simp

/-- A separator divides the runs before it from those after it. -/
theorem runs_append_cons {sep : Char → Bool} {c : Char} (hc : sep c = true) (s t : List Char) :
    runs sep (s ++ c :: t) = runs sep s ++ runs sep t := by
  rw [runs, List.splitOnP_append_cons _ _ hc, List.filter_append]
  rfl

/-- A non-empty text without separators is one run. -/
theorem runs_of_forall {sep : Char → Bool} {s : List Char} (hne : s ≠ []) (h : ∀ c ∈ s, sep c = false) :
    runs sep s = [s] := by
  rw [runs, List.splitOnP_eq_singleton h]
  cases s with
  | nil => exact absurd rfl hne
  | cons c rest => rfl

/-- Separators in front of a text make no runs. -/
theorem runs_append_left {sep : Char → Bool} {before : List Char} (h : ∀ c ∈ before, sep c = true) (s : List Char) :
    runs sep (before ++ s) = runs sep s := by
  induction before with
  | nil => rfl
  | cons c before ih =>
    have hdrop : runs sep (c :: (before ++ s)) = runs sep (before ++ s) :=
      runs_append_cons (h c List.mem_cons_self) [] (before ++ s)
    rw [List.cons_append, hdrop, ih fun d hd => h d (List.mem_cons_of_mem c hd)]

/-- Separators behind a text make no runs. -/
theorem runs_append_right {sep : Char → Bool} {after : List Char} (h : ∀ c ∈ after, sep c = true) (s : List Char) :
    runs sep (s ++ after) = runs sep s := by
  cases after with
  | nil => rw [List.append_nil]
  | cons c after =>
    have hafter : runs sep after = [] := by
      have hnone := runs_append_left (fun d hd => h d (List.mem_cons_of_mem c hd)) ([] : List Char)
      rwa [List.append_nil] at hnone
    rw [runs_append_cons (h c List.mem_cons_self), hafter, List.append_nil]

/-- **The ends of a text** make no runs if they are separators. -/
theorem runs_trimEnds (sep : Char → Bool) (s : List Char) : runs sep (trimEnds sep s) = runs sep s := by
  obtain ⟨before, after, hs, hbefore, hafter⟩ := exists_ends sep s
  have hruns := congrArg (runs sep) hs
  rw [runs_append_left hbefore, runs_append_right hafter] at hruns
  exact hruns.symm

/-! ## Segments -/

/-- Two paths with a slash between have the segments of both. -/
theorem segments_slash (path path' : String) :
    segments (path ++ "/" ++ path') = segments path ++ segments path' := by
  have hlist : (path ++ "/" ++ path').toList = path.toList ++ '/' :: path'.toList := by simp
  rw [segments, hlist, runs_append_cons (by rfl), List.map_append]
  rfl

/-- A name that holds no slash is one segment. -/
theorem segments_of_name {name : String} (hne : name ≠ "") (h : '/' ∉ name.toList) : segments name = [name] := by
  have hruns : runs (· == '/') name.toList = [name.toList] := by
    refine runs_of_forall (fun hnil => hne (String.toList_inj.mp hnil)) fun c hc => ?_
    have hslash : c ≠ '/' := fun heq => h (heq ▸ hc)
    simpa using hslash
  rw [segments, hruns]
  simp

/-- A path continued by a name has one more segment. -/
theorem segments_child {name : String} (path : String) (hne : name ≠ "") (h : '/' ∉ name.toList) :
    segments (path ++ "/" ++ name) = segments path ++ [name] := by
  rw [segments_slash, segments_of_name hne h]

/-- A path continued by names, each behind a slash. -/
def descend (path : String) (names : List String) : String := names.foldl (fun path name => path ++ "/" ++ name) path

/-- The names by which a path is continued are its further segments. -/
theorem segments_descend {names : List String} (path : String) (h : ∀ name ∈ names, name ≠ "" ∧ '/' ∉ name.toList) :
    segments (descend path names) = segments path ++ names := by
  induction names generalizing path with
  | nil => exact (List.append_nil _).symm
  | cons name names ih =>
    obtain ⟨hne, hslash⟩ := h name List.mem_cons_self
    have hnames := ih (path ++ "/" ++ name) fun x hx => h x (List.mem_cons_of_mem name hx)
    rw [segments_child path hne hslash, List.append_assoc] at hnames
    exact hnames

/-! ## Spellings -/

/-- The spellings of a path with more slashes: in front, at the end, and next to others. -/
inductive Respelled (path : String) : String → Prop
  | same : Respelled path path
  | leading {p : String} (h : Respelled path p) : Respelled path ("/" ++ p)
  | trailing {p : String} (h : Respelled path p) : Respelled path (p ++ "/")
  | doubled {p p' : String} (h : Respelled path (p ++ "/" ++ p')) : Respelled path (p ++ "//" ++ p')

/-- A path without characters has no segments. -/
theorem segments_empty : segments "" = [] := rfl

/-- **More slashes** make no segments. -/
theorem Respelled.segments_eq {path path' : String} (h : Respelled path path') : segments path' = segments path := by
  induction h with
  | same => rfl
  | @leading p h ih =>
    have hfront : "/" ++ p = "" ++ "/" ++ p := by rw [String.empty_append]
    rw [hfront, segments_slash, segments_empty, List.nil_append, ih]
  | @trailing p h ih =>
    have hend : p ++ "/" = p ++ "/" ++ "" := by rw [String.append_empty]
    rw [hend, segments_slash, segments_empty, List.append_nil, ih]
  | @doubled p p' h ih =>
    have htwo : p ++ "//" = p ++ "/" ++ "" ++ "/" := by
      rw [String.append_empty, String.append_assoc]
      rfl
    rw [htwo, segments_slash, segments_slash, segments_empty, List.append_nil, ← segments_slash, ih]

end MediaCatalog.Text
