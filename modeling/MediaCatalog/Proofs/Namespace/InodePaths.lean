import MediaCatalog.Proofs.Namespace.Inode
import MediaCatalog.Proofs.Namespace.Spelling

/-!
# Paths in the table of inode numbers

A number stands for a spelling of a path, slashes at the ends aside. That is one number for each node of the
namespace as long as no path has two slashes within that follow each other; a path that has some is a path of
its own to the table, but not to the namespace.

* `InodeTable.WellFormed.number_eq_iff`: a path has a known number exactly if its spelling is the known one.
* `InodeTable.Settles.path?_after`: calls that do not evict a number leave it its path.
* **Numbers and nodes** (`InodeTable.number_eq_iff_innerNames_eq`): two paths have one number exactly if the
  names in them are the same, empty ones included.
* `InodeTable.Tidy`: all paths in the table have a tidy spelling; one call keeps this (`Tidy.perform`), so a
  run does (`tidy_after`).
* **Children and parents** (`InodeTable.parentPath_childPath?`): the path of a child leads back to its parent,
  and tells the parent and the name.
-/

namespace MediaCatalog.InodeTable

variable {t : InodeTable} {past : List InodeEvent} {inode : Nat} {path name : String}

/-! ## The number of a path -/

/-- **A path has a known number** exactly if its tidy spelling is the path of that number. -/
theorem WellFormed.number_eq_iff (h : t.WellFormed) (hpath : t.path? inode = some path) (asked : String) :
    (t.number asked).1 = inode ↔ tidyPath asked = path := by
  have hknown : t.numbers.get? path = some inode := (h.inverse path inode).mpr hpath
  rcases t.number_spec asked with ⟨other, hfind, hnumber⟩ | ⟨hnone, hnumber⟩
  · have hother : t.path? other = some (tidyPath asked) := (h.inverse _ _).mp hfind
    rw [hnumber]
    constructor
    · rintro rfl
      exact Option.some.inj (hother.symm.trans hpath)
    · rintro rfl
      exact Option.some.inj (hfind.symm.trans hknown)
  · rw [hnumber]
    refine iff_of_false (Nat.ne_of_gt (h.below inode path hpath)) ?_
    rintro rfl
    rw [hknown] at hnone
    cases hnone

/-- A call that does not evict a number leaves it its path. -/
theorem WellFormed.path?_perform (h : t.WellFormed) (hpath : t.path? inode = some path) {call : InodeCall}
    (hkept : ∀ count, (t.perform call).1 ≠ .forgotten inode count true) : (t.perform call).2.path? inode = some path := by
  have hnumber (asked : String) : (t.number asked).2.path? inode = some path := by
    rcases t.number_spec asked with ⟨other, -, hnumber⟩ | ⟨-, hnumber⟩
    · rw [hnumber]
      exact hpath
    · rw [hnumber, path?_add, if_neg (Nat.ne_of_gt (h.below inode path hpath))]
      exact hpath
  cases call with
  | number asked | lookup asked => exact hnumber asked
  | forget asked count =>
    rw [perform, path?_forget, if_neg]
    · exact hpath
    · rintro ⟨hdropped, rfl⟩
      exact hkept count (by rw [perform, hdropped])

/-- **Calls that do not evict a number** leave it its path. -/
theorem Settles.path?_after (h : t.Settles past) (hpath : t.path? inode = some path) {calls : List InodeCall}
    (hkept : ∀ e ∈ t.history calls, ∀ count, e ≠ .forgotten inode count true) :
    (t.after calls).path? inode = some path ∧ (t.after calls).WellFormed := by
  induction calls generalizing t past with
  | nil => exact ⟨hpath, h.wellFormed⟩
  | cons call rest ih =>
    have hcall := h.wellFormed.path?_perform hpath (hkept _ List.mem_cons_self)
    exact ih (h.perform call) hcall fun e he => hkept e (List.mem_cons_of_mem _ he)

/-- **A number stands for the names in a path.** After any calls let a path be asked for its number, which is not
evicted by the calls that follow. Then another path has the same number exactly if the names in both paths between the
slashes are the same, empty names included, while the segments, by which a path is resolved, are the names that are not
empty. So paths with one number have the same segments; and paths with the same segments have one number if no slash
follows another one within them. The path of a parent has the segments but the last, and is spelled by these segments
exactly if no slash follows another one within the path. -/
theorem number_eq_iff_innerNames_eq (calls between : List InodeCall) (p q : String)
    (hkept : ∀ e ∈ ((initial.after calls).number p).2.history between, ∀ count,
      e ≠ .forgotten ((initial.after calls).number p).1 count true) :
    let inode := ((initial.after calls).number p).1
    let later := ((initial.after calls).number p).2.after between
    ((later.number q).1 = inode ↔ innerNames q = innerNames p) ∧
      ((later.number q).1 = inode → Text.segments q = Text.segments p) ∧
      ("" ∉ innerNames p → "" ∉ innerNames q → ((later.number q).1 = inode ↔ Text.segments q = Text.segments p)) ∧
      Text.segments p = (innerNames p).filter (· ≠ "") ∧
      Text.segments (parentPath p) = (Text.segments p).dropLast ∧
      (parentPath p = Text.pathText (Text.segments p).dropLast ↔ "" ∉ innerNames p) := by
  intro inode later
  have hsettles := (settles_after calls).number p
  have hpath := (settles_after calls).wellFormed.path?_number p
  obtain ⟨hlater, hwell⟩ := hsettles.path?_after hpath hkept
  have hnumber : (later.number q).1 = inode ↔ innerNames q = innerNames p :=
    (hwell.number_eq_iff hlater q).trans innerNames_eq_iff.symm
  have hplain (path : String) (h : "" ∉ innerNames path) : Text.segments path = innerNames path := by
    rw [segments_eq_filter, List.filter_eq_self]
    intro name hname
    have hne : name ≠ "" := fun heq => h (heq ▸ hname)
    simpa using hne
  refine ⟨hnumber, ?_, ?_, segments_eq_filter p, segments_parentPath p, parentPath_eq_iff p⟩
  · intro hsame
    rw [segments_eq_filter, segments_eq_filter, hnumber.mp hsame]
  · intro hp hq
    rw [hplain p hp, hplain q hq]
    exact hnumber

/-- The number of a path with a slash at its end, after another path was dropped. -/
theorem number_eq_iff_innerNames_eq_of_trailing_slash :
    let calls : List InodeCall := [.lookup "/by-name"]
    let between : List InodeCall := [.forget 2 1, .number "/by-group"]
    (∀ e ∈ ((initial.after calls).number "/a/b").2.history between, ∀ count,
        e ≠ .forgotten ((initial.after calls).number "/a/b").1 count true) ∧
      ((((initial.after calls).number "/a/b").2.after between).number "a/b/").1 =
        ((initial.after calls).number "/a/b").1 ∧ parentPath "/a/b" = "/a" := by
  intro calls between
  have hhistory : ((initial.after calls).number "/a/b").2.history between =
      [.forgotten 2 1 true, .numbered "/by-group" 4] := rfl
  have hinode : ((initial.after calls).number "/a/b").1 = 3 := rfl
  have hkept : ∀ e ∈ ((initial.after calls).number "/a/b").2.history between, ∀ count,
      e ≠ .forgotten ((initial.after calls).number "/a/b").1 count true := by
    rw [hhistory, hinode]
    simp
  obtain ⟨hnumber, -, -, -, -, hparent⟩ := number_eq_iff_innerNames_eq calls between "/a/b" "a/b/" hkept
  refine ⟨hkept, hnumber.mpr ?_, (hparent.mpr ?_).trans ?_⟩
  · decide +kernel
  · decide +kernel
  · decide +kernel

/-- Paths with the same segments need not have one number. -/
theorem not_one_number_per_node :
    ¬∀ (calls between : List InodeCall) (p q : String),
      (∀ e ∈ ((initial.after calls).number p).2.history between, ∀ count,
        e ≠ .forgotten ((initial.after calls).number p).1 count true) →
        (((((initial.after calls).number p).2.after between).number q).1 = ((initial.after calls).number p).1 ↔
          Text.segments q = Text.segments p) := by
  intro hclaim
  have hkept : ∀ e ∈ ((initial.after []).number "/a/b").2.history [], ∀ count,
      e ≠ .forgotten ((initial.after []).number "/a/b").1 count true := fun e he => absurd he List.not_mem_nil
  have hsame := (hclaim [] [] "/a/b" "/a//b" hkept).mpr (by decide +kernel)
  exact absurd hsame (by decide +kernel)

/-! ## Tidy paths -/

/-- The paths in a table have a tidy spelling. -/
def Tidy (t : InodeTable) : Prop := ∀ inode path, t.path? inode = some path → tidyPath path = path

/-- A tidy spelling is its own. -/
theorem tidyPath_tidyPath (path : String) : tidyPath (tidyPath path) = tidyPath path := by
  rw [tidyPath_eq (tidyPath path), tidyPath_eq path, innerNames_pathText (isInner_innerNames path)]

/-- The path of the root is tidy. -/
theorem tidy_initial : initial.Tidy := by
  intro inode path hpath
  rw [path?, initial, NumberMap.get?_insert] at hpath
  split at hpath
  · cases hpath
    decide
  · cases hpath

/-- **One call** keeps the paths tidy. -/
theorem Tidy.perform (h : t.Tidy) (call : InodeCall) : (t.perform call).2.Tidy := by
  have hnumber (asked : String) : (t.number asked).2.Tidy := by
    intro inode path hpath
    rcases t.number_spec asked with ⟨other, -, hnumber⟩ | ⟨-, hnumber⟩
    · rw [hnumber] at hpath
      exact h inode path hpath
    · rw [hnumber, path?_add] at hpath
      split at hpath
      · cases hpath
        exact tidyPath_tidyPath asked
      · exact h inode path hpath
  cases call with
  | number asked | lookup asked => exact hnumber asked
  | forget asked count =>
    intro inode path hpath
    rw [InodeTable.perform, path?_forget] at hpath
    split at hpath
    · cases hpath
    · exact h inode path hpath

/-- After a run of calls the paths are tidy. -/
theorem tidy_after (calls : List InodeCall) : (initial.after calls).Tidy := by
  induction calls using List.reverseRecOn with
  | nil => exact tidy_initial
  | append_singleton calls call ih =>
    rw [after_concat]
    exact ih.perform call

/-! ## Children -/

/-- **The path of a child** is made up of the names of its parent's path, and its own. -/
theorem Tidy.childPath?_eq (h : t.Tidy) (hpath : t.path? inode = some path) (name : String) :
    t.childPath? inode name = some (Text.pathText (innerNames path ++ [name])) := by
  have htidy : path = Text.pathText (innerNames path) := (h inode path hpath).symm.trans (tidyPath_eq path)
  rw [childPath?, hpath, Option.map_some, Option.some.injEq]
  by_cases hnames : innerNames path = []
  · rw [hnames, Text.pathText_nil] at htidy
    rw [if_pos htidy, hnames]
    rfl
  · have hroot : path ≠ "/" := by
      rintro rfl
      exact hnames rfl
    rw [if_neg hroot, Text.pathText_concat hnames, ← htidy]

/-- **A child's path leads back to its parent.** After any calls a node has no path below it exactly if its number is
not known. If its number is known, then for each name that is not empty and has no slash there is a path below the node,
the parent of that path is the path of the node, and the path looked up is the path of the number answered. Paths below
nodes are different for different nodes, and for different names. -/
theorem parentPath_childPath? (calls : List InodeCall) :
    let t := initial.after calls
    (∀ inode name, t.childPath? inode name = none ↔ t.path? inode = none) ∧
      (∀ inode name parent, t.path? inode = some parent → name ≠ "" → '/' ∉ name.toList →
        ∃ path, t.childPath? inode name = some path ∧ parentPath path = parent ∧
          (t.lookup path).2.path? (t.lookup path).1 = some path) ∧
      ∀ i j n m parent parent', t.path? i = some parent → t.path? j = some parent' → n ≠ "" → '/' ∉ n.toList →
        m ≠ "" → '/' ∉ m.toList → t.childPath? i n = t.childPath? j m → i = j ∧ n = m := by
  intro t
  have htidy : t.Tidy := tidy_after calls
  have hwell : t.WellFormed := (settles_after calls).wellFormed
  -- the names in the path below a node
  have hnames : ∀ {parent name}, name ≠ "" → '/' ∉ name.toList →
      innerNames (Text.pathText (innerNames parent ++ [name])) = innerNames parent ++ [name] :=
    fun hne hslash => innerNames_pathText ((isInner_innerNames _).concat hne hslash)
  refine ⟨fun inode name => Option.map_eq_none_iff, ?_, ?_⟩
  · intro inode name parent hparent hne hslash
    refine ⟨_, htidy.childPath?_eq hparent name, ?_, ?_⟩
    · rw [parentPath_eq, hnames hne hslash, List.dropLast_concat, ← tidyPath_eq, htidy inode parent hparent]
    · have hfound := hwell.path?_number (Text.pathText (innerNames parent ++ [name]))
      rw [tidyPath_eq, hnames hne hslash] at hfound
      exact hfound
  · intro i j n m parent parent' hparent hparent' hn hnslash hm hmslash hsame
    rw [htidy.childPath?_eq hparent n, htidy.childPath?_eq hparent' m, Option.some.injEq] at hsame
    have hjoined := congrArg innerNames hsame
    rw [hnames hn hnslash, hnames hm hmslash] at hjoined
    obtain ⟨hinner, hlast⟩ := List.append_inj' hjoined rfl
    have hspelling := innerNames_eq_iff.mp hinner
    rw [htidy i parent hparent, htidy j parent' hparent'] at hspelling
    rw [← hspelling] at hparent'
    exact ⟨Option.some.inj (((hwell.inverse parent i).mpr hparent).symm.trans ((hwell.inverse parent j).mpr hparent')),
      (List.cons.inj hlast).1⟩

/-- The paths below the root and below another node, after a path was asked for with slashes that it does not need. -/
theorem parentPath_childPath?_of_two_nodes :
    let t := initial.after [.lookup "tv//Pilot/"]
    t.path? 1 = some "/" ∧ t.path? 2 = some "/tv//Pilot" ∧
      (t.childPath? 1 "tv" = some "/tv" ∧ parentPath "/tv" = "/" ∧ (t.lookup "/tv").2.path? (t.lookup "/tv").1 = some "/tv") ∧
      (t.childPath? 2 "tv" = some "/tv//Pilot/tv" ∧ parentPath "/tv//Pilot/tv" = "/tv//Pilot" ∧
        (t.lookup "/tv//Pilot/tv").2.path? (t.lookup "/tv//Pilot/tv").1 = some "/tv//Pilot/tv") ∧
      t.childPath? 1 "tv" ≠ t.childPath? 2 "tv" ∧ t.childPath? 3 "tv" = none := by
  intro t
  obtain ⟨hnone, hchild, hinjective⟩ := parentPath_childPath? [.lookup "tv//Pilot/"]
  have hroot : t.path? 1 = some "/" := by decide +kernel
  have hnode : t.path? 2 = some "/tv//Pilot" := by decide +kernel
  have hname : "tv" ≠ "" ∧ '/' ∉ "tv".toList := by decide +kernel
  have hbelowRoot : t.childPath? 1 "tv" = some "/tv" := by decide +kernel
  have hbelowNode : t.childPath? 2 "tv" = some "/tv//Pilot/tv" := by decide +kernel
  obtain ⟨path, hpath, hparent⟩ := hchild 1 "tv" "/" hroot hname.1 hname.2
  cases hbelowRoot.symm.trans hpath
  obtain ⟨path', hpath', hparent'⟩ := hchild 2 "tv" "/tv//Pilot" hnode hname.1 hname.2
  cases hbelowNode.symm.trans hpath'
  refine ⟨hroot, hnode, ⟨hpath, hparent⟩, ⟨hpath', hparent'⟩, fun hsame => ?_, ?_⟩
  · have hinodes := (hinjective 1 2 "tv" "tv" "/" "/tv//Pilot" hroot hnode hname.1 hname.2 hname.1 hname.2 hsame).1
    exact absurd hinodes (by decide)
  · exact (hnone 3 "tv").mpr (by decide +kernel)

end MediaCatalog.InodeTable
