import MediaCatalog.Proofs.Files.Walk

/-!
# Walks in the order of names

A directory lists its children in no particular order. A walk takes them in the order of their names: first
the files of a directory, then its subdirectories one after the other. This file says which files a walk
comes across, and in which order.

* `FileNode.ordered`: the tree with all directories in the order of names.
* `FileNode.Reaches`: a regular file is reached through listable directories; it is one of a directory's own
  or is reached from a subdirectory (`FileNode.reaches_directory_iff`).
* `WalksBefore`: the order of a walk on the names that lead to files.
* **Main result** (`FileNode.WellFormed.walks`): a walk comes across just the files that are reached, in the
  order of walks.
-/

namespace MediaCatalog

/-! ## Trees in the order of names -/

/-- Of two different names one comes before the other. -/
theorem FileName.lt_of_le_of_ne {a b : FileName} (h : a ≤ b) (hne : a ≠ b) : a < b :=
  Classical.byContradiction fun hnot => hne (List.le_antisymm h (List.not_lt.mp hnot))

mutual

/-- The node with the children of every directory in the order of their names. -/
def FileNode.ordered : FileNode → FileNode
  | .directory stat listable children => .directory stat listable (inNameOrder (orderedChildren children))
  | node => node

/-- Children with all that is below them in the order of names. -/
def orderedChildren : List (FileName × FileNode) → List (FileName × FileNode)
  | [] => []
  | (name, node) :: rest => (name, node.ordered) :: orderedChildren rest

end

/-- Every child is put in order. -/
theorem orderedChildren_eq_map (children : List (FileName × FileNode)) :
    orderedChildren children = children.map fun child => (child.1, child.2.ordered) := by
  induction children with
  | nil => rfl
  | cons child rest ih => rw [orderedChildren, ih, List.map_cons]

/-- A directory in the order of names. -/
theorem FileNode.ordered_directory (stat : FileStat) (listable : Bool) (children : List (FileName × FileNode)) :
    (directory stat listable children).ordered =
      .directory stat listable ((inNameOrder children).map fun child => (child.1, child.2.ordered)) := by
  rw [ordered, orderedChildren_eq_map, inNameOrder, inNameOrder]
  congr 1
  symm
  apply List.map_mergeSort
  intro a _ b _
  rfl

/-- Nothing comes or goes in the order of names. -/
theorem mem_inNameOrder {children : List (FileName × FileNode)} {child : FileName × FileNode} :
    child ∈ inNameOrder children ↔ child ∈ children :=
  List.mem_mergeSort

/-- **Different names are in strict order** then. -/
theorem pairwise_inNameOrder {children : List (FileName × FileNode)} (h : (children.map Prod.fst).Nodup) :
    (inNameOrder children).Pairwise fun a b => a.1 < b.1 := by
  have hsorted : (inNameOrder children).Pairwise fun a b => decide (a.1 ≤ b.1) = true := by
    apply List.pairwise_mergeSort
    · intro a b c hab hbc
      exact decide_eq_true (List.le_trans (of_decide_eq_true hab) (of_decide_eq_true hbc))
    · intro a b
      rw [Bool.or_eq_true, decide_eq_true_eq, decide_eq_true_eq]
      exact List.le_total a.1 b.1
  have hdifferent : (inNameOrder children).Pairwise fun a b => a.1 ≠ b.1 := by
    have hnodup := ((List.mergeSort_perm children fun a b => a.1 ≤ b.1).map Prod.fst).nodup_iff.mpr h
    exact List.pairwise_map.mp hnodup
  apply (hsorted.and hdifferent).imp
  rintro a b ⟨hle, hne⟩
  exact FileName.lt_of_le_of_ne (of_decide_eq_true hle) hne

/-- A directory stays one. -/
theorem FileNode.isDirectory_ordered (node : FileNode) : node.ordered.isDirectory = node.isDirectory := by
  cases node <;> rfl

/-- The names of children are others in another order only. -/
theorem names_inNameOrder (children : List (FileName × FileNode)) :
    (((inNameOrder children).map fun child => (child.1, child.2.ordered)).map Prod.fst).Perm
      (children.map Prod.fst) := by
  rw [List.map_map]
  exact (List.mergeSort_perm children fun a b => a.1 ≤ b.1).map Prod.fst

/-- A file system in the order of names is one. -/
theorem FileNode.WellFormed.ordered {node : FileNode} (h : node.WellFormed) : node.ordered.WellFormed := by
  induction h with
  | file data => exact .file data
  | link target => exact .link target
  | special stat => exact .special stat
  | directory stat listable children different slashFree each ih =>
    have hnames := names_inNameOrder children
    rw [ordered_directory]
    refine .directory stat listable _ (hnames.nodup_iff.mpr different) ?_ ?_
    · intro name hname
      exact slashFree name (hnames.mem_iff.mp hname)
    · intro child' hchild'
      obtain ⟨child, hchild, rfl⟩ := List.mem_map.mp hchild'
      exact ih child (mem_inNameOrder.mp hchild)

/-- What a walk of subdirectories comes across belongs to one of them. -/
theorem mem_childVisits {path : List FileName} {children : List (FileName × FileNode)} {visit : Visit} :
    visit ∈ childVisits path children ↔
      ∃ child ∈ children, child.2.isDirectory = true ∧ visit ∈ child.2.visits (path ++ [child.1]) := by
  induction children with
  | nil => simp [childVisits]
  | cons child rest ih =>
    obtain ⟨name, node⟩ := child
    rw [childVisits, List.mem_append, ih]
    by_cases hdirectory : node.isDirectory = true
    · simp [hdirectory]
    · simp [hdirectory]

/-- A node is a file exactly if it is one in the order of names. -/
theorem fileVisits_ordered (path : List FileName) (children : List (FileName × FileNode)) :
    fileVisits path (children.map fun child => (child.1, child.2.ordered)) = fileVisits path children := by
  induction children with
  | nil => rfl
  | cons child rest ih =>
    obtain ⟨name, node⟩ := child
    cases node with
    | file data => exact congrArg (Visit.file (data.info (path ++ [name])) :: ·) ih
    | link | special | directory => exact ih

/-- Walks in the order of names come across nothing else. -/
theorem FileNode.WellFormed.mem_visits_of_ordered {node : FileNode} (h : node.WellFormed) {path : List FileName}
    {visit : Visit} (hvisit : visit ∈ node.ordered.visits path) : visit ∈ node.visits path := by
  induction h generalizing path with
  | file | link | special => exact hvisit
  | directory stat listable children different slashFree each ih =>
    rw [ordered_directory] at hvisit
    cases listable with
    | false => exact hvisit
    | true =>
      rw [visits, fileVisits_ordered, List.mem_append, mem_childVisits] at hvisit
      rw [visits, List.mem_append, mem_childVisits]
      refine hvisit.imp ?_ ?_
      · intro hfile
        obtain ⟨child, hchild, hentry⟩ := List.mem_filterMap.mp hfile
        exact List.mem_filterMap.mpr ⟨child, mem_inNameOrder.mp hchild, hentry⟩
      · rintro ⟨child', hchild', hdirectory, hbelow⟩
        obtain ⟨child, hchild, rfl⟩ := List.mem_map.mp hchild'
        have hmem := mem_inNameOrder.mp hchild
        exact ⟨child, hmem, (isDirectory_ordered child.2).symm.trans hdirectory, ih child hmem hbelow⟩

/-! ## Files that are reached -/

namespace FileNode

/-- A regular file stands at the end of names, and every directory on the way can be listed. -/
structure Reaches (node : FileNode) (names : List FileName) (data : FileData) : Prop where
  file : node.at? names = some (.file data)
  listable : ∀ before, before <+: names → before ≠ names →
    ∃ stat children, node.at? before = some (.directory stat true children)

/-- From a listable directory a file is reached through a child. -/
theorem reaches_cons_iff {stat : FileStat} {children : List (FileName × FileNode)} {name : FileName}
    {names : List FileName} {data : FileData} :
    (directory stat true children).Reaches (name :: names) data ↔
      ∃ child, Pairs.get? name children = some child ∧ child.Reaches names data := by
  constructor
  · rintro ⟨hfile, hlistable⟩
    obtain ⟨child, hchild, hrest⟩ := Option.bind_eq_some_iff.mp hfile
    refine ⟨child, hchild, hrest, ?_⟩
    intro before hprefix hne
    obtain ⟨stat', below, hbelow⟩ := hlistable (name :: before) ((List.prefix_cons_inj name).mpr hprefix)
      fun heq => hne (List.cons.inj heq).2
    obtain ⟨child', hchild', hbefore⟩ := Option.bind_eq_some_iff.mp hbelow
    cases hchild.symm.trans hchild'
    exact ⟨stat', below, hbefore⟩
  · rintro ⟨child, hchild, hfile, hlistable⟩
    have hat (path : List FileName) : (directory stat true children).at? (name :: path) = child.at? path := by
      rw [at?, FileNode.children, hchild, Option.bind_some]
    refine ⟨by rw [hat]; exact hfile, ?_⟩
    rintro (_ | ⟨first, before⟩) hprefix hne
    · exact ⟨stat, children, rfl⟩
    · obtain ⟨rfl, hrest⟩ := List.cons_prefix_cons.mp hprefix
      rw [hat]
      exact hlistable before hrest fun heq => hne (congrArg (first :: ·) heq)

/-- No file is reached from a directory that cannot be listed. -/
theorem not_reaches_unlistable {stat : FileStat} {children : List (FileName × FileNode)} {names : List FileName}
    {data : FileData} : ¬(directory stat false children).Reaches names data := by
  rintro ⟨hfile, hlistable⟩
  cases names with
  | nil => cases hfile
  | cons name names =>
    obtain ⟨_, below, hbelow⟩ := hlistable [] List.nil_prefix (List.cons_ne_nil name names).symm
    cases hbelow

/-- A directory is not the file that is reached from it. -/
theorem Reaches.ne_nil {node : FileNode} {names : List FileName} {data : FileData} (h : node.Reaches names data)
    (hnode : node.isDirectory = true) : names ≠ [] := by
  rintro rfl
  cases Option.some.inj h.file
  cases hnode

end FileNode

/-! ## The order of walks -/

/-- A walk comes to the file at the end of some names before that at the end of others: where the names
part, it takes files before directories, and else the lesser name first. -/
def WalksBefore : List FileName → List FileName → Prop
  | [a], [b] => a < b
  | [_], _ :: _ :: _ => True
  | a :: a' :: as, b :: b' :: bs => a < b ∨ a = b ∧ WalksBefore (a' :: as) (b' :: bs)
  | _, _ => False

/-- Nothing comes before itself. -/
theorem not_walksBefore_self (names : List FileName) : ¬WalksBefore names names := by
  induction names with
  | nil => exact id
  | cons a as ih =>
    cases as with
    | nil => exact List.lt_irrefl a
    | cons b bs =>
      rintro (hlt | ⟨-, hrest⟩)
      · exact List.lt_irrefl a hlt
      · exact ih hrest

/-- A file comes before all that is below directories. -/
theorem walksBefore_below {a b : FileName} {bs : List FileName} (hne : bs ≠ []) : WalksBefore [a] (b :: bs) := by
  cases bs with
  | nil => exact absurd rfl hne
  | cons c cs => exact trivial

/-- Below directories, the name of the directory counts, and within one what is below it. -/
theorem walksBefore_cons {a b : FileName} {as bs : List FileName} (hne : as ≠ []) (hne' : bs ≠ [])
    (h : a < b ∨ a = b ∧ WalksBefore as bs) : WalksBefore (a :: as) (b :: bs) := by
  cases as with
  | nil => exact absurd rfl hne
  | cons a' as =>
    cases bs with
    | nil => exact absurd rfl hne'
    | cons b' bs => exact h

/-! ## What a walk finds -/

/-- The file that a walk comes across, unless it is a directory that cannot be listed. -/
def Visit.file? : Visit → Option FileInfo
  | .file info => some info
  | .unlistable _ => none

/-- A walk comes across just the files that are reached from a path, in the order of walks. -/
structure Finds (path : List FileName) (Reached : List FileName → FileData → Prop) (visits : List Visit)
    (found : List (List FileName × FileData)) : Prop where
  files : visits.filterMap Visit.file? = found.map fun f => f.2.info (path ++ f.1)
  reached : ∀ names data, (names, data) ∈ found ↔ Reached names data
  inOrder : found.Pairwise fun f g => WalksBefore f.1 g.1

namespace Finds

variable {path : List FileName} {Reached Reached' : List FileName → FileData → Prop} {visits visits' : List Visit}
  {found found' : List (List FileName × FileData)}

/-- The same may be said in other words. -/
theorem congr (h : Finds path Reached visits found) (hiff : ∀ names data, Reached' names data ↔ Reached names data) :
    Finds path Reached' visits found :=
  ⟨h.files, fun names data => (h.reached names data).trans (hiff names data).symm, h.inOrder⟩

/-- A walk that comes across nothing. -/
theorem nil (path : List FileName) (hnone : ∀ names data, ¬Reached names data) : Finds path Reached [] [] where
  files := rfl
  reached names data := iff_of_false List.not_mem_nil (hnone names data)
  inOrder := List.Pairwise.nil

/-- **One walk after the other**, if all that the first comes across is before all of the second. -/
theorem append (h : Finds path Reached visits found) (h' : Finds path Reached' visits' found')
    (hbefore : ∀ names data names' data', Reached names data → Reached' names' data' → WalksBefore names names') :
    Finds path (fun names data => Reached names data ∨ Reached' names data) (visits ++ visits') (found ++ found') where
  files := by rw [List.filterMap_append, List.map_append, h.files, h'.files]
  reached names data := by rw [List.mem_append, h.reached, h'.reached]
  inOrder := by
    refine List.pairwise_append.mpr ⟨h.inOrder, h'.inOrder, ?_⟩
    rintro ⟨names, data⟩ hmem ⟨names', data'⟩ hmem'
    exact hbefore names data names' data' ((h.reached names data).mp hmem) ((h'.reached names' data').mp hmem')

/-- **A walk of a subdirectory** is one of the directory. -/
theorem below {name : FileName} (h : Finds (path ++ [name]) Reached visits found)
    (hne : ∀ names data, Reached names data → names ≠ []) :
    Finds path (fun names data => ∃ rest, names = name :: rest ∧ Reached rest data) visits
      (found.map fun f => (name :: f.1, f.2)) where
  files := by
    rw [h.files, List.map_map]
    apply List.map_congr_left
    intro f _
    rw [Function.comp_apply, List.append_assoc, List.singleton_append]
  reached names data := by
    rw [List.mem_map]
    constructor
    · rintro ⟨f, hf, heq⟩
      cases heq
      exact ⟨f.1, rfl, (h.reached f.1 f.2).mp hf⟩
    · rintro ⟨rest, rfl, hrest⟩
      exact ⟨(rest, data), (h.reached rest data).mpr hrest, rfl⟩
  inOrder := by
    rw [List.pairwise_map]
    apply h.inOrder.imp_of_mem
    intro f g hf hg hbefore
    have hf' := hne f.1 f.2 ((h.reached f.1 f.2).mp hf)
    have hg' := hne g.1 g.2 ((h.reached g.1 g.2).mp hg)
    exact walksBefore_cons hf' hg' (.inr ⟨rfl, hbefore⟩)

end Finds

variable {path : List FileName} {children : List (FileName × FileNode)}

/-- **The files of a directory** are found under their names. -/
theorem finds_fileVisits (path : List FileName) (hsorted : children.Pairwise fun a b => a.1 < b.1) :
    ∃ found, Finds path (fun names data => ∃ name, names = [name] ∧ (name, FileNode.file data) ∈ children)
      (fileVisits path children) found := by
  induction children with
  | nil => exact ⟨[], .nil path fun names data ⟨name, _, hmem⟩ => List.not_mem_nil hmem⟩
  | cons child rest ih =>
    obtain ⟨name, node⟩ := child
    obtain ⟨hless, hrest⟩ := List.pairwise_cons.mp hsorted
    obtain ⟨found, hfound⟩ := ih hrest
    cases node with
    | file data =>
      have hfirst : Finds path (fun names data' => names = [name] ∧ data' = data) [.file (data.info (path ++ [name]))]
          [([name], data)] := by
        refine ⟨rfl, ?_, List.pairwise_singleton _ _⟩
        intro names data'
        rw [List.mem_singleton, Prod.mk.injEq]
      refine ⟨_, (hfirst.append hfound ?_).congr ?_⟩
      · rintro names data' names' data'' ⟨rfl, rfl⟩ ⟨later, rfl, hmem⟩
        exact hless _ hmem
      · intro names data'
        constructor
        · rintro ⟨name', rfl, hmem⟩
          rcases List.mem_cons.mp hmem with heq | hmem
          · cases heq
            exact .inl ⟨rfl, rfl⟩
          · exact .inr ⟨name', rfl, hmem⟩
        · rintro (⟨rfl, rfl⟩ | ⟨name', rfl, hmem⟩)
          · exact ⟨name, rfl, List.mem_cons_self⟩
          · exact ⟨name', rfl, List.mem_cons_of_mem _ hmem⟩
    | link | special | directory =>
      refine ⟨found, hfound.congr ?_⟩
      intro names data
      simp

/-- **The files below the subdirectories** of a directory are found below their names. -/
theorem finds_childVisits (path : List FileName) (hsorted : children.Pairwise fun a b => a.1 < b.1)
    (heach : ∀ child ∈ children, child.2.isDirectory = true → ∀ path, ∃ found,
      Finds path child.2.Reaches (child.2.ordered.visits path) found) :
    ∃ found, Finds path (fun names data => ∃ child ∈ children, child.2.isDirectory = true ∧
        ∃ rest, names = child.1 :: rest ∧ child.2.Reaches rest data)
      (childVisits path (children.map fun child => (child.1, child.2.ordered))) found := by
  induction children with
  | nil =>
    rw [List.map_nil, childVisits]
    refine ⟨[], .nil path ?_⟩
    intro names data hexists
    obtain ⟨child, hmem, -⟩ := hexists
    exact List.not_mem_nil hmem
  | cons child rest ih =>
    obtain ⟨hless, hrest⟩ := List.pairwise_cons.mp hsorted
    obtain ⟨found, hfound⟩ := ih hrest fun child hchild => heach child (List.mem_cons_of_mem _ hchild)
    obtain ⟨name, node⟩ := child
    rw [List.map_cons, childVisits, FileNode.isDirectory_ordered]
    by_cases hdirectory : node.isDirectory = true
    · obtain ⟨first, hfirst⟩ := heach (name, node) List.mem_cons_self hdirectory (path ++ [name])
      have hbelow := hfirst.below fun names data hreach => hreach.ne_nil hdirectory
      rw [if_pos hdirectory]
      refine ⟨_, (hbelow.append hfound ?_).congr ?_⟩
      · rintro names data names' data' ⟨below, rfl, hreach⟩ ⟨later, hmem, hlater, below', rfl, hreach'⟩
        exact walksBefore_cons (hreach.ne_nil hdirectory) (hreach'.ne_nil hlater) (.inl (hless later hmem))
      · intro names data
        constructor
        · rintro ⟨child, hmem, hchild, below, rfl, hreach⟩
          rcases List.mem_cons.mp hmem with rfl | hmem
          · exact .inl ⟨below, rfl, hreach⟩
          · exact .inr ⟨child, hmem, hchild, below, rfl, hreach⟩
        · rintro (⟨below, rfl, hreach⟩ | ⟨child, hmem, hchild, below, rfl, hreach⟩)
          · exact ⟨(name, node), List.mem_cons_self, hdirectory, below, rfl, hreach⟩
          · exact ⟨child, List.mem_cons_of_mem _ hmem, hchild, below, rfl, hreach⟩
    · rw [if_neg hdirectory, List.nil_append]
      refine ⟨found, hfound.congr ?_⟩
      intro names data
      constructor
      · rintro ⟨child, hmem, hchild, hrest⟩
        rcases List.mem_cons.mp hmem with rfl | hmem
        · exact absurd hchild hdirectory
        · exact ⟨child, hmem, hchild, hrest⟩
      · rintro ⟨child, hmem, hrest⟩
        exact ⟨child, List.mem_cons_of_mem _ hmem, hrest⟩

/-- Where names differ, what is looked up is what is there. -/
theorem Pairs.get?_eq_some_iff_mem {κ α : Type} [DecidableEq κ] {key : κ} {value : α} {entries : List (κ × α)}
    (h : (entries.map Prod.fst).Nodup) : get? key entries = some value ↔ (key, value) ∈ entries := by
  refine ⟨mem_of_get?, ?_⟩
  induction entries with
  | nil => exact fun hmem => absurd hmem List.not_mem_nil
  | cons entry rest ih =>
    obtain ⟨hnew, hrest⟩ := List.nodup_cons.mp h
    intro hmem
    rcases List.mem_cons.mp hmem with rfl | hmem
    · exact if_pos rfl
    · have hne : entry.1 ≠ key := by
        rintro rfl
        exact hnew (List.mem_map.mpr ⟨_, hmem, rfl⟩)
      unfold get?
      rw [if_neg hne]
      exact ih hrest hmem

namespace FileNode

variable {children : List (FileName × FileNode)} {names : List FileName} {data : FileData}

/-- Nothing stands below what is no directory. -/
theorem Reaches.names_eq_nil {node : FileNode} (h : node.Reaches names data) (hnode : node.isDirectory = false) :
    names = [] := by
  cases names with
  | nil => rfl
  | cons name names =>
    obtain ⟨_, below, hbelow⟩ := h.listable [] List.nil_prefix (List.cons_ne_nil name names).symm
    cases Option.some.inj hbelow
    cases hnode

/-- **From a listable directory** its own files are reached, and those that are reached from its
subdirectories. -/
theorem reaches_directory_iff {stat : FileStat} (different : (children.map Prod.fst).Nodup) :
    (directory stat true children).Reaches names data ↔
      (∃ name, names = [name] ∧ (name, file data) ∈ children) ∨
        ∃ child ∈ children, child.2.isDirectory = true ∧ ∃ rest, names = child.1 :: rest ∧ child.2.Reaches rest data := by
  constructor
  · intro hreach
    cases names with
    | nil => exact absurd rfl (hreach.ne_nil rfl)
    | cons name names =>
      obtain ⟨child, hget, hchild⟩ := reaches_cons_iff.mp hreach
      have hmem := Pairs.mem_of_get? hget
      cases hdirectory : child.isDirectory with
      | true => exact .inr ⟨(name, child), hmem, hdirectory, names, rfl, hchild⟩
      | false =>
        obtain rfl := hchild.names_eq_nil hdirectory
        cases Option.some.inj hchild.file
        exact .inl ⟨name, rfl, hmem⟩
  · rintro (⟨name, rfl, hmem⟩ | ⟨child, hmem, -, rest, rfl, hreach⟩)
    · refine reaches_cons_iff.mpr ⟨file data, (Pairs.get?_eq_some_iff_mem different).mpr hmem, rfl, ?_⟩
      intro before hprefix hne
      exact absurd (List.prefix_nil.mp hprefix) hne
    · exact reaches_cons_iff.mpr ⟨child.2, (Pairs.get?_eq_some_iff_mem different).mpr hmem, hreach⟩

end FileNode

/-- **What a walk of a directory comes across** in the order of names: just the files that are reached. -/
theorem FileNode.WellFormed.walks {node : FileNode} (h : node.WellFormed) (hnode : node.isDirectory = true)
    (path : List FileName) : ∃ found, Finds path node.Reaches (node.ordered.visits path) found := by
  induction h generalizing path with
  | file | link | special => cases hnode
  | directory stat listable children different slashFree each ih =>
    rw [ordered_directory]
    cases listable with
    | false =>
      have hvisits (below : List (FileName × FileNode)) :
          visits path (FileNode.directory stat false below) = [.unlistable (.ofNames path)] := by
        rw [visits]
        intro _ _ heq
        cases heq
      rw [hvisits]
      refine ⟨[], rfl, ?_, List.Pairwise.nil⟩
      intro names data
      exact iff_of_false List.not_mem_nil not_reaches_unlistable
    | true =>
      have hsorted := pairwise_inNameOrder different
      obtain ⟨found, hfound⟩ := finds_fileVisits path hsorted
      obtain ⟨found', hfound'⟩ := finds_childVisits path hsorted fun child hchild hdirectory path =>
        ih child (mem_inNameOrder.mp hchild) hdirectory path
      rw [visits, fileVisits_ordered]
      refine ⟨_, (hfound.append hfound' ?_).congr ?_⟩
      · rintro names data names' data' ⟨name, rfl, -⟩ ⟨child, -, hchild, rest, rfl, hreach⟩
        exact walksBefore_below (hreach.ne_nil hchild)
      · intro names data
        rw [reaches_directory_iff different]
        simp only [mem_inNameOrder]

end MediaCatalog
