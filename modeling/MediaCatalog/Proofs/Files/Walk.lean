import MediaCatalog.Scan.Walk

/-!
# Walks come across a file once

In a file system the names in a directory are different, and no name holds a slash. So a file is
determined by its path, and a walk comes across files at different paths only.

* `FileNode.WellFormed`: what a file system is like.
* `FilePath.ofNames_inj`: a path determines the names in it.
* `FileNode.visits`: what a walk comes across, first the files of a directory and then its subdirectories.
* `WalkedFrom`: where the files lie that a walk comes across.
* **Main result** (`FileNode.WellFormed.walkedFrom_visits`): a walk of a file system comes across files with
  different paths.
-/

namespace MediaCatalog

/-! ## Paths and their names -/

/-- No name in a path holds a slash. -/
def SlashFree (path : List FileName) : Prop := ∀ name ∈ path, FilePath.slash ∉ name

/-- One path below the other. -/
theorem SlashFree.append {path names : List FileName} (h : SlashFree path) (h' : SlashFree names) :
    SlashFree (path ++ names) := by
  intro name hname
  rcases List.mem_append.mp hname with hmem | hmem
  · exact h name hmem
  · exact h' name hmem

/-- **A path determines the names in it**, unless it is the root. -/
theorem FilePath.ofNames_inj {path path' : List FileName} (hpath : SlashFree path) (hpath' : SlashFree path')
    (hne : path ≠ []) (hne' : path' ≠ []) (h : ofNames path = ofNames path') : path = path' := by
  have hjoined : [slash].intercalate path = [slash].intercalate path' := (List.cons.inj (FilePath.mk.inj h)).2
  rw [← List.splitOn_intercalate slash hpath hne, hjoined, List.splitOn_intercalate slash hpath' hne']

/-- A slash leads to the root, if that is a directory. -/
theorem FileTree.locate?_slash {t : FileTree} (h : t.root.isDirectory = true) : t.locate? false "/" = some [] := by
  have hsteps : (FilePath.ofText "/").steps = [.here] := by decide +kernel
  have hbytes : (FilePath.ofText "/").bytes.isEmpty = false := by decide +kernel
  have hstart : t.start "/" = [] := if_pos (by decide +kernel)
  have hfollow : follow t.root false maxLinks [] [.here] = .ok [] := by simp [follow, FileNode.at?, h]
  rw [locate?, lookUp, hsteps, hstart, hfollow, hbytes]
  rfl

/-! ## File systems -/

/-- A node as it stands in a file system: in every directory the names of the children are different, and
none holds a slash. -/
inductive FileNode.WellFormed : FileNode → Prop
  | file (data : FileData) : WellFormed (.file data)
  | link (target : FilePath) : WellFormed (.link target)
  | special (stat : Option FileStat) : WellFormed (.special stat)
  | directory (stat : FileStat) (listable : Bool) (children : List (FileName × FileNode))
      (different : (children.map Prod.fst).Nodup) (slashFree : SlashFree (children.map Prod.fst))
      (each : ∀ child ∈ children, child.2.WellFormed) : WellFormed (.directory stat listable children)

/-- What stands below a node of a file system, and the path that leads there. -/
theorem FileNode.WellFormed.at? {node below : FileNode} {path : List FileName} (h : node.WellFormed)
    (hbelow : node.at? path = some below) : below.WellFormed ∧ SlashFree path := by
  induction path generalizing node with
  | nil =>
    obtain rfl := Option.some.inj hbelow
    exact ⟨h, nofun⟩
  | cons name path ih =>
    obtain ⟨child, hchild, hrest⟩ := Option.bind_eq_some_iff.mp hbelow
    have hmem := Pairs.mem_of_get? hchild
    cases h with
    | file | link | special => cases hmem
    | directory stat listable children different slashFree each =>
      obtain ⟨hwell, hpath⟩ := ih (each (name, child) hmem) hrest
      refine ⟨hwell, ?_⟩
      intro step hstep
      rcases List.mem_cons.mp hstep with rfl | hmem'
      · exact slashFree step (List.mem_map_of_mem (f := Prod.fst) hmem)
      · exact hpath step hmem'

/-! ## Walks -/

/-- What a walk comes across. -/
inductive Visit where
  | file (info : FileInfo)
  /-- A directory that could not be listed. -/
  | unlistable (path : FilePath)

/-- The regular files among children. -/
def fileVisits (path : List FileName) (children : List (FileName × FileNode)) : List Visit :=
  children.filterMap fun
    | (name, .file data) => some (.file (data.info (path ++ [name])))
    | _ => none

mutual

/-- What a walk from a node comes across; only directories can be walked. -/
def FileNode.visits (path : List FileName) : FileNode → List Visit
  | .directory _ true children => fileVisits path children ++ childVisits path children
  | _ => [.unlistable (.ofNames path)]

/-- What a walk of the directories among children comes across. -/
def childVisits (path : List FileName) : List (FileName × FileNode) → List Visit
  | [] => []
  | (name, node) :: rest =>
    (if node.isDirectory then node.visits (path ++ [name]) else []) ++ childVisits path rest

end

/-- Two things that a walk comes across are not files with one path. -/
def Visit.Apart (v w : Visit) : Prop := ∀ f g, v = .file f → w = .file g → f.path ≠ g.path

/-- Where the files lie that a walk comes across: below a path, at different places. -/
structure WalkedFrom (path : List FileName) (Below : List FileName → Prop) (visits : List Visit) : Prop where
  below : ∀ file, .file file ∈ visits → ∃ names, Below names ∧ names ≠ [] ∧ SlashFree names ∧
    file.path = .ofNames (path ++ names)
  apart : visits.Pairwise Visit.Apart

variable {path : List FileName} {Below Below' : List FileName → Prop} {visits visits' : List Visit}

/-- A walk that comes across no files. -/
theorem walkedFrom_of_no_files (path : List FileName) (Below : List FileName → Prop) {visits : List Visit}
    (h : ∀ file, .file file ∉ visits) : WalkedFrom path Below visits := by
  refine ⟨fun file hfile => absurd hfile (h file), List.pairwise_of_forall_mem_list ?_⟩
  rintro v hv w - f g rfl -
  exact absurd hv (h f)

/-- More may be said of where the files lie. -/
theorem WalkedFrom.mono (h : WalkedFrom path Below visits) (himp : ∀ names, Below names → Below' names) :
    WalkedFrom path Below' visits := by
  refine ⟨?_, h.apart⟩
  intro file hfile
  obtain ⟨names, hbelow, hrest⟩ := h.below file hfile
  exact ⟨names, himp names hbelow, hrest⟩

/-- **One walk after the other**, at different places. -/
theorem WalkedFrom.append (hpath : SlashFree path) (h : WalkedFrom path Below visits)
    (h' : WalkedFrom path Below' visits') (hdifferent : ∀ names, Below names → ¬Below' names) :
    WalkedFrom path (fun names => Below names ∨ Below' names) (visits ++ visits') where
  below file hfile := by
    rcases List.mem_append.mp hfile with hmem | hmem
    · obtain ⟨names, hbelow, hrest⟩ := h.below file hmem
      exact ⟨names, .inl hbelow, hrest⟩
    · obtain ⟨names, hbelow, hrest⟩ := h'.below file hmem
      exact ⟨names, .inr hbelow, hrest⟩
  apart := by
    refine List.pairwise_append.mpr ⟨h.apart, h'.apart, ?_⟩
    rintro v hv w hw f g rfl rfl hsame
    obtain ⟨names, hbelow, hne, hslash, hfile⟩ := h.below f hv
    obtain ⟨names', hbelow', hne', hslash', hfile'⟩ := h'.below g hw
    have hplaces := FilePath.ofNames_inj (hpath.append hslash) (hpath.append hslash')
      (List.append_ne_nil_of_right_ne_nil path hne) (List.append_ne_nil_of_right_ne_nil path hne')
      (hfile.symm.trans (hsame.trans hfile'))
    rw [List.append_cancel_left hplaces] at hbelow
    exact hdifferent names' hbelow hbelow'

/-- A walk of a subdirectory is a walk of the directory. -/
theorem WalkedFrom.parent {name : FileName} (hname : FilePath.slash ∉ name)
    (h : WalkedFrom (path ++ [name]) (fun _ => True) visits) :
    WalkedFrom path (fun names => ∃ rest, names = name :: rest ∧ rest ≠ []) visits := by
  refine ⟨?_, h.apart⟩
  intro file hfile
  obtain ⟨names, -, hne, hslash, hplace⟩ := h.below file hfile
  refine ⟨name :: names, ⟨names, rfl, hne⟩, List.cons_ne_nil name names, ?_, ?_⟩
  · intro step hstep
    rcases List.mem_cons.mp hstep with rfl | hmem
    · exact hname
    · exact hslash step hmem
  · rw [hplace, List.append_assoc, List.singleton_append]

variable {children : List (FileName × FileNode)}

/-- The regular files in a directory lie under their names. -/
theorem walkedFrom_fileVisits (hpath : SlashFree path) (hslash : SlashFree (children.map Prod.fst))
    (hdifferent : (children.map Prod.fst).Nodup) :
    WalkedFrom path (fun names => ∃ name ∈ children.map Prod.fst, names = [name]) (fileVisits path children) := by
  induction children with
  | nil => exact walkedFrom_of_no_files _ _ nofun
  | cons child rest ih =>
    obtain ⟨hnew, hrest⟩ := List.nodup_cons.mp hdifferent
    have hlater := ih (fun name hname => hslash name (List.mem_cons_of_mem _ hname)) hrest
    obtain ⟨name, node⟩ := child
    have hname : FilePath.slash ∉ name := hslash name List.mem_cons_self
    cases node with
    | file data =>
      have hfirst : WalkedFrom path (fun names => names = [name]) [.file (data.info (path ++ [name]))] := by
        refine ⟨?_, List.pairwise_singleton _ _⟩
        intro file hfile
        cases List.mem_singleton.mp hfile
        refine ⟨[name], rfl, List.cons_ne_nil _ _, ?_, rfl⟩
        intro step hstep
        rw [List.mem_singleton.mp hstep]
        exact hname
      have hapart : ∀ names, names = [name] → ¬∃ later ∈ rest.map Prod.fst, names = [later] := by
        rintro names rfl ⟨later, hmem, heq⟩
        cases heq
        exact hnew hmem
      refine (hfirst.append hpath hlater hapart).mono ?_
      rintro names (rfl | ⟨later, hlater, rfl⟩)
      · exact ⟨name, List.mem_cons_self, rfl⟩
      · exact ⟨later, List.mem_cons_of_mem _ hlater, rfl⟩
    | link | directory | special =>
      refine WalkedFrom.mono hlater ?_
      rintro names ⟨later, hlater, rfl⟩
      exact ⟨later, List.mem_cons_of_mem _ hlater, rfl⟩

/-- The files below the subdirectories of a directory, if those of each lie below it. -/
theorem walkedFrom_childVisits (hpath : SlashFree path) (hslash : SlashFree (children.map Prod.fst))
    (hdifferent : (children.map Prod.fst).Nodup)
    (heach : ∀ child ∈ children, ∀ path, SlashFree path → WalkedFrom path (fun _ => True) (child.2.visits path)) :
    WalkedFrom path (fun names => ∃ name ∈ children.map Prod.fst, ∃ rest, names = name :: rest ∧ rest ≠ [])
      (childVisits path children) := by
  induction children with
  | nil =>
    rw [childVisits]
    exact walkedFrom_of_no_files _ _ nofun
  | cons child rest ih =>
    obtain ⟨hnew, hrest⟩ := List.nodup_cons.mp hdifferent
    have hlater := ih (fun name hname => hslash name (List.mem_cons_of_mem _ hname)) hrest
      (fun child hchild => heach child (List.mem_cons_of_mem _ hchild))
    obtain ⟨name, node⟩ := child
    have hname : FilePath.slash ∉ name := hslash name List.mem_cons_self
    have hfirst : WalkedFrom path (fun names => ∃ rest, names = name :: rest ∧ rest ≠ [])
        (if node.isDirectory then node.visits (path ++ [name]) else []) := by
      split
      case isTrue =>
        refine WalkedFrom.parent hname (heach (name, node) List.mem_cons_self (path ++ [name]) ?_)
        apply hpath.append
        intro step hstep
        rw [List.mem_singleton.mp hstep]
        exact hname
      case isFalse => exact walkedFrom_of_no_files _ _ nofun
    rw [childVisits]
    refine (hfirst.append hpath hlater ?_).mono ?_
    · rintro names ⟨below, rfl, -⟩ ⟨later, hlater, rest, heq, -⟩
      cases heq
      exact hnew hlater
    · rintro names (⟨below, rfl, hne⟩ | ⟨later, hlater, below, rfl, hne⟩)
      · exact ⟨name, List.mem_cons_self, below, rfl, hne⟩
      · exact ⟨later, List.mem_cons_of_mem _ hlater, below, rfl, hne⟩

/-- **A walk of a file system** comes across files with different paths. -/
theorem FileNode.WellFormed.walkedFrom_visits {node : FileNode} (h : node.WellFormed) (hpath : SlashFree path) :
    WalkedFrom path (fun _ => True) (node.visits path) := by
  induction h generalizing path with
  | file | link | special =>
    rw [FileNode.visits]
    · exact walkedFrom_of_no_files _ _ (by simp)
    · nofun
  | directory stat listable children different slashFree each ih =>
    cases listable with
    | false =>
      rw [FileNode.visits]
      · exact walkedFrom_of_no_files _ _ (by simp)
      · nofun
    | true =>
      rw [FileNode.visits]
      have hfiles := walkedFrom_fileVisits hpath slashFree different
      have hbelow := walkedFrom_childVisits hpath slashFree different fun child hchild path hpath => ih child hchild hpath
      refine (hfiles.append hpath hbelow ?_).mono fun _ _ => trivial
      rintro names ⟨name, -, rfl⟩ ⟨_, -, rest, heq, hne⟩
      cases heq
      exact hne rfl

end MediaCatalog
