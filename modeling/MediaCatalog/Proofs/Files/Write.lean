import MediaCatalog.Files.Tree

/-!
# Files that were written are found again

A file is written at the end of a path, which may pass through links and lead to a place where nothing
stands yet. This file shows that the same path leads to the file afterwards.

* `FileNode.Takes`: a file may be put at a physical path.
* `Follows`: one tree leads wherever another one leads, and to a file besides.
* `FileTree.follow_again`: what was followed to a place for writing is followed there again.
* `FileTree.onlyFile`: the tree of one file.
* **Main result** (`FileTree.node?_save`): what was saved at a path stands there.
-/

namespace MediaCatalog

/-! ## Putting a file in its place -/

namespace FileNode

/-- What stands one step further. -/
theorem at?_concat (node : FileNode) (path : List FileName) (step : FileName) :
    node.at? (path ++ [step]) = (node.at? path).bind fun parent => Pairs.get? step parent.children := by
  induction path generalizing node with
  | nil => simp [at?]
  | cons name path ih =>
    rw [List.cons_append, at?, at?, Option.bind_assoc]
    congr 1
    funext child
    exact ih child

/-- One step below a directory stands its child of that name. -/
theorem at?_below {root : FileNode} {path : List FileName} {stat : FileStat} {listable : Bool} {children : List (FileName × FileNode)}
    (h : root.at? path = some (.directory stat listable children)) (step : FileName) :
    root.at? (path ++ [step]) = Pairs.get? step children := by
  rw [at?_concat, h]
  rfl

/-- What is put below a child is put in the child. -/
theorem put_below {stat : FileStat} {listable : Bool} {children : List (FileName × FileNode)} {name : FileName}
    {child : FileNode} (h : Pairs.get? name children = some child) (new : FileNode) (path : List FileName) :
    (directory stat listable children).put new (name :: path) =
      .directory stat listable (Pairs.insert name (child.put new path) children) := by
  simp [put, FileNode.children, h]

/-- What is put where nothing stands in a directory is a child of it. -/
theorem put_new {stat : FileStat} {listable : Bool} {children : List (FileName × FileNode)} {name : FileName}
    (h : Pairs.get? name children = none) (new : FileNode) :
    (directory stat listable children).put new [name] = .directory stat listable (Pairs.insert name new children) := by
  simp [put, FileNode.children, h]

/-- A file may be put at a path: a file stands there, or nothing does while its directory is there. -/
def Takes : FileNode → List FileName → Prop
  | .file _, [] => True
  | .directory _ _ children, name :: path =>
    match Pairs.get? name children with
    | none => path = []
    | some child => child.Takes path
  | _, _ => False

/-- A file may be put where one stands. -/
theorem takes_of_file {node : FileNode} {path : List FileName} {data : FileData} (h : node.at? path = some (.file data)) :
    node.Takes path := by
  induction path generalizing node with
  | nil =>
    obtain rfl := Option.some.inj h
    exact trivial
  | cons name path ih =>
    obtain ⟨child, hchild, hrest⟩ := Option.bind_eq_some_iff.mp h
    cases node with
    | file | link | special => cases hchild
    | directory stat listable children =>
      have hget : Pairs.get? name children = some child := hchild
      rw [Takes, hget]
      exact ih hrest

/-- A file may be put where nothing stands in a directory. -/
theorem takes_of_directory {node : FileNode} {parent : List FileName} {stat : FileStat} {listable : Bool} {children : List (FileName × FileNode)}
    {name : FileName} (hparent : node.at? parent = some (.directory stat listable children))
    (hname : Pairs.get? name children = none) : node.Takes (parent ++ [name]) := by
  induction parent generalizing node with
  | nil =>
    obtain rfl := Option.some.inj hparent
    rw [List.nil_append, Takes, hname]
  | cons first parent ih =>
    obtain ⟨child, hchild, hrest⟩ := Option.bind_eq_some_iff.mp hparent
    cases node with
    | file | link | special => cases hchild
    | directory stat listable children =>
      have hget : Pairs.get? first children = some child := hchild
      rw [List.cons_append, Takes, hget]
      exact ih hrest

end FileNode

/-- Where one tree has directories or links, another one has directories or the same links, and besides it
has a file at a place. -/
structure Follows (root root' : FileNode) (place : List FileName) (data : FileData) : Prop where
  directory : ∀ path stat listable children, root.at? path = some (.directory stat listable children) →
    ∃ children', root'.at? path = some (.directory stat listable children')
  link : ∀ path target, root.at? path = some (.link target) → root'.at? path = some (.link target)
  file : root'.at? place = some (.file data)

/-- A child is put in a directory that leads wherever the child of that name did before, if there was one. -/
theorem Follows.child {stat : FileStat} {listable : Bool} {children : List (FileName × FileNode)} {name : FileName} {place : List FileName}
    {child' : FileNode} {data : FileData} (hfile : child'.at? place = some (.file data))
    (hbefore : ∀ child, Pairs.get? name children = some child → Follows child child' place data) :
    Follows (.directory stat listable children) (.directory stat listable (Pairs.insert name child' children)) (name :: place)
      data := by
  have hat (first : FileName) (path : List FileName) :
      FileNode.at? (.directory stat listable (Pairs.insert name child' children)) (first :: path) =
        if name = first then child'.at? path else FileNode.at? (.directory stat listable children) (first :: path) := by
    rw [FileNode.at?, FileNode.at?]
    simp only [FileNode.children, Pairs.get?_insert]
    split <;> rfl
  -- what stood below the directory stood below the child, or it is still there
  have hbelow {first : FileName} {path : List FileName} {node : FileNode}
      (hnode : FileNode.at? (.directory stat listable children) (first :: path) = some node) :
      (name = first ∧ ∃ child, Follows child child' place data ∧ child.at? path = some node) ∨
        (name ≠ first ∧ FileNode.at? (.directory stat listable children) (first :: path) = some node) := by
    by_cases hfirst : name = first
    · subst hfirst
      obtain ⟨child, hchild, hrest⟩ := Option.bind_eq_some_iff.mp hnode
      exact .inl ⟨rfl, child, hbefore child hchild, hrest⟩
    · exact .inr ⟨hfirst, hnode⟩
  refine ⟨?_, ?_, ?_⟩
  · rintro (_ | ⟨first, path⟩) stat' listable' children' hnode
    · cases hnode
      exact ⟨_, rfl⟩
    · rw [hat]
      rcases hbelow hnode with ⟨hfirst, child, hfollows, hrest⟩ | ⟨hfirst, hsame⟩
      · rw [if_pos hfirst]
        exact hfollows.directory path stat' listable' children' hrest
      · rw [if_neg hfirst]
        exact ⟨children', hsame⟩
  · rintro (_ | ⟨first, path⟩) target hnode
    · cases hnode
    · rw [hat]
      rcases hbelow hnode with ⟨hfirst, child, hfollows, hrest⟩ | ⟨hfirst, hsame⟩
      · rw [if_pos hfirst]
        exact hfollows.link path target hrest
      · rw [if_neg hfirst]
        exact hsame
  · rw [hat, if_pos rfl]
    exact hfile

/-- **Where a file was put**, it stands; directories and links stay. -/
theorem FileNode.Takes.follows {node : FileNode} {place : List FileName} (h : node.Takes place) (data : FileData) :
    Follows node (node.put (.file data) place) place data := by
  induction place generalizing node with
  | nil =>
    cases node with
    | link | special | directory => exact h.elim
    | file old =>
      -- nothing but a file was there
      refine ⟨?_, ?_, rfl⟩
      · rintro (_ | ⟨name, path⟩) stat listable children hat
        · cases hat
        · cases hat
      · rintro (_ | ⟨name, path⟩) target hat
        · cases hat
        · cases hat
  | cons name rest ih =>
    cases node with
    | file | link | special => exact h.elim
    | directory stat listable children =>
      cases hchild : Pairs.get? name children with
      | none =>
        -- the file is new
        rw [Takes, hchild] at h
        subst h
        rw [put_new hchild]
        exact .child rfl fun child hsome => absurd (hchild.symm.trans hsome) (Option.some_ne_none child).symm
      | some child =>
        -- the file is put below a child
        rw [Takes, hchild] at h
        rw [put_below hchild]
        refine .child (ih h).file ?_
        intro child' hsome
        cases hchild.symm.trans hsome
        exact ih h

/-! ## Following the same steps again -/

/-- A node that is a directory has children. -/
theorem FileNode.exists_of_isDirectory {node : FileNode} (h : ¬(!node.isDirectory) = true) :
    ∃ stat listable children, node = .directory stat listable children := by
  cases node with
  | directory stat listable children => exact ⟨stat, listable, children, rfl⟩
  | file | link | special => exact absurd rfl h

/-- Where one tree has a directory, the other has one. -/
theorem Follows.exists_directory {root root' node : FileNode} {place path : List FileName} {data : FileData}
    (h : Follows root root' place data) (hnode : root.at? path = some node) (hdirectory : ¬(!node.isDirectory) = true) :
    ∃ stat listable children, root'.at? path = some (.directory stat listable children) := by
  obtain ⟨stat, listable, children, rfl⟩ := FileNode.exists_of_isDirectory hdirectory
  exact ⟨stat, listable, h.directory path stat listable children hnode⟩

namespace FileTree

variable {root root' : FileNode} {links : Nat} {path steps place : List FileName} {data : FileData}

/-- A file may be put where steps lead to nothing: the directory is there. -/
theorem takes_of_follow (h : follow root true links path steps = .ok place) (hnone : root.at? place = none) :
    root.Takes place := by
  fun_induction follow root true links path steps with
  | case1 links path hsome =>
    cases h
    rw [hnone] at hsome
    cases hsome
  | case2 | case3 | case4 | case8 | case9 => cases h
  | case5 _ _ _ _ _ _ ih => exact ih h
  | case6 _ _ _ _ _ _ _ ih => exact ih h
  | case7 links path step rest node hnode hdirectory _ _ hchild _ =>
    cases h
    obtain ⟨stat, listable, children, rfl⟩ := FileNode.exists_of_isDirectory hdirectory
    exact FileNode.takes_of_directory hnode hchild
  | case10 _ _ _ _ _ _ _ _ _ _ _ ih => exact ih h
  | case11 _ _ _ _ _ _ _ _ _ _ _ _ ih => exact ih h

/-- Steps that are not followed for writing end where something stands. -/
theorem at?_of_follow (h : follow root false links path steps = .ok place) : ∃ node, root.at? place = some node := by
  generalize hcreate : false = create at h
  fun_induction follow root create links path steps with
  | case1 links path hsome =>
    cases h
    exact Option.isSome_iff_exists.mp hsome
  | case2 | case3 | case4 | case8 | case9 => cases h
  | case5 _ _ _ _ _ _ ih => exact ih h
  | case6 _ _ _ _ _ _ _ ih => exact ih h
  | case7 _ _ _ _ _ _ _ _ _ _ hlast =>
    subst hcreate
    cases hlast
  | case10 _ _ _ _ _ _ _ _ _ _ _ ih => exact ih h
  | case11 _ _ _ _ _ _ _ _ _ _ _ _ ih => exact ih h

/-- No step leads further from what is no directory. -/
theorem place_of_follow {create : Bool} {node : FileNode} (h : follow root create links path steps = .ok place)
    (hnode : root.at? path = some node) (hdirectory : node.isDirectory = false) : path = place := by
  cases steps with
  | nil =>
    rw [follow, hnode] at h
    cases h
    rfl
  | cons step rest =>
    rw [follow, hnode] at h
    simp only [hdirectory, Bool.not_false, if_true] at h
    cases h

/-- From a directory, a step that names a child other than a link leads to the child. -/
theorem follow_child {create : Bool} {stat : FileStat} {listable : Bool} {children : List (FileName × FileNode)} {child : FileNode} {step : FileName}
    {rest : List FileName} (hnode : root.at? path = some (.directory stat listable children)) (hdot : step ≠ .here)
    (hdots : step ≠ .above) (hchild : Pairs.get? step children = some child) (hlinkless : ∀ target, child ≠ .link target) :
    follow root create links path (step :: rest) = follow root create links (path ++ [step]) rest := by
  rw [follow, hnode]
  simp only [FileNode.isDirectory, FileNode.children, Bool.not_true, Bool.false_eq_true, if_false, hdot, hdots, hchild]

/-- From a directory, a step that names a link leads where the link does. -/
theorem follow_link {create : Bool} {stat : FileStat} {listable : Bool} {children : List (FileName × FileNode)} {step : FileName} {target : FilePath}
    {rest : List FileName} (hnode : root.at? path = some (.directory stat listable children)) (hdot : step ≠ .here)
    (hdots : step ≠ .above) (hchild : Pairs.get? step children = some (.link target)) :
    follow root create (links + 1) path (step :: rest) =
      follow root create links (if target.isAbsolute then [] else path) (target.steps ++ rest) := by
  rw [follow, hnode]
  simp only [FileNode.isDirectory, FileNode.children, Bool.not_true, Bool.false_eq_true, if_false, hdot, hdots, hchild]

/-- No step leads to the file that stands at a place. -/
theorem follow_nil_of_file (hfile : root.at? place = some (.file data)) : follow root false links place [] = .ok place := by
  rw [follow, hfile]
  rfl

/-- What was no link is none afterwards, if it is a directory or the file itself was put there. -/
theorem exists_linkless (hfollows : Follows root root' place data) {child : FileNode} (hchild : root.at? path = some child)
    (hlinkless : ∀ target, child ≠ .link target) (hplace : child.isDirectory = false → path = place) :
    ∃ child', root'.at? path = some child' ∧ ∀ target, child' ≠ .link target := by
  cases child with
  | directory stat listable below =>
    obtain ⟨below', hbelow⟩ := hfollows.directory path stat listable below hchild
    exact ⟨_, hbelow, nofun⟩
  | link target => exact absurd rfl (hlinkless target)
  | file | special =>
    rw [hplace rfl]
    exact ⟨_, hfollows.file, nofun⟩

/-- **The same steps lead to a file** where they led to a place for it before. -/
theorem follow_again {create : Bool} (hfollows : Follows root root' place data)
    (h : follow root create links path steps = .ok place) : follow root' false links path steps = .ok place := by
  fun_induction follow root create links path steps with
  | case1 links path _ =>
    cases h
    exact follow_nil_of_file hfollows.file
  | case2 | case3 | case4 | case8 | case9 => cases h
  | case5 links path rest node hnode hdir ih =>
    obtain ⟨stat, listable, children', hnode'⟩ := hfollows.exists_directory hnode hdir
    rw [follow, hnode']
    exact ih h
  | case6 links path rest node hnode hdir hne ih =>
    obtain ⟨stat, listable, children', hnode'⟩ := hfollows.exists_directory hnode hdir
    rw [follow, hnode']
    simp only [FileNode.isDirectory, Bool.not_true, Bool.false_eq_true, if_false, if_true, hne]
    exact ih h
  | case7 links path step rest node hnode hdir hdot hdots hchild hlast =>
    -- the file is new
    cases h
    obtain ⟨stat, listable, children', hnode'⟩ := hfollows.exists_directory hnode hdir
    obtain rfl : rest = [] := List.isEmpty_iff.mp (Bool.and_eq_true_iff.mp hlast).2
    have hchild' : Pairs.get? step children' = some (.file data) := (FileNode.at?_below hnode' step).symm.trans hfollows.file
    rw [follow_child hnode' hdot hdots hchild' nofun]
    exact follow_nil_of_file hfollows.file
  | case10 path step rest node hnode hdir hdot hdots target hchild links ih =>
    obtain ⟨stat, listable, children, rfl⟩ := FileNode.exists_of_isDirectory hdir
    obtain ⟨children', hnode'⟩ := hfollows.directory path stat listable children hnode
    have hlink := hfollows.link (path ++ [step]) target ((FileNode.at?_below hnode step).trans hchild)
    rw [follow_link hnode' hdot hdots ((FileNode.at?_below hnode' step).symm.trans hlink)]
    exact ih h
  | case11 links path step rest node hnode hdir hdot hdots child hlinkless hchild ih =>
    obtain ⟨stat, listable, children, rfl⟩ := FileNode.exists_of_isDirectory hdir
    obtain ⟨children', hnode'⟩ := hfollows.directory path stat listable children hnode
    have hbefore : root.at? (path ++ [step]) = some child := (FileNode.at?_below hnode step).trans hchild
    obtain ⟨child', hafter, hlinkless'⟩ := exists_linkless hfollows hbefore hlinkless (place_of_follow h hbefore)
    rw [follow_child hnode' hdot hdots ((FileNode.at?_below hnode' step).symm.trans hafter) hlinkless']
    exact ih h

/-! ## Writing -/

/-- A path that leads to a place for writing leads to the file that was put there. -/
theorem node?_putFile {t : FileTree} {path : FilePath} (hlookUp : t.lookUp true path = .ok place)
    (htakes : t.root.Takes place) (data : FileData) : (t.putFile place data).node? path = some (.file data) := by
  have hfollows := htakes.follows data
  unfold lookUp at hlookUp
  split at hlookUp
  case isTrue => cases hlookUp
  case isFalse hpath =>
    have hagain : (t.putFile place data).lookUp false path = .ok place := by
      rw [lookUp, if_neg hpath]
      exact follow_again hfollows hlookUp
    rw [node?, locate?, hagain]
    exact hfollows.file

/-- **What was written at a path** stands there. -/
theorem node?_overwrite {t t' : FileTree} {path : FilePath} {content : ByteArray} {modified : Int}
    (h : t.overwrite path content modified = (true, t')) :
    ∃ serial, t'.node? path = some (.file ⟨serial, content, true, modified⟩) := by
  unfold overwrite at h
  cases hlookUp : t.lookUp true path with
  | error astray =>
    rw [hlookUp] at h
    cases h
  | ok place =>
    rw [hlookUp] at h
    dsimp only at h
    cases hnode : t.root.at? place with
    | none =>
      rw [hnode] at h
      cases h
      refine ⟨t.next, node?_putFile hlookUp ?_ _⟩
      unfold lookUp at hlookUp
      split at hlookUp
      · cases hlookUp
      · exact takes_of_follow hlookUp hnode
    | some node =>
      rw [hnode] at h
      cases node with
      | link | directory | special => cases h
      | file old =>
        cases h
        exact ⟨old.serial, node?_putFile hlookUp (FileNode.takes_of_file hnode) _⟩

/-- **What was saved at a path** stands there. -/
theorem node?_save {t t' : FileTree} {path : FilePath} {content : ByteArray} {modified : Int}
    (h : t.save path content modified = (true, t')) :
    ∃ serial, t'.node? path = some (.file ⟨serial, content, true, modified⟩) := by
  unfold save at h
  cases hparents : t.makeParents path modified with
  | mk made parents =>
    rw [hparents] at h
    cases made with
    | false => cases h
    | true => exact node?_overwrite h

/-! ## Trees of one file -/

/-- The tree of one file. -/
def onlyFile (name : FileName) (data : FileData) : FileTree where
  root := .directory ⟨4096, 0⟩ true [(name, .file data)]
  here := []
  next := 2
  directorySize := 4096

section onlyFile

variable {step : FileName} {path : FilePath} (hsteps : path.steps = [step]) (hdots : step ≠ .here ∧ step ≠ .above)
include hsteps hdots

/-- A path of one step leads to the only file of a tree if that has the name. Nothing else is there to be read, but
anything can be written. -/
theorem lookUp_onlyFile (name : FileName) (data : FileData) (create : Bool) :
    (onlyFile name data).lookUp create path = if create ∨ name = step then .ok [step] else .error .missing := by
  have hbytes : path.bytes.isEmpty = false := by
    rw [Bool.eq_false_iff, ne_eq, List.isEmpty_iff]
    intro hnil
    rw [FilePath.steps, FilePath.names, hnil] at hsteps
    cases hsteps
  have hstart : (onlyFile name data).start path = [] := ite_self []
  rw [lookUp, hsteps, hbytes, hstart]
  by_cases hname : name = step <;>
    simp [onlyFile, follow, FileNode.at?, FileNode.isDirectory, FileNode.children, Pairs.get?, hdots, hname]

/-- A path of one step has a place in the tree of one file if it is the path of that file. -/
theorem locate?_onlyFile (name : FileName) (data : FileData) :
    (onlyFile name data).locate? false path = if name = step then some [step] else none := by
  rw [locate?, lookUp_onlyFile hsteps hdots]
  by_cases hname : name = step <;> simp [Except.toOption, hname]

/-- The only file of a tree is found at its path, and nothing at any other path of one step. -/
theorem node?_onlyFile (name : FileName) (data : FileData) :
    (onlyFile name data).node? path = if name = step then some (.file data) else none := by
  rw [node?, locate?_onlyFile hsteps hdots]
  by_cases hname : name = step <;> simp [onlyFile, FileNode.at?, FileNode.children, Pairs.get?, hname]

end onlyFile

end FileTree

end MediaCatalog
