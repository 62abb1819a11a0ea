import MediaCatalog.Files.Positioned
import MediaCatalog.Files.Tree
import MediaCatalog.Namespace.Resolution
import MediaCatalog.Scan.Record

/-!
# Attributes and open files

A file of the namespace stands for the real file named in its entry's field `path`. Real files are
opened for reading only; each open file has a handle, a number that is never given out again.

* `Namespace.attributes`: mode, size and time of a node.
* `Namespace.open`, `Namespace.read`, `Namespace.release`: the life of a handle.
-/

namespace MediaCatalog

/-- What is known of a node from outside. -/
structure NodeAttributes where
  kind : NodeKind
  mode : Nat
  size : Nat
  /-- The time of the last modification of the real file in nanoseconds since the epoch, if there is one. -/
  modified : Option Int

/-- An open real file. -/
inductive OpenFile where
  | file (data : FileData)
  /-- A directory can be opened but has nothing to read. -/
  | directory

/-- The browsable tree with its open files. -/
structure Namespace where
  browser : Browser
  /-- The open files by handle. -/
  handles : List (Nat × OpenFile)
  /-- The next handle to give out. -/
  next : Nat

namespace Namespace

/-- A namespace without mounts. -/
def new (strict : Bool) : Namespace := ⟨⟨Dict.empty, strict⟩, [], 1⟩

/-- Adds a mount, or replaces the one of the same name. Tells whether that could be done, with the namespace as
it is then. -/
def register (n : Namespace) (name schema : String) : Except NamespaceError Unit × Namespace :=
  let (outcome, mounts) := n.browser.mounts.register name schema
  (outcome, { n with browser := { n.browser with mounts } })

/-- The namespace with one more mount. -/
def withMount (n : Namespace) (name schema : String) : Except NamespaceError Namespace :=
  let (outcome, after) := n.register name schema
  outcome.map fun _ => after

/-- The mode of every directory: all may list it. -/
def directoryMode : Nat := 0o555

/-- The mode of every file: all may read it. -/
def fileMode : Nat := 0o444

/-- The path of the real file of a node. -/
def realPath? (node : Node) : Option String := do
  let path ← (← node.entry?).get? pathField
  if path.isEmpty then none else some path

/-- The attributes of the node at a path. -/
def attributes (n : Namespace) (store : Store) (files : FileTree) (path : String) :
    Except NamespaceError NodeAttributes := do
  let node ← n.browser.resolve store path
  match node.kind, realPath? node with
  | .directory, _ => return ⟨.directory, directoryMode, 0, none⟩
  | .file, none => return ⟨.file, fileMode, 0, none⟩
  | .file, some real =>
    match (files.node? real).bind FileNode.stat? with
    | none => throw .io
    | some stat => return ⟨.file, fileMode, stat.size, some stat.modified⟩

/-- What opening a real path gives. -/
def openReal (files : FileTree) (path : String) : Except NamespaceError OpenFile :=
  match files.node? path with
  | some (.file data) => if data.readable then .ok (.file data) else .error .io
  | some (.directory _ true _) => .ok .directory
  | _ => .error .io

/-- The real file that is opened at a path. -/
def openAt (n : Namespace) (store : Store) (files : FileTree) (path : String) (write : Bool) :
    Except NamespaceError OpenFile := do
  let node ← n.browser.resolve store path
  if write then throw .permissionDenied
  if node.kind = .directory then throw .isADirectory
  match realPath? node with
  | none => throw .notFound
  | some real => openReal files real

/-- Opens the real file of the node at a path. Gives out a handle if that could be done, with the namespace as it
is then. -/
def «open» (n : Namespace) (store : Store) (files : FileTree) (path : String) (write : Bool) :
    Except NamespaceError Nat × Namespace :=
  match n.openAt store files path write with
  | .error cause => (.error cause, n)
  | .ok file => (.ok n.next, { n with handles := n.handles ++ [(n.next, file)], next := n.next + 1 })

/-- The open file of a handle. -/
def openFile? (n : Namespace) (handle : Nat) : Option OpenFile :=
  (n.handles.find? fun h => h.1 = handle).map (·.2)

/-- The largest offset of a file. Neither a file nor a range that is asked for reaches further. -/
def maxOffset : Nat := 0x7FFFFFFFFFFFFFFF

/-- Reads up to `length` bytes at an offset; fewer only at the end of the file. A range that would reach
further than any file is refused. -/
def OpenFile.read (file : OpenFile) (delivery : Positioned.Delivery) (offset length : Nat) :
    Except NamespaceError ByteArray :=
  if length = 0 then .ok ByteArray.empty
  else if maxOffset < offset + length then .error .io
  else
    match file with
    | .directory => .error .io
    | .file data => .ok (Positioned.fill data.content offset length delivery)

/-- Reads from the open file of a handle. -/
def read (n : Namespace) (delivery : Positioned.Delivery) (handle offset length : Nat) :
    Except NamespaceError ByteArray :=
  match n.openFile? handle with
  | none => .error .badHandle
  | some file => OpenFile.read file delivery offset length

/-- Closes the open file of a handle. Tells whether there was one, with the namespace as it is then. -/
def release (n : Namespace) (handle : Nat) : Except NamespaceError Unit × Namespace :=
  (if (n.openFile? handle).isSome then .ok () else .error .badHandle,
    { n with handles := n.handles.filter fun h => h.1 ≠ handle })

/-- The number of open files. -/
def openCount (n : Namespace) : Nat := n.handles.length

/-- Shows the new content of a file to the handles that have it open. -/
def refresh (n : Namespace) (data : FileData) : Namespace :=
  { n with handles := n.handles.map fun (handle, file) => match file with
    | .file old => (handle, .file (if old.serial = data.serial then data else old))
    | .directory => (handle, .directory) }

end Namespace

end MediaCatalog
