import MediaCatalog.Dict
import MediaCatalog.Files.Path

/-!
# Trees of files

The files that the library reads, as a value: directories with named children, regular files,
symbolic links, and other nodes. A physical path is the list of names that lead from the root to a
node; a path may also pass through links, `.` and `..`. Names need not be text.

* `FileNode.at?`, `FileNode.put`, `FileNode.erase`: nodes at physical paths.
* `FileTree.follow`, `FileTree.locate?`: the physical path that a path leads to.
* `FileTree.node?`, `FileTree.save`, `FileTree.remove`: what programs do with paths.
-/

namespace MediaCatalog

/-- A regular file. -/
structure FileData where
  /-- The identity of the file, which stays the same when its content is replaced. -/
  serial : Nat
  content : ByteArray
  /-- Whether the content can be read. -/
  readable : Bool
  /-- The time of the last modification in nanoseconds since the epoch. -/
  modified : Int

/-- What a file system tells of a node without looking into it. -/
structure FileStat where
  size : Nat
  /-- The time of the last modification in nanoseconds since the epoch. -/
  modified : Int

/-- What stands at a path. -/
inductive FileNode where
  | file (data : FileData)
  | link (target : FilePath)
  /-- Children have different names, and are in any order. What the file system tells of the directory is not
  kept up when children come or go. -/
  | directory (stat : FileStat) (listable : Bool) (children : List (FileName × FileNode))
  /-- A device, a pipe, anything else without content, or what nothing can be learnt of. -/
  | special (stat : Option FileStat)

namespace FileNode

/-- The directory without children. -/
def emptyDirectory (stat : FileStat) : FileNode := directory stat true []

/-- Whether a node is a directory. -/
def isDirectory : FileNode → Bool
  | directory _ _ _ => true
  | _ => false

/-- The children of a directory; none of any other node. -/
def children : FileNode → List (FileName × FileNode)
  | directory _ _ children => children
  | _ => []

/-- What a file system tells of a node that is no link. -/
def stat? : FileNode → Option FileStat
  | file data => some ⟨data.content.size, data.modified⟩
  | directory stat _ _ => some stat
  | special stat => stat
  | link _ => none

/-- The node at a physical path below a node. -/
def at? (node : FileNode) : List FileName → Option FileNode
  | [] => some node
  | name :: path => (Pairs.get? name node.children).bind fun child => child.at? path

/-- The node with another node at a physical path, if the directory for it is there. -/
def put (node new : FileNode) : List FileName → FileNode
  | [] => new
  | name :: path =>
    match node, Pairs.get? name node.children with
    | directory stat listable children, some child =>
      directory stat listable (Pairs.insert name (child.put new path) children)
    | directory stat listable children, none =>
      if path.isEmpty then directory stat listable (Pairs.insert name new children) else node
    | other, _ => other

/-- The node without what stands at a physical path. -/
def erase (node : FileNode) : List FileName → FileNode
  | [] => node
  | [name] => match node with
    | directory stat listable children => directory stat listable (Pairs.erase name children)
    | other => other
  | name :: path => match node, Pairs.get? name node.children with
    | directory stat listable children, some child =>
      directory stat listable (Pairs.insert name (child.erase path) children)
    | other, _ => other

end FileNode

/-- A tree of files as a program sees it. -/
structure FileTree where
  root : FileNode
  /-- The physical path of the working directory. -/
  here : List FileName
  /-- The next identity to give to a file. -/
  next : Nat
  /-- The size of a directory that is made. -/
  directorySize : Nat

namespace FileTree

/-- The tree of a working directory and those above it. -/
def ofHere (here : List FileName) (stat : FileStat) : FileTree where
  root := here.foldr (fun name below => .directory stat true [(name, below)]) (.emptyDirectory stat)
  here := here
  next := 1
  directorySize := stat.size

/-- How many links a path may pass through. -/
def maxLinks : Nat := 40

/-- Why steps lead nowhere. -/
inductive Astray where
  /-- A node on the way is missing. -/
  | missing
  /-- Something other than a directory is in the way, or there are too many links. -/
  | blocked

/-- Follows steps from a physical path. With `create`, nothing need stand at the end of the last one. -/
def follow (root : FileNode) (create : Bool) (links : Nat) (path : List FileName) :
    List FileName → Except Astray (List FileName)
  | [] => if (root.at? path).isSome then .ok path else .error .missing
  | step :: rest =>
    match root.at? path with
    | none => .error .missing
    | some node =>
      if !node.isDirectory then .error .blocked
      else if step = .here then follow root create links path rest
      else if step = .above then follow root create links path.dropLast rest
      else
        match Pairs.get? step node.children with
        | none => if create && rest.isEmpty then .ok (path ++ [step]) else .error .missing
        | some (.link target) =>
          match links with
          | 0 => .error .blocked
          | links + 1 =>
            follow root create links (if target.isAbsolute then [] else path) (target.steps ++ rest)
        | some _ => follow root create links (path ++ [step]) rest
  termination_by pending => (links, pending.length)

/-- The physical path from which the steps of a path start. -/
def start (t : FileTree) (path : FilePath) : List FileName := if path.isAbsolute then [] else t.here

/-- The physical path to which a path leads, or why there is none. -/
def lookUp (t : FileTree) (create : Bool) (path : FilePath) : Except Astray (List FileName) :=
  if path.bytes.isEmpty then .error .missing else follow t.root create maxLinks (t.start path) path.steps

/-- The physical path to which a path leads. -/
def locate? (t : FileTree) (create : Bool) (path : FilePath) : Option (List FileName) :=
  (t.lookUp create path).toOption

/-- The node to which a path leads. -/
def node? (t : FileTree) (path : FilePath) : Option FileNode := do
  t.root.at? (← t.locate? false path)

/-! ### Writing -/

/-- The tree with a directory at the end of one step after others, made unless one is there. Nothing else
may stand there. -/
def makeDirectoryAt? (t : FileTree) (start before : List FileName) (step : FileName) (now : Int) : Option FileTree :=
  match follow t.root false maxLinks start (before ++ [step]), follow t.root false maxLinks start before with
  | .ok place, _ => if (t.root.at? place).any FileNode.isDirectory then some t else none
  | .error _, .ok parent =>
    if (t.root.at? parent).any FileNode.isDirectory && (t.root.at? (parent ++ [step])).isNone then
      some { t with root := t.root.put (.emptyDirectory ⟨t.directorySize, now⟩) (parent ++ [step]) }
    else none
  | .error _, .error _ => none

/-- Makes the directories that are missing at the ends of steps, one after the other, and tells whether
they are all there then. -/
def makeDirectories (t : FileTree) (start before : List FileName) (now : Int) : List FileName → Bool × FileTree
  | [] => (true, t)
  | step :: rest =>
    match t.makeDirectoryAt? start before step now with
    | none => (false, t)
    | some t => t.makeDirectories start (before ++ [step]) now rest

/-- The tree with a directory at a path, made with those above it unless it is there. -/
def makeDirectory (t : FileTree) (path : FilePath) (now : Int) : FileTree :=
  (t.makeDirectories (t.start path) [] now path.parts).2

/-- Makes the missing directories above a path, and tells whether they are all there then. -/
def makeParents (t : FileTree) (path : FilePath) (now : Int) : Bool × FileTree :=
  t.makeDirectories (t.start path) [] now path.parts.dropLast

/-- The tree with a file put at a physical path. -/
def putFile (t : FileTree) (place : List FileName) (data : FileData) : FileTree :=
  { t with root := t.root.put (.file data) place, next := t.next + 1 }

/-- Writes content to the file at a path, which may be missing while its directory is there, and
tells whether that worked. A file that was there keeps its identity; a new one gets the next one. -/
def overwrite (t : FileTree) (path : FilePath) (content : ByteArray) (modified : Int) : Bool × FileTree :=
  match t.lookUp true path with
  | .error _ => (false, t)
  | .ok place =>
    match t.root.at? place with
    | none => (true, t.putFile place ⟨t.next, content, true, modified⟩)
    | some (.file data) => (true, t.putFile place ⟨data.serial, content, true, modified⟩)
    | some _ => (false, t)

/-- Writes content to the file at a path, making the missing directories above it, and tells whether
that worked. -/
def save (t : FileTree) (path : FilePath) (content : ByteArray) (modified : Int) : Bool × FileTree :=
  match t.makeParents path modified with
  | (true, t) => t.overwrite path content modified
  | (false, t) => (false, t)

/-- The tree with content written at a path, as far as that works. -/
def writeFile (t : FileTree) (path : FilePath) (content : ByteArray) (modified : Int) : FileTree :=
  (t.save path content modified).2

/-- The tree with a link put at a path, as far as that works. -/
def makeLink (t : FileTree) (path target : FilePath) (now : Int) : FileTree :=
  let made := (t.makeParents path now).2
  match path.parts.getLast?, follow made.root false maxLinks (made.start path) path.parts.dropLast with
  | some name, .ok parent => { made with root := made.root.put (.link target) (parent ++ [name]) }
  | _, _ => made

/-- The tree without what stands at a path. The last step is not followed if it is a link. -/
def remove (t : FileTree) (path : FilePath) : FileTree :=
  match path.names.getLast? with
  | none => t
  | some name =>
    match follow t.root false maxLinks (t.start path) path.names.dropLast with
    | .error _ => t
    | .ok place => { t with root := t.root.erase (place ++ [name]) }

end FileTree

end MediaCatalog
