import MediaCatalog.Dict
import MediaCatalog.NumberMap

/-!
# Inode numbers

A kernel addresses nodes by number, the namespace by path. The table hands out numbers on first
sight, counts the look-ups it answers for each, and evicts a path once the kernel has forgotten
every one of them. Numbers are never reused.

* `InodeTable.number`, `InodeTable.lookup`, `InodeTable.forget`: the operations.
* `InodeTable.path?`, `InodeTable.childPath?`, `parentPath`: paths of nodes.
-/

namespace MediaCatalog

/-- A text without the slashes at its two ends. -/
def trimSlashes (s : List Char) : List Char :=
  ((s.dropWhile (· = '/')).reverse.dropWhile (· = '/')).reverse

/-- The spelling of a path in the table: with a slash in front and none at the end; `/` for the
root. -/
def tidyPath (path : String) : String := String.ofList ('/' :: trimSlashes path.toList)

/-- The text before the last slash; empty if there is none. -/
def beforeLastSlash (s : List Char) : List Char :=
  ((s.reverse.dropWhile (· ≠ '/')).drop 1).reverse

/-- The path of a node's parent; the root is its own parent. -/
def parentPath (path : String) : String :=
  match beforeLastSlash (tidyPath path).toList with
  | [] => "/"
  | parent => String.ofList parent

/-- The nodes known to the kernel. -/
structure InodeTable where
  /-- The number of each path in tidy spelling. -/
  numbers : Dict Nat
  /-- The path of each number. -/
  paths : NumberMap String
  /-- The look-ups answered and not yet forgotten, for the numbers that were looked up. -/
  lookups : NumberMap Nat
  /-- The next number to hand out. -/
  next : Nat

namespace InodeTable

/-- The number of the root. -/
def rootInode : Nat := 1

/-- The table that knows the root only. -/
def initial : InodeTable where
  numbers := Dict.empty.insert "/" rootInode
  paths := NumberMap.empty.insert rootInode "/"
  lookups := .empty
  next := 2

/-- The table with the next number handed out for a path in tidy spelling. -/
def add (t : InodeTable) (path : String) : InodeTable where
  numbers := t.numbers.insert path t.next
  paths := t.paths.insert t.next path
  lookups := t.lookups
  next := t.next + 1

/-- The number of the node at a path, a new one if it has none. -/
def number (t : InodeTable) (path : String) : Nat × InodeTable :=
  match t.numbers.get? (tidyPath path) with
  | some inode => (inode, t)
  | none => (t.next, t.add (tidyPath path))

/-- The table with the look-up count of a number set. -/
def setLookups (t : InodeTable) (inode lookups : Nat) : InodeTable :=
  { t with lookups := t.lookups.insert inode lookups }

/-- The number of the node at a path, counted as one look-up. -/
def lookup (t : InodeTable) (path : String) : Nat × InodeTable :=
  let (inode, t) := t.number path
  (inode, t.setLookups inode ((t.lookups.get? inode).getD 0 + 1))

/-- The table without a number, its count and its path. -/
def evict (t : InodeTable) (inode : Nat) : InodeTable where
  numbers :=
    match t.paths.get? inode with
    | some path => t.numbers.erase path
    | none => t.numbers
  paths := t.paths.erase inode
  lookups := t.lookups.erase inode
  next := t.next

/-- Takes `count` look-ups of a node back, and tells whether that evicts it. -/
def forget (t : InodeTable) (inode count : Nat) : Bool × InodeTable :=
  if inode = rootInode then (false, t)
  else
    match t.lookups.get? inode with
    | none => (false, t)
    | some lookups =>
      if count < lookups then (false, t.setLookups inode (lookups - count)) else (true, t.evict inode)

/-- The path of the node with a number. -/
def path? (t : InodeTable) (inode : Nat) : Option String := t.paths.get? inode

/-- The path of the child called `name` of the node with a number. -/
def childPath? (t : InodeTable) (parent : Nat) (name : String) : Option String :=
  (t.path? parent).map fun path => if path = "/" then "/" ++ name else path ++ "/" ++ name

/-- The number of nodes known. -/
def size (t : InodeTable) : Nat := t.paths.size

end InodeTable

end MediaCatalog
