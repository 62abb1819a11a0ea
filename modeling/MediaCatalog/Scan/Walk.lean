import MediaCatalog.Scan.File

/-!
# Scanning a tree of files

A scan walks a directory: first its files in the order of their names, then its subdirectories.
Links are not followed. Each file is scanned with the backends that were started and accept it; a
failure concerns one file or directory only.

* `listDirectory?`: what stands in a directory, in the order of the names.
* `walkItems`: the items of a walk, directory by directory.
* `scan`: the items of a scan, each with the store and the calls of backends up to it, so that a
  scan that is dropped after some items has done what the last of them says.
-/

namespace MediaCatalog

/-- What is known of a file at a physical path. -/
def FileData.info (data : FileData) (path : List FileName) : FileInfo :=
  ⟨.ofNames path, data.content.size, data.modified⟩

/-- What stands in a directory, for a walk. -/
inductive WalkEntry where
  | file (info : FileInfo)
  /-- A directory, which is walked later. -/
  | descend (path : List FileName) (node : FileNode)
  /-- Links are not followed, and other nodes are not scanned. -/
  | skip

/-- What a node at a physical path is for a walk. -/
def walkEntry (path : List FileName) : FileNode → WalkEntry
  | .file data => .file (data.info path)
  | .directory stat listable children => .descend path (.directory stat listable children)
  | .link _ => .skip
  | .special _ => .skip

/-- Children in the order of their names, which is that of the bytes. -/
def inNameOrder (children : List (FileName × FileNode)) : List (FileName × FileNode) :=
  children.mergeSort fun a b => a.1 ≤ b.1

/-- What stands in the directory at a physical path, in the order of the names, if it can be listed. -/
def listDirectory? (path : List FileName) : FileNode → Option (List WalkEntry)
  | .directory _ true children => some ((inNameOrder children).map fun child => walkEntry (path ++ [child.1]) child.2)
  | _ => none

/-- The directories among entries. -/
def descents (entries : List WalkEntry) : List (List FileName × FileNode) :=
  entries.filterMap fun
    | .descend path node => some (path, node)
    | _ => none

mutual

/-- How many nodes there are from a node on. -/
def FileNode.count : FileNode → Nat
  | .directory _ _ children => childCount children + 1
  | _ => 1

/-- How many nodes there are among children and below them. -/
def childCount : List (FileName × FileNode) → Nat
  | [] => 0
  | (_, node) :: rest => node.count + childCount rest

end

/-- A node counts itself. -/
theorem FileNode.count_pos (node : FileNode) : 0 < node.count := by
  cases node with
  | directory stat listable children => exact Nat.succ_pos _
  | file | link | special => exact Nat.one_pos

/-- The order of children makes no difference to how many nodes there are. -/
theorem childCount_perm {children children' : List (FileName × FileNode)} (h : children.Perm children') :
    childCount children = childCount children' := by
  induction h with
  | nil => rfl
  | cons child _ ih => rw [childCount, childCount, ih]
  | swap child child' rest =>
    simp only [childCount]
    exact Nat.add_left_comm _ _ _
  | trans _ _ ih ih' => exact ih.trans ih'

/-- How many nodes there are from pending directories on. -/
def pendingCount : List (List FileName × FileNode) → Nat
  | [] => 0
  | (_, node) :: rest => node.count + pendingCount rest

/-- The nodes from pending directories on are those from the first and those from the other ones. -/
theorem pendingCount_append (dirs more : List (List FileName × FileNode)) :
    pendingCount (dirs ++ more) = pendingCount dirs + pendingCount more := by
  induction dirs with
  | nil => exact (Nat.zero_add _).symm
  | cons dir rest ih => rw [List.cons_append, pendingCount, pendingCount, ih, Nat.add_assoc]

/-- The directories in a directory have fewer nodes than the directory. -/
theorem pendingCount_descents_lt {path : List FileName} {node : FileNode} {entries : List WalkEntry}
    (h : listDirectory? path node = some entries) : pendingCount (descents entries) < node.count := by
  unfold listDirectory? at h
  split at h
  case h_2 => cases h
  case h_1 stat children =>
    cases h
    rw [FileNode.count, ← childCount_perm (List.mergeSort_perm children fun a b => a.1 ≤ b.1)]
    apply Nat.lt_succ_of_le
    unfold inNameOrder
    generalize children.mergeSort (fun a b => a.1 ≤ b.1) = sorted
    induction sorted with
    | nil => exact Nat.le_refl 0
    | cons child rest ih =>
      obtain ⟨name, node⟩ := child
      rw [childCount, List.map_cons]
      cases node with
      | file | link | special => exact Nat.le_trans ih (Nat.le_add_left _ _)
      | directory stat listable children => exact Nat.add_le_add_left ih _

/-- The totals of a scan. -/
structure ScanSummary where
  discovered : Nat
  processed : Nat
  cached : Nat
  skipped : Nat
  failed : Nat
  deriving DecidableEq, Repr

/-- What a scan reports. -/
inductive ScanEvent where
  | started
  | discovered (path : FilePath)
  | scanned (file : ScannedFile)
  /-- No backend accepts the file. -/
  | skipped (path : FilePath)
  /-- The file could not be scanned; nothing was stored for it. -/
  | failed (path : FilePath) (failure : Failure)
  | complete (summary : ScanSummary)

/-- An item of a scan. -/
structure ScanItem where
  event : Except Failure ScanEvent
  /-- The store when the item appears. -/
  store : Store
  /-- The calls that backends received since the item before. -/
  calls : List BackendCall

namespace ScanSummary

/-- The totals of nothing. -/
def empty : ScanSummary := ⟨0, 0, 0, 0, 0⟩

/-- The totals after one more file. -/
def count (s : ScanSummary) : ScanEvent → ScanSummary
  | .discovered _ => { s with discovered := s.discovered + 1 }
  | .scanned ⟨_, _, .processed⟩ => { s with processed := s.processed + 1 }
  | .scanned ⟨_, _, .cached⟩ => { s with cached := s.cached + 1 }
  | .skipped _ => { s with skipped := s.skipped + 1 }
  | .failed _ _ => { s with failed := s.failed + 1 }
  | _ => s

end ScanSummary

/-- What became of a file that was discovered. -/
def fileItem (d : Digests) (files : FileTree) (active : List Registered) (force : Bool) (store : Store)
    (file : FileInfo) : ScanEvent × Store × List BackendCall :=
  let accepting := active.filter fun r => r.accepts file.path
  if accepting.isEmpty then (.skipped file.path, store, [])
  else
    let outcome := scanFile d files (accepting.map (·.backend)) store force file
    match outcome.result with
    | .ok scanned => (.scanned scanned, outcome.store, outcome.calls)
    | .error failure => (.failed file.path failure, outcome.store, outcome.calls)

/-- What scanning the entries of a directory came to. -/
structure WalkProgress where
  items : List ScanItem
  store : Store
  summary : ScanSummary

/-- The items for the files among the entries of a directory. -/
def entryItems (d : Digests) (files : FileTree) (active : List Registered) (force : Bool) :
    Store → ScanSummary → List WalkEntry → WalkProgress
  | store, summary, [] => ⟨[], store, summary⟩
  | store, summary, .file file :: rest =>
    let (event, after, calls) := fileItem d files active force store file
    let progress := entryItems d files active force after ((summary.count (.discovered file.path)).count event) rest
    { progress with items := ⟨.ok (.discovered file.path), store, []⟩ :: ⟨.ok event, after, calls⟩ :: progress.items }
  | store, summary, .descend _ _ :: rest => entryItems d files active force store summary rest
  | store, summary, .skip :: rest => entryItems d files active force store summary rest

/-- The items of a walk of pending directories, and the completion after it. The directories in one that
was listed come before the other pending ones. -/
def walkItems (d : Digests) (files : FileTree) (active : List Registered) (force : Bool) (store : Store)
    (summary : ScanSummary) : List (List FileName × FileNode) → List ScanItem
  | [] => [⟨.ok (.complete summary), store, active.map fun r => .stop r.backend.name⟩]
  | (path, node) :: pending =>
    match _h : listDirectory? path node with
    | none =>
      ⟨.error (.above .scan (.of (.walk (.ofNames path)))), store, []⟩ ::
        walkItems d files active force store summary pending
    | some entries =>
      let progress := entryItems d files active force store summary entries
      progress.items ++ walkItems d files active force progress.store progress.summary (descents entries ++ pending)
  termination_by pending => pendingCount pending
  decreasing_by
    · exact Nat.lt_add_of_pos_left node.count_pos
    · rw [pendingCount_append]
      exact Nat.add_lt_add_right (pendingCount_descents_lt _h) _

/-- Whether a backend takes part in a scan. -/
def Registered.starts (r : Registered) : Bool := r.backend.start.toOption.isSome

/-- Items with calls that were made before the first of them. -/
def withCallsBefore (calls : List BackendCall) : List ScanItem → List ScanItem
  | [] => []
  | item :: rest => { item with calls := calls ++ item.calls } :: rest

/-- The items of a scan of the directory at a path. -/
def scan (d : Digests) (files : FileTree) (registry : Registry) (force : Bool) (store : Store)
    (path : FilePath) : List ScanItem :=
  let started : ScanItem := ⟨.ok .started, store, []⟩
  match files.locate? false path with
  | none => [started, ⟨.error (.above .scan (.of (.walk path))), store, []⟩]
  | some place =>
    let pending := ((files.root.at? place).map fun node => (place, node)).toList
    let starts := registry.values.map fun r => BackendCall.start r.backend.name
    let active := registry.values.filter Registered.starts
    started :: withCallsBefore starts (walkItems d files active force store .empty pending)

end MediaCatalog
