import MediaCatalog.Backend.Registry
import MediaCatalog.Digest.ContentId
import MediaCatalog.Files.Tree
import MediaCatalog.Scan.Record

/-!
# Scanning one file

A file whose size and time are on record is left alone. Any other file is identified by its content
and shown to the backends that accept it, and its entry is written together with those of its sets,
or not at all.

* `scanFile`: the result, the store after it, and the calls that backends received.
-/

namespace MediaCatalog

/-- The digest functions that identify entries and contents. -/
structure Digests where
  key : Digest
  content : ByteArray → ByteArray
  blockSize : Nat

/-- The digests that programs use. -/
def Digests.standard : Digests := ⟨Blake3.hashText, Blake3.hash, ContentId.blockSize⟩

/-- The content identifier of the file at a path. A directory can be opened but not read. -/
def FileTree.contentId (files : FileTree) (d : Digests) (path : FilePath) : Except Failure String :=
  match files.node? path with
  | some (.file data) =>
    if data.readable then .ok (ContentId.ofContent d.content d.blockSize data.content)
    else .error (.of .io)
  | some (.directory _ _ _) => .error (.above .hash (.of .io))
  | _ => .error (.of .io)

/-- The content identifier of what a reader delivers. A reader that fails gives no identifier. -/
def ByteSource.contentId (d : Digests) (source : ByteSource) : Except Failure String :=
  match ContentId.ofSource? d.content d.blockSize source with
  | some id => .ok id
  | none => .error (.of .io)

/-- A call that a backend received. -/
inductive BackendCall where
  | start (backend : String)
  | process (backend fileName contentId : String)
  | describe (backend kind name : String)
  | stop (backend : String)
  deriving DecidableEq, Repr

/-- How much work a scan took. -/
inductive ScanEffort where
  /-- The file was found unchanged. -/
  | cached
  /-- The file was identified and shown to every accepting backend. -/
  | processed
  deriving DecidableEq, Repr

/-- A file that was scanned. -/
structure ScannedFile where
  file : FileInfo
  /-- Its entry as it is stored after the scan. -/
  entry : Entry
  effort : ScanEffort

/-- What a file's scan has done so far, before it is committed. -/
structure ScanDraft where
  tx : Transaction
  record : FileRecord
  calls : List BackendCall

/-- A step of a file's scan: a failure with the calls made up to it, or the draft after it. -/
abbrev ScanStep := Except (Failure × List BackendCall) ScanDraft

namespace ScanDraft

/-- Joins the file to a set with which a backend associates it. -/
def joinSet (d : Digests) (backend : Backend) (draft : ScanDraft) (association : SetAssociation) : ScanStep :=
  let set := SetRecord.load d.key draft.tx backend.name association.kind association.name
  let calls := if set.isNew then draft.calls ++ [.describe backend.name set.kind set.name] else draft.calls
  match set.enrich backend association with
  | .error cause => .error (.above (.backend backend.name) cause, calls)
  | .ok (changed, set) =>
    let draft := { draft with record := draft.record.join set, calls }
    if changed then
      match draft.tx.put set.entry with
      | .error error => .error (.above .unrecorded (.ofStore error), calls)
      | .ok tx => .ok { draft with tx }
    else .ok draft

/-- Shows the file to a backend and takes over what it knows. -/
def askBackend (d : Digests) (file : FileInfo) (contentId : String) (draft : ScanDraft) (backend : Backend) : ScanStep :=
  let fileName := (file.path.name?.map Text.Utf8.lossy).getD ""
  let calls := draft.calls ++ [.process backend.name fileName contentId]
  match backend.process file contentId with
  | .error cause => .error (.above (.backend backend.name) cause, calls)
  | .ok contribution =>
    contribution.sets.foldlM (joinSet d backend)
      { draft with record := draft.record.apply contribution.properties, calls }

end ScanDraft

/-- What scanning a file came to. -/
structure ScanResult where
  result : Except Failure ScannedFile
  store : Store
  calls : List BackendCall

/-- Identifies a file, shows it to backends and commits what is known of it. -/
def processFile (d : Digests) (files : FileTree) (backends : List Backend) (store : Store) (file : FileInfo) :
    ScanResult :=
  match files.contentId d file.path with
  | .error cause => ⟨.error (.above .unidentified cause), store, []⟩
  | .ok contentId =>
    match store.begin with
    | .error error => ⟨.error ⟨.unrecorded, [.inStore error]⟩, store, []⟩
    | .ok tx =>
      let record := (FileRecord.load d.key tx file).describe file contentId
      match backends.foldlM (ScanDraft.askBackend d file contentId) ⟨tx, record, []⟩ with
      | .error (failure, calls) => ⟨.error failure, store, calls⟩
      | .ok draft =>
        match draft.tx.put draft.record.entry with
        | .error error => ⟨.error (.above .unrecorded (.ofStore error)), store, draft.calls⟩
        | .ok tx => ⟨.ok ⟨file, draft.record.entry, .processed⟩, store.commit tx, draft.calls⟩

/-- Scans a file with backends that accept it. With `force`, also an unchanged file is processed. -/
def scanFile (d : Digests) (files : FileTree) (backends : List Backend) (store : Store) (force : Bool)
    (file : FileInfo) : ScanResult :=
  let outcome : ScanResult := match store.begin with
    | .error error => ⟨.error ⟨.unrecorded, [.inStore error]⟩, store, []⟩
    | .ok tx =>
      let record := FileRecord.load d.key tx file
      if !force && record.isUnchanged file then ⟨.ok ⟨file, record.entry, .cached⟩, store, []⟩
      else processFile d files backends store file
  { outcome with result := outcome.result.mapError (Failure.above .scan) }

end MediaCatalog
