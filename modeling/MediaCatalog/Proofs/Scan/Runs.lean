import MediaCatalog.Proofs.Scan.Atomicity

/-!
# Scans one after the other

What one scan of a file comes to, by its outcome, and runs of such scans on a store that is empty at
first and keeps what is written. Between two scans everything else may change: the files, the
backends, and whether the database can be used.

* `scanFile_of_open`: a scan on an open store is a comparison, and then the processing of the file.
* **By outcome** (`scanFile_outcome`): a file that is processed is stored as it was found, a cached one
  was unchanged, and a scan that does not process its file leaves the store alone.
* `ScanRequest`, `tableAfter`, `scanHistory`: the scans of a run, with what is committed after them
  and with their results. One of them stores what it found (`ScanRequest.stores_of_processed`) or
  commits nothing (`ScanRequest.table_of_not_processed`).
-/

namespace MediaCatalog

variable (d : Digests) (files : FileTree) (backends : List Backend) {store : Store} (file : FileInfo)

/-! ## One scan -/

/-- How much work a scan took that ended well. -/
def ScanResult.effort? (r : ScanResult) : Option ScanEffort := r.result.toOption.map (·.effort)

/-- A failure that is given a cause is still a failure. -/
theorem ScanResult.effort?_mapError (r : ScanResult) (f : Failure → Failure) :
    ScanResult.effort? { r with result := r.result.mapError f } = r.effort? := by
  obtain ⟨result, store, calls⟩ := r
  cases result with
  | error failure => rfl
  | ok scanned => rfl

/-- An open store opens a transaction on its table. -/
theorem Store.begin_of_open {store : Store} (hopen : store.isOpen = true) :
    store.begin = .ok ⟨store.table, store.access, store.dryRun⟩ := by
  unfold Store.begin Store.demandOpen
  rw [hopen]
  rfl

/-- A scan on a closed store fails. -/
theorem scanFile_of_closed (hclosed : store.isOpen = false) (force : Bool) :
    ∃ failure, scanFile d files backends store force file = ⟨.error failure, store, []⟩ := by
  have hbegin : store.begin = .error .database := by
    unfold Store.begin Store.demandOpen
    rw [hclosed]
    rfl
  unfold scanFile
  simp only [hbegin]
  exact ⟨_, rfl⟩

/-- **A scan on an open store** leaves an unchanged file alone unless it is forced, and processes any
other file. -/
theorem scanFile_of_open (hopen : store.isOpen = true) (force : Bool) :
    scanFile d files backends store force file =
      if force = false ∧ FileRecord.isUnchanged ⟨store.table.entryFor (Key.file d.key file.pathText)⟩ file = true then
        ⟨.ok ⟨file, store.table.entryFor (Key.file d.key file.pathText), .cached⟩, store, []⟩
      else
        { processFile d files backends store file with
          result := (processFile d files backends store file).result.mapError (.above .scan) } := by
  unfold scanFile
  simp only [Store.begin_of_open hopen]
  by_cases hcached :
      force = false ∧ FileRecord.isUnchanged ⟨store.table.entryFor (Key.file d.key file.pathText)⟩ file = true
  · rw [if_pos hcached, if_pos]
    · rfl
    · simp only [hcached.1, Bool.not_false, Bool.true_and]
      exact hcached.2
  · rw [if_neg hcached, if_neg]
    intro h
    simp only [Bool.and_eq_true, Bool.not_eq_true'] at h
    exact hcached h

/-- **What a scan comes to**: a failure, a file that is unchanged, or a file that is stored as it was
found. The first two leave the store alone. -/
theorem scanFile_outcome (hdry : store.dryRun = false) (force : Bool) :
    ((scanFile d files backends store force file).effort? = none ∧
        (scanFile d files backends store force file).store = store) ∨
      ((scanFile d files backends store force file).effort? = some .cached ∧
        (scanFile d files backends store force file).store = store ∧
          store.isOpen = true ∧ force = false ∧
            FileRecord.isUnchanged ⟨store.table.entryFor (Key.file d.key file.pathText)⟩ file = true) ∨
      (store.isOpen = true ∧
        ∃ contentId, ∃ found : List (Finding file contentId), ∃ (table : Table) (calls : List BackendCall),
          scanFile d files backends store force file =
              ⟨.ok ⟨file, table.entryFor (Key.file d.key file.pathText), .processed⟩, { store with table }, calls⟩ ∧
            files.contentId d file.path = .ok contentId ∧ found.map Finding.backend = backends ∧
              StoresFindings d found store.table table) := by
  by_cases hopen : store.isOpen = true
  · rw [scanFile_of_open d files backends file hopen]
    split
    case isTrue hcached => exact .inr (.inl ⟨rfl, rfl, hopen, hcached⟩)
    case isFalse hcached =>
      rcases @processFile_spec d files backends store file hdry with
        ⟨failure, calls, hfail, -⟩ | ⟨contentId, found, table, calls, hdone, hrest⟩
      · rw [hfail]
        exact .inl ⟨rfl, rfl⟩
      · rw [hdone]
        exact .inr (.inr ⟨hopen, contentId, found, table, calls, rfl, hrest⟩)
  · obtain ⟨failure, hfail⟩ := scanFile_of_closed d files backends file
      (Bool.not_eq_true _ ▸ hopen) force
    rw [hfail]
    exact .inl ⟨rfl, rfl⟩

variable {d files backends file}

/-- **A file that is processed** is stored as it was found. -/
theorem scanFile_of_processed (hdry : store.dryRun = false) {force : Bool}
    (h : (scanFile d files backends store force file).effort? = some .processed) :
    store.isOpen = true ∧
      ∃ contentId, ∃ found : List (Finding file contentId), ∃ (table : Table) (calls : List BackendCall),
        scanFile d files backends store force file =
            ⟨.ok ⟨file, table.entryFor (Key.file d.key file.pathText), .processed⟩, { store with table }, calls⟩ ∧
          files.contentId d file.path = .ok contentId ∧ found.map Finding.backend = backends ∧
            StoresFindings d found store.table table := by
  rcases scanFile_outcome d files backends file hdry force with
    ⟨hfail, -⟩ | ⟨hcached, -⟩ | hdone
  · rw [hfail] at h
    cases h
  · rw [hcached] at h
    cases h
  · exact hdone

/-- **A file is found unchanged** exactly if the store is open, the scan is not forced, and what is
recorded of the file is what it is. -/
theorem effort?_eq_cached_iff (hdry : store.dryRun = false) {force : Bool} :
    (scanFile d files backends store force file).effort? = some .cached ↔
      store.isOpen = true ∧ force = false ∧
        FileRecord.isUnchanged ⟨store.table.entryFor (Key.file d.key file.pathText)⟩ file = true := by
  constructor
  · intro h
    rcases scanFile_outcome d files backends file hdry force with
      ⟨hfail, -⟩ | ⟨-, -, hunchanged⟩ | ⟨-, contentId, found, table, calls, hdone, -⟩
    · rw [hfail] at h
      cases h
    · exact hunchanged
    · rw [hdone] at h
      cases h
  · rintro ⟨hopen, hcached⟩
    rw [scanFile_of_open d files backends file hopen, if_pos hcached]
    rfl

/-- Only a scan that processes its file changes the store. -/
theorem store_of_not_processed (hdry : store.dryRun = false) {force : Bool}
    (h : (scanFile d files backends store force file).effort? ≠ some .processed) :
    (scanFile d files backends store force file).store = store := by
  rcases scanFile_outcome d files backends file hdry force with
    ⟨-, hstore⟩ | ⟨-, hstore, -⟩ | ⟨-, contentId, found, table, calls, hdone, -⟩
  · exact hstore
  · exact hstore
  · rw [hdone] at h
    exact absurd rfl h

/-! ## Runs -/

/-- A scan of a file, with all that it meets apart from the committed table. -/
structure ScanRequest where
  files : FileTree
  backends : List Backend
  /-- Whether the database can be written and used at all. -/
  access : Access
  isOpen : Bool
  force : Bool
  file : FileInfo

namespace ScanRequest

/-- The key of the entry of the file. -/
def key (d : Digests) (r : ScanRequest) : Key := Key.file d.key r.file.pathText

/-- The store that the scan meets. -/
def storeOn (r : ScanRequest) (table : Table) : Store := ⟨table, r.access, false, r.isOpen⟩

/-- What the scan comes to. -/
def scan (d : Digests) (r : ScanRequest) (table : Table) : ScanResult :=
  scanFile d r.files r.backends (r.storeOn table) r.force r.file

variable {r : ScanRequest} {table : Table}

/-- A scan that processes its file stores what was found of it. -/
theorem stores_of_processed (h : (r.scan d table).effort? = some .processed) :
    ∃ contentId, ∃ found : List (Finding r.file contentId), r.files.contentId d r.file.path = .ok contentId ∧
      found.map Finding.backend = r.backends ∧ StoresFindings d found table (r.scan d table).store.table := by
  obtain ⟨-, contentId, found, after, calls, hdone, hcontent, hfound, hstores⟩ :=
    @scanFile_of_processed d r.files r.backends (r.storeOn table) r.file rfl r.force h
  have hafter : (r.scan d table).store.table = after := congrArg (fun result => result.store.table) hdone
  rw [hafter]
  exact ⟨contentId, found, hcontent, hfound, hstores⟩

/-- A scan that does not process its file leaves the table as it was. -/
theorem table_of_not_processed (h : (r.scan d table).effort? ≠ some .processed) :
    (r.scan d table).store.table = table :=
  congrArg Store.table (@store_of_not_processed d r.files r.backends (r.storeOn table) r.file rfl r.force h)

end ScanRequest

/-- What is committed after a run of scans on a store that was empty. -/
def tableAfter (d : Digests) (run : List ScanRequest) : Table :=
  run.foldl (fun table r => (r.scan d table).store.table) .empty

/-- The scans of a run with their results. -/
def scanHistory (d : Digests) (table : Table) : List ScanRequest → List (ScanRequest × ScanResult)
  | [] => []
  | r :: rest => (r, r.scan d table) :: scanHistory d (r.scan d table).store.table rest

/-- One more scan meets what the run before it has committed. -/
theorem tableAfter_concat (run : List ScanRequest) (r : ScanRequest) :
    tableAfter d (run ++ [r]) = (r.scan d (tableAfter d run)).store.table := by
  rw [tableAfter, List.foldl_concat]
  rfl

/-- One more scan stands last in the history. -/
theorem scanHistory_concat (run : List ScanRequest) (r : ScanRequest) :
    scanHistory d .empty (run ++ [r]) = scanHistory d .empty run ++ [(r, r.scan d (tableAfter d run))] := by
  have hfrom : ∀ table, scanHistory d table (run ++ [r]) =
      scanHistory d table run ++
        [(r, r.scan d (run.foldl (fun table r => (r.scan d table).store.table) table))] := by
    intro table
    induction run generalizing table with
    | nil => rfl
    | cons first rest ih =>
      rw [List.cons_append, scanHistory, ih]
      rfl
  exact hfrom .empty

end MediaCatalog
