import Mathlib.Data.List.Induction
import MediaCatalog.Proofs.Files.NameOrder

/-!
# A scan accounts for every file

A scan works through pending directories: it lists one, scans its files, and puts its subdirectories in front
of the others. This file shows that this comes to a walk of the tree in the order of names, and that the
events of a scan account for each file of the walk.

* `Registry.active`: the backends that take part in a scan.
* `visitItems`: the items for what a walk comes across.
* `walkItems_eq_visitItems`: pending directories are walked one after the other; so a scan is a walk
  (`scan_eq_visitItems`).
* `Settled`: each file that was discovered is settled by the next event, and by no other
  (`settled_visitEvents`).
* `ScanSummary.tally`, `ScanSummary.Counts`: totals of events; a walk ends with its own (`visitItems_complete`).
* **Main result** (`scan_accounts_for_files`): a scan discovers just the files that are reached, in the order
  of walks, settles each of them, and counts them.
-/

namespace MediaCatalog

/-! ## Backends that take part -/

/-- The backends of a registry that can be started; they take part in a scan. -/
def Registry.active (registry : Registry) : List Registered :=
  registry.values.filter fun r => r.backend.start = .ok ()

/-- A backend takes part exactly if it can be started. -/
theorem Registered.starts_iff {r : Registered} : r.starts = true ↔ r.backend.start = .ok () := by
  unfold starts
  cases r.backend.start with
  | error cause => exact iff_of_false Bool.false_ne_true nofun
  | ok => exact iff_of_true rfl rfl

/-- What takes part in a scan. -/
theorem Registry.filter_starts (registry : Registry) : registry.values.filter Registered.starts = registry.active := by
  apply List.filter_congr
  intro r _
  rw [Bool.eq_iff_iff, decide_eq_true_eq]
  exact Registered.starts_iff

variable {d : Digests} {files : FileTree} {active : List Registered} {force : Bool}

/-! ## Walking pending directories -/

/-- The items for what a walk comes across, and the completion after it. -/
def visitItems (d : Digests) (files : FileTree) (active : List Registered) (force : Bool) :
    Store → ScanSummary → List Visit → List ScanItem
  | store, summary, [] =>
    [⟨.ok (.complete summary), store, active.map fun r => .stop r.backend.name⟩]
  | store, summary, .unlistable path :: rest =>
    ⟨.error (.above .scan (.of (.walk path))), store, []⟩ :: visitItems d files active force store summary rest
  | store, summary, .file file :: rest =>
    let (event, after, calls) := fileItem d files active force store file
    let summary := (summary.count (.discovered file.path)).count event
    ⟨.ok (.discovered file.path), store, []⟩ :: ⟨.ok event, after, calls⟩ ::
      visitItems d files active force after summary rest

/-- What a walk of pending directories comes across, in the order of names. -/
def pendingVisits (pending : List (List FileName × FileNode)) : List Visit :=
  pending.flatMap fun dir => dir.2.ordered.visits dir.1

/-- The files among the entries of a directory. -/
def entryVisits (entries : List WalkEntry) : List Visit :=
  entries.filterMap fun
    | .file info => some (.file info)
    | _ => none

/-- A directory that cannot be listed is all that a walk of it comes across. -/
theorem visits_of_unlisted {path : List FileName} {node : FileNode} (h : listDirectory? path node = none) :
    node.ordered.visits path = [.unlistable (.ofNames path)] := by
  cases node with
  | file | link | special => rfl
  | directory stat listable children =>
    cases listable with
    | true => cases h
    | false =>
      rw [FileNode.ordered, FileNode.visits]
      intro _ _ heq
      cases heq

/-- **A walk of a directory** comes across its files, and then all that is in its subdirectories. -/
theorem visits_of_listed {path : List FileName} {node : FileNode} {entries : List WalkEntry}
    (h : listDirectory? path node = some entries) :
    node.ordered.visits path = entryVisits entries ++ pendingVisits (descents entries) := by
  unfold listDirectory? at h
  split at h
  case h_2 => cases h
  case h_1 stat children =>
    cases h
    rw [FileNode.ordered_directory, FileNode.visits, fileVisits_ordered]
    congr 1
    · -- the files
      unfold fileVisits entryVisits
      rw [List.filterMap_map]
      generalize inNameOrder children = sorted
      induction sorted with
      | nil => rfl
      | cons child rest ih =>
        obtain ⟨name, node⟩ := child
        cases node with
        | file data => exact congrArg (Visit.file (data.info (path ++ [name])) :: ·) ih
        | link | special | directory => exact ih
    · -- the subdirectories
      generalize inNameOrder children = sorted
      induction sorted with
      | nil => rfl
      | cons child rest ih =>
        obtain ⟨name, node⟩ := child
        rw [List.map_cons, childVisits, FileNode.isDirectory_ordered, ih]
        cases node with
        | directory stat listable children => rfl
        | file | link | special => rfl

/-- The files of a directory are scanned before what comes then. -/
theorem visitItems_entries (store : Store) (summary : ScanSummary) (entries : List WalkEntry) (rest : List Visit) :
    visitItems d files active force store summary (entryVisits entries ++ rest) =
      (entryItems d files active force store summary entries).items ++
        visitItems d files active force (entryItems d files active force store summary entries).store
          (entryItems d files active force store summary entries).summary rest := by
  induction entries generalizing store summary with
  | nil => rfl
  | cons entry entries ih =>
    cases entry with
    | skip => exact ih store summary
    | descend path node => exact ih store summary
    | file file =>
      have hvisits : entryVisits (.file file :: entries) ++ rest = .file file :: (entryVisits entries ++ rest) := rfl
      rw [hvisits, visitItems, entryItems]
      dsimp only
      rw [ih]
      rfl

/-- **Pending directories** are walked one after the other, each in the order of names. -/
theorem walkItems_eq_visitItems (store : Store) (summary : ScanSummary) (pending : List (List FileName × FileNode)) :
    walkItems d files active force store summary pending =
      visitItems d files active force store summary (pendingVisits pending) := by
  fun_induction walkItems d files active force store summary pending with
  | case1 store summary => rfl
  | case2 store summary path node pending hnone ih =>
    have hvisits : pendingVisits ((path, node) :: pending) =
        .unlistable (.ofNames path) :: pendingVisits pending := by
      rw [pendingVisits, List.flatMap_cons, visits_of_unlisted hnone]
      rfl
    rw [ih, hvisits, visitItems]
  | case3 store summary path node pending entries hsome progress ih =>
    have hvisits : pendingVisits ((path, node) :: pending) =
        entryVisits entries ++ pendingVisits (descents entries ++ pending) := by
      rw [pendingVisits, List.flatMap_cons, visits_of_listed hsome, pendingVisits, pendingVisits, List.flatMap_append,
        List.append_assoc]
    rw [ih, hvisits, visitItems_entries]

/-- **A scan walks the directory** to which a path leads, in the order of names. -/
theorem scan_eq_visitItems {path : FilePath} {place : List FileName} (hplace : files.locate? false path = some place)
    (registry : Registry) (store : Store) :
    scan d files registry force store path =
      ⟨.ok .started, store, []⟩ ::
        withCallsBefore (registry.values.map fun r => .start r.backend.name)
          (visitItems d files registry.active force store .empty
            (((files.root.at? place).map fun node => node.ordered.visits place).getD [])) := by
  have hvisits : pendingVisits ((files.root.at? place).map fun node => (place, node)).toList =
      ((files.root.at? place).map fun node => node.ordered.visits place).getD [] := by
    cases files.root.at? place with
    | none => rfl
    | some node => exact List.append_nil _
  unfold scan
  rw [hplace, ← hvisits, ← walkItems_eq_visitItems, ← registry.filter_starts]

/-! ## Events -/

/-- Calls that are made before the first item change no event. -/
theorem map_event_withCallsBefore (calls : List BackendCall) (items : List ScanItem) :
    (withCallsBefore calls items).map (·.event) = items.map (·.event) := by
  cases items with
  | nil => rfl
  | cons item rest => rfl

/-- What became of a file that was discovered: it was scanned, skipped, or could not be scanned. -/
def ScanEvent.Settles : ScanEvent → FilePath → Prop
  | scanned s, path => s.file.path = path
  | skipped path', path => path' = path
  | failed path' _, path => path' = path
  | _, _ => False

/-- A file that was discovered is settled by the event after it, and what settles a file is the event after
its discovery. -/
structure Settled (events : List (Except Failure ScanEvent)) : Prop where
  next : ∀ (i : Nat) path, events[i]? = some (.ok (.discovered path)) →
    ∃ outcome, events[i + 1]? = some (.ok outcome) ∧ outcome.Settles path
  before : ∀ (i : Nat) (outcome : ScanEvent) path, events[i]? = some (.ok outcome) → outcome.Settles path →
    ∃ j, i = j + 1 ∧ events[j]? = some (.ok (.discovered path))

/-- An event settles one file at most. -/
theorem ScanEvent.Settles.unique {outcome : ScanEvent} {path path' : FilePath} (h : outcome.Settles path)
    (h' : outcome.Settles path') : path = path' := by
  cases outcome with
  | scanned | skipped | failed => exact Eq.trans (Eq.symm h) h'
  | started | discovered | complete => exact h.elim

namespace Settled

variable {events : List (Except Failure ScanEvent)}

/-- No event settles anything. -/
theorem nil : Settled [] where
  next i path h := by simp at h
  before i outcome path h := by simp at h

/-- An event that is about no file may come first. -/
theorem cons {event : Except Failure ScanEvent} (h : Settled events) (hdiscovered : ∀ path, event ≠ .ok (.discovered path))
    (hsettles : ∀ outcome path, event = .ok outcome → ¬outcome.Settles path) : Settled (event :: events) where
  next i path hi := by
    cases i with
    | zero => exact absurd (Option.some.inj hi) (hdiscovered path)
    | succ i => exact h.next i path hi
  before i outcome path hi houtcome := by
    cases i with
    | zero => exact absurd houtcome (hsettles outcome path (Option.some.inj hi))
    | succ i =>
      obtain ⟨j, rfl, hj⟩ := h.before i outcome path hi houtcome
      exact ⟨j + 1, rfl, hj⟩

/-- The start and the end of a scan may come first. -/
theorem cons_ok {event : ScanEvent} (h : Settled events) (hdiscovered : ∀ path, event ≠ .discovered path)
    (hsettles : ∀ path, ¬event.Settles path) : Settled (.ok event :: events) := by
  refine h.cons (fun path heq => hdiscovered path (Except.ok.inj heq)) ?_
  intro outcome path heq
  rw [← Except.ok.inj heq]
  exact hsettles path

/-- **A file that is discovered and settled** may come first. -/
theorem file {path : FilePath} {outcome : ScanEvent} (h : Settled events) (hsettles : outcome.Settles path) :
    Settled (.ok (.discovered path) :: .ok outcome :: events) where
  next i path' hi := by
    cases i with
    | zero =>
      cases hi
      exact ⟨outcome, rfl, hsettles⟩
    | succ i =>
      cases i with
      | zero =>
        -- the outcome is no discovery
        cases hi
        exact hsettles.elim
      | succ i => exact h.next i path' hi
  before i outcome' path' hi houtcome' := by
    cases i with
    | zero =>
      cases hi
      exact houtcome'.elim
    | succ i =>
      cases i with
      | zero =>
        cases hi
        rw [houtcome'.unique hsettles]
        exact ⟨0, rfl, rfl⟩
      | succ i =>
        obtain ⟨j, rfl, hj⟩ := h.before i outcome' path' hi houtcome'
        exact ⟨j + 2, rfl, hj⟩

end Settled

/-- A file that was processed is the one that was to be. -/
theorem file_of_processFile {backends : List Backend} {store : Store} {file : FileInfo} {scanned : ScannedFile}
    (h : (processFile d files backends store file).result = .ok scanned) : scanned.file = file := by
  unfold processFile at h
  cases hcontent : files.contentId d file.path with
  | error cause =>
    rw [hcontent] at h
    cases h
  | ok contentId =>
    rw [hcontent] at h
    dsimp only at h
    split at h
    · cases h
    · split at h
      · cases h
      · split at h
        · cases h
        · cases h
          rfl

/-- A file that was scanned is the one that was to be. -/
theorem file_of_scanFile {backends : List Backend} {store : Store} {file : FileInfo} {scanned : ScannedFile}
    (h : (scanFile d files backends store force file).result = .ok scanned) : scanned.file = file := by
  have hmap {result : Except Failure ScannedFile} (hresult : result.mapError (Failure.above .scan) = .ok scanned) :
      result = .ok scanned := by
    cases result with
    | error failure => cases hresult
    | ok scanned' =>
      cases hresult
      rfl
  have houtcome := hmap h
  dsimp only at houtcome
  split at houtcome
  · cases houtcome
  · split at houtcome
    · cases houtcome
      rfl
    · exact file_of_processFile houtcome

/-- **What becomes of a file** settles it. -/
theorem settles_fileItem (store : Store) (file : FileInfo) :
    (fileItem d files active force store file).1.Settles file.path := by
  unfold fileItem
  dsimp only
  split
  · exact rfl
  · split
    case h_1 scanned hresult => exact congrArg FileInfo.path (file_of_scanFile hresult)
    case h_2 => exact rfl

/-! ## Totals -/

namespace ScanSummary

/-- Totals with those of more events. -/
def tally (s : ScanSummary) (events : List (Except Failure ScanEvent)) : ScanSummary :=
  events.foldl (fun s event => match event with | .ok event => s.count event | .error _ => s) s

/-- Every file that was discovered is counted once more. -/
def Balanced (s : ScanSummary) : Prop := s.discovered = s.processed + s.cached + s.skipped + s.failed

/-- A file that is discovered and settled keeps the balance. -/
theorem Balanced.file {s : ScanSummary} (h : s.Balanced) {path : FilePath} {outcome : ScanEvent}
    (hsettles : outcome.Settles path) : ((s.count (.discovered path)).count outcome).Balanced := by
  unfold Balanced at h ⊢
  cases outcome with
  | scanned scanned =>
    obtain ⟨file, entry, effort⟩ := scanned
    cases effort <;> simp only [count] <;> omega
  | skipped | failed => simp only [count]; omega
  | started | discovered | complete => exact hsettles.elim

end ScanSummary

/-- Whether a file was discovered. -/
def isDiscovered : Except Failure ScanEvent → Bool
  | .ok (.discovered _) => true
  | _ => false

/-- Whether a file was scanned with some effort. -/
def isScanned (effort : ScanEffort) : Except Failure ScanEvent → Bool
  | .ok (.scanned s) => s.effort == effort
  | _ => false

/-- Whether a file was skipped. -/
def isSkipped : Except Failure ScanEvent → Bool
  | .ok (.skipped _) => true
  | _ => false

/-- Whether a file could not be scanned. -/
def isFailed : Except Failure ScanEvent → Bool
  | .ok (.failed _ _) => true
  | _ => false

/-- The totals count the events of each kind. -/
structure ScanSummary.Counts (s : ScanSummary) (events : List (Except Failure ScanEvent)) : Prop where
  discovered : s.discovered = events.countP isDiscovered
  processed : s.processed = events.countP (isScanned .processed)
  cached : s.cached = events.countP (isScanned .cached)
  skipped : s.skipped = events.countP isSkipped
  failed : s.failed = events.countP isFailed

/-- **One more event** is counted by its kind. -/
theorem ScanSummary.Counts.concat {s : ScanSummary} {events : List (Except Failure ScanEvent)} (h : s.Counts events)
    (event : Except Failure ScanEvent) : (s.tally [event]).Counts (events ++ [event]) := by
  obtain ⟨hdiscovered, hprocessed, hcached, hskipped, hfailed⟩ := h
  refine ⟨?_, ?_, ?_, ?_, ?_⟩ <;> rw [List.countP_append, List.countP_singleton]
  all_goals
    cases event with
    | error failure => simpa [ScanSummary.tally, isDiscovered, isScanned, isSkipped, isFailed]
    | ok event =>
      cases event with
      | scanned scanned =>
        obtain ⟨file, entry, effort⟩ := scanned
        cases effort <;>
          simpa [ScanSummary.tally, ScanSummary.count, isDiscovered, isScanned, isSkipped, isFailed]
      | started | discovered | skipped | failed | complete =>
        simpa [ScanSummary.tally, ScanSummary.count, isDiscovered, isScanned, isSkipped, isFailed]

/-- Totals that start at nothing count the events. -/
theorem ScanSummary.counts_tally (events : List (Except Failure ScanEvent)) :
    (ScanSummary.empty.tally events).Counts events := by
  induction events using List.reverseRecOn with
  | nil => exact ⟨rfl, rfl, rfl, rfl, rfl⟩
  | append_singleton events event ih =>
    have htally : ScanSummary.empty.tally (events ++ [event]) = (ScanSummary.empty.tally events).tally [event] := by
      unfold tally
      rw [List.foldl_append]
    rw [htally]
    exact ih.concat event

/-! ## The events of a walk -/

/-- The events for what a walk comes across. -/
def visitEvents (d : Digests) (files : FileTree) (active : List Registered) (force : Bool) (store : Store)
    (summary : ScanSummary) (visits : List Visit) : List (Except Failure ScanEvent) :=
  (visitItems d files active force store summary visits).map (·.event)

section visitEvents

variable (d files active force)

/-- A file comes with its discovery and with what became of it. -/
theorem visitEvents_file (store : Store) (summary : ScanSummary) (file : FileInfo) (rest : List Visit) :
    ∃ outcome after, outcome.Settles file.path ∧
      visitEvents d files active force store summary (.file file :: rest) =
        .ok (.discovered file.path) :: .ok outcome ::
          visitEvents d files active force after ((summary.count (.discovered file.path)).count outcome) rest :=
  ⟨_, _, settles_fileItem store file, rfl⟩

/-- **Each file of a walk** is settled after its discovery. -/
theorem settled_visitEvents (store : Store) (summary : ScanSummary) (visits : List Visit) :
    Settled (visitEvents d files active force store summary visits) := by
  induction visits generalizing store summary with
  | nil => exact Settled.nil.cons_ok (fun _ => nofun) fun _ => id
  | cons visit rest ih =>
    cases visit with
    | unlistable path => exact (ih store summary).cons (fun _ => nofun) (fun _ _ => nofun)
    | file file =>
      obtain ⟨outcome, after, hsettles, hevents⟩ :=
        visitEvents_file d files active force store summary file rest
      rw [hevents]
      exact (ih after _).file hsettles

/-- The file that was discovered. -/
def discoveredPath? : Except Failure ScanEvent → Option FilePath
  | .ok (.discovered path) => some path
  | _ => none

/-- **A walk discovers** the files that it comes across. -/
theorem discovered_visitEvents (store : Store) (summary : ScanSummary) (visits : List Visit) :
    (visitEvents d files active force store summary visits).filterMap discoveredPath? =
      (visits.filterMap Visit.file?).map (·.path) := by
  induction visits generalizing store summary with
  | nil => rfl
  | cons visit rest ih =>
    cases visit with
    | unlistable path => exact ih store summary
    | file file =>
      obtain ⟨outcome, after, hsettles, hevents⟩ :=
        visitEvents_file d files active force store summary file rest
      have houtcome : discoveredPath? (.ok outcome) = none := by
        cases outcome with
        | discovered path => exact hsettles.elim
        | started | scanned | skipped | failed | complete => rfl
      rw [hevents, List.filterMap_cons, List.filterMap_cons_none houtcome, ih]
      rfl

/-- **A walk ends with its totals**, in balance. -/
theorem visitItems_complete (store : Store) (summary : ScanSummary) (visits : List Visit) :
    (visitEvents d files active force store summary visits).getLast? =
        some (.ok (.complete (summary.tally (visitEvents d files active force store summary visits)))) ∧
      (summary.Balanced → (summary.tally (visitEvents d files active force store summary visits)).Balanced) := by
  induction visits generalizing store summary with
  | nil => exact ⟨rfl, id⟩
  | cons visit rest ih =>
    cases visit with
    | unlistable path =>
      obtain ⟨hlast, hbalanced⟩ := ih store summary
      have hevents : visitEvents d files active force store summary (.unlistable path :: rest) =
          .error (.above .scan (.of (.walk path))) :: visitEvents d files active force store summary rest := rfl
      rw [hevents]
      exact ⟨by rw [List.getLast?_cons, hlast]; rfl, hbalanced⟩
    | file file =>
      obtain ⟨outcome, after, hsettles, hevents⟩ :=
        visitEvents_file d files active force store summary file rest
      obtain ⟨hlast, hbalanced⟩ := ih after ((summary.count (.discovered file.path)).count outcome)
      rw [hevents]
      exact ⟨by rw [List.getLast?_cons, List.getLast?_cons, hlast]; rfl, fun h => hbalanced (h.file hsettles)⟩

end visitEvents

/-! ## Scans -/

/-- Below a directory, files that have the same path are reached by the same names. -/
theorem FileNode.Reaches.eq_of_path {root : FileNode} {names names' place : List FileName} {data data' : FileData}
    (h : root.Reaches names data) (hwell : root.WellFormed) (hroot : root.isDirectory = true) (hplace : SlashFree place)
    (h' : root.Reaches names' data') (hsame : FilePath.ofNames (place ++ names) = .ofNames (place ++ names')) :
    names = names' := by
  apply List.append_cancel_left
  exact FilePath.ofNames_inj (hplace.append (hwell.at? h.file).2) (hplace.append (hwell.at? h'.file).2)
    (List.append_ne_nil_of_right_ne_nil place (h.ne_nil hroot))
    (List.append_ne_nil_of_right_ne_nil place (h'.ne_nil hroot)) hsame

/-- Events account for the files below a directory: just those that are reached are discovered, in the order
of walks and none of them twice, each is settled, and the totals at the end are in balance and count the
events of each kind. -/
structure AccountsFor (place : List FileName) (root : FileNode) (events : List (Except Failure ScanEvent)) : Prop where
  discovered : ∃ found : List (List FileName),
    events.filterMap discoveredPath? = found.map (fun names => .ofNames (place ++ names)) ∧
      (∀ names, names ∈ found ↔ ∃ data, root.Reaches names data) ∧ found.Pairwise WalksBefore
  once : (events.filterMap discoveredPath?).Nodup
  settled : Settled events
  complete : ∃ totals : ScanSummary, events.getLast? = some (.ok (.complete totals)) ∧
    totals.discovered = totals.processed + totals.cached + totals.skipped + totals.failed ∧ totals.Counts events

/-- **A scan of a listable directory accounts for its files**, whatever the registry, the store and the failures
of files, directories and backends. -/
theorem scan_accounts_for_files {path : FilePath} {place : List FileName} {stat : FileStat}
    {children : List (FileName × FileNode)} (hplace : files.locate? false path = some place)
    (hroot : files.root.at? place = some (.directory stat true children)) (hfiles : files.root.WellFormed)
    (registry : Registry) (store : Store) :
    AccountsFor place (.directory stat true children) ((scan d files registry force store path).map (·.event)) := by
  obtain ⟨hwell, hslash⟩ := hfiles.at? hroot
  obtain ⟨found, hfound⟩ := hwell.walks rfl place
  have hevents : (scan d files registry force store path).map (·.event) = .ok .started ::
      visitEvents d files registry.active force store .empty
        ((FileNode.directory stat true children).ordered.visits place) := by
    rw [scan_eq_visitItems hplace, List.map_cons, map_event_withCallsBefore, hroot]
    rfl
  rw [hevents]
  generalize registry.active = active
  have hdiscovered : (.ok .started :: visitEvents d files active force store .empty
      ((FileNode.directory stat true children).ordered.visits place)).filterMap discoveredPath? =
        (found.map Prod.fst).map fun names => .ofNames (place ++ names) := by
    rw [List.filterMap_cons_none rfl, discovered_visitEvents, hfound.files, List.map_map, List.map_map]
    rfl
  have hordered : (found.map Prod.fst).Pairwise WalksBefore := List.pairwise_map.mpr hfound.inOrder
  have hreached : ∀ names, names ∈ found.map Prod.fst ↔ ∃ data, (FileNode.directory stat true children).Reaches names data := by
    intro names
    rw [List.mem_map]
    constructor
    · rintro ⟨f, hf, rfl⟩
      exact ⟨f.2, (hfound.reached f.1 f.2).mp hf⟩
    · rintro ⟨data, hdata⟩
      exact ⟨(names, data), (hfound.reached names data).mpr hdata, rfl⟩
  refine ⟨⟨_, hdiscovered, hreached, hordered⟩, ?_, ?_, ?_⟩
  · -- different names lead to different paths
    rw [hdiscovered, List.Nodup, List.pairwise_map]
    apply hordered.imp_of_mem
    intro names names' hnames hnames' hbefore hsame
    obtain ⟨data, hdata⟩ := (hreached names).mp hnames
    obtain ⟨data', hdata'⟩ := (hreached names').mp hnames'
    rw [hdata.eq_of_path hwell rfl hslash hdata' hsame] at hbefore
    exact not_walksBefore_self names' hbefore
  · exact (settled_visitEvents d files active force store .empty _).cons_ok (fun _ => nofun) fun _ => id
  · obtain ⟨hlast, hbalanced⟩ := visitItems_complete d files active force store
      .empty ((FileNode.directory stat true children).ordered.visits place)
    exact ⟨_, by rw [List.getLast?_cons, hlast]; rfl, hbalanced rfl, ScanSummary.counts_tally (.ok .started :: _)⟩

/-- A directory with a file, a subdirectory with another one whose name is no text, a link to it, and one that
cannot be listed. -/
def nestedFiles : FileTree where
  root := .directory ⟨4096, 0⟩ true [(.ofText "b.mkv", .file ⟨1, ⟨#[1]⟩, true, 0⟩),
    (.ofText "season", .directory ⟨4096, 0⟩ true [([255], .file ⟨2, ⟨#[2]⟩, true, 0⟩)]), (.ofText "again", .link "season"),
    (.ofText "locked", .directory ⟨4096, 0⟩ false [])]
  here := []
  next := 3
  directorySize := 4096

/-- Both files of the directory are accounted for. -/
theorem scan_accounts_for_nested_files :
    nestedFiles.locate? false "/" = some [] ∧
      nestedFiles.root.at? [] = some (.directory ⟨4096, 0⟩ true nestedFiles.root.children) ∧
      nestedFiles.root.WellFormed ∧
      AccountsFor [] (.directory ⟨4096, 0⟩ true nestedFiles.root.children)
        ((scan .standard nestedFiles Dict.empty false (.ofTable .empty) "/").map (·.event)) := by
  have hplace : nestedFiles.locate? false "/" = some [] := FileTree.locate?_slash rfl
  have hfiles : nestedFiles.root.WellFormed := by
    have hseason : FileNode.WellFormed (.directory ⟨4096, 0⟩ true [([255], .file ⟨2, ⟨#[2]⟩, true, 0⟩)]) := by
      refine .directory _ true _ (List.pairwise_singleton _ _) ?_ ?_
      · unfold SlashFree
        decide +kernel
      · intro child hchild
        cases List.mem_singleton.mp hchild
        exact .file _
    refine .directory _ true _ (by decide +kernel) ?_ ?_
    · unfold SlashFree
      decide +kernel
    · intro child hchild
      simp only [List.mem_cons, List.not_mem_nil, or_false] at hchild
      rcases hchild with rfl | rfl | rfl | rfl
      · exact .file _
      · exact hseason
      · exact .link _
      · have hempty {P : FileName × FileNode → Prop} : ∀ child ∈ ([] : List (FileName × FileNode)), P child :=
          fun _ hchild => absurd hchild List.not_mem_nil
        exact .directory _ false [] List.nodup_nil (fun _ hname => absurd hname List.not_mem_nil) hempty
  exact ⟨hplace, rfl, hfiles, scan_accounts_for_files hplace rfl hfiles Dict.empty (.ofTable .empty)⟩

end MediaCatalog
