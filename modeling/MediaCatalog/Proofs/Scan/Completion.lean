import MediaCatalog.Proofs.Files.Write
import MediaCatalog.Proofs.Scan.Atomicity
import MediaCatalog.Proofs.Scan.Walk

/-!
# Where a scan ends

The totals of a scan are its last item, whatever fails on the way. A scan breaks off only if its root leads
nowhere; a root that is there but cannot be listed is passed over like any other directory, and totals come
after it.

* `FileTree.CanList`: a path leads to a directory that can be listed.
* `BreaksOff`, `RunsToTotals`: the two ways in which the events of a scan end; no events end in both
  (`RunsToTotals.not_breaksOff`).
* `ReportsRoot`: totals come exactly if the root can be listed.
* `visitEvents_ends`: the totals are the last event of a walk, and come once.
* **Main result** (`scan_runsToTotals_iff`): a scan runs to its totals exactly if its root leads somewhere, and
  its root is reported exactly if it leads nowhere or can be listed.
-/

namespace MediaCatalog

/-! ## Roots -/

namespace FileTree

/-- A path leads to a directory that can be listed. -/
def CanList (t : FileTree) (path : FilePath) : Prop :=
  ∃ stat children, t.node? path = some (.directory stat true children)

/-- A path that leads somewhere leads to a node. -/
theorem exists_node_of_locate {t : FileTree} {path : FilePath} {place : List FileName}
    (h : t.locate? false path = some place) : ∃ node, t.root.at? place = some node := by
  unfold locate? lookUp at h
  split at h
  case isTrue => cases h
  case isFalse =>
    cases hfollow : follow t.root false maxLinks (t.start path) path.steps with
    | error astray =>
      rw [hfollow] at h
      cases h
    | ok place' =>
      rw [hfollow] at h
      cases h
      exact at?_of_follow hfollow

/-- A path leads to a directory that can be listed exactly if the node at its place is one. -/
theorem canList_iff {t : FileTree} {path : FilePath} {place : List FileName} (h : t.locate? false path = some place) :
    t.CanList path ↔ ∃ stat children, t.root.at? place = some (.directory stat true children) := by
  unfold CanList node?
  rw [h]
  rfl

/-- A path that leads nowhere leads to no directory. -/
theorem not_canList_of_locate {t : FileTree} {path : FilePath} (h : t.locate? false path = none) : ¬t.CanList path := by
  rintro ⟨stat, children, hnode⟩
  rw [node?, h] at hnode
  cases hnode

end FileTree

/-- Whatever is no directory that can be listed cannot be listed. -/
theorem listDirectory?_eq_none {path : List FileName} {node : FileNode}
    (h : ∀ stat children, node ≠ .directory stat true children) : listDirectory? path node = none := by
  unfold listDirectory?
  split
  case h_1 stat children => exact absurd rfl (h stat children)
  case h_2 => rfl

/-! ## Ends -/

/-- What happens on the way: neither the start of a scan nor its totals. -/
def isOnTheWay : Except Failure ScanEvent → Bool
  | .ok .started => false
  | .ok (.complete _) => false
  | _ => true

/-- Events that break off at the root: the start, and one error. -/
def BreaksOff (events : List (Except Failure ScanEvent)) : Prop := ∃ failure, events = [.ok .started, .error failure]

/-- Events that run to the totals: the start is the first of them, the totals are the last, and neither comes
again. -/
def RunsToTotals (events : List (Except Failure ScanEvent)) : Prop :=
  ∃ between totals, events = .ok .started :: (between ++ [.ok (.complete totals)]) ∧
    ∀ event ∈ between, isOnTheWay event = true

/-- Events tell whether the root of a scan could be read: they run to the totals if it can be listed, and
break off if it cannot. -/
def ReportsRoot (files : FileTree) (path : FilePath) (events : List (Except Failure ScanEvent)) : Prop :=
  (files.CanList path → RunsToTotals events) ∧ (¬files.CanList path → BreaksOff events)

/-- Events that run to the totals do not break off. -/
theorem RunsToTotals.not_breaksOff {events : List (Except Failure ScanEvent)} (h : RunsToTotals events) :
    ¬BreaksOff events := by
  obtain ⟨between, totals, rfl, -⟩ := h
  rintro ⟨failure, heq⟩
  have hlast := congrArg List.getLast? heq
  rw [List.getLast?_cons, List.getLast?_concat] at hlast
  cases hlast

/-- What settles a file happens on the way. -/
theorem ScanEvent.Settles.isOnTheWay {outcome : ScanEvent} {path : FilePath} (h : outcome.Settles path) :
    isOnTheWay (.ok outcome) = true := by
  cases outcome with
  | scanned | skipped | failed => rfl
  | started | discovered | complete => exact h.elim

/-- **The totals of a walk** are its last event, and come once; files and directories that fail come before. -/
theorem visitEvents_ends (d : Digests) (files : FileTree) (active : List Registered) (force : Bool) (store : Store)
    (summary : ScanSummary) (visits : List Visit) :
    ∃ between totals, visitEvents d files active force store summary visits = between ++ [.ok (.complete totals)] ∧
      ∀ event ∈ between, isOnTheWay event = true := by
  induction visits generalizing store summary with
  | nil => exact ⟨[], summary, rfl, nofun⟩
  | cons visit rest ih =>
    cases visit with
    | unlistable path =>
      obtain ⟨between, totals, hevents, hbetween⟩ := ih store summary
      refine ⟨.error (.above .scan (.of (.walk path))) :: between, totals, ?_, ?_⟩
      · rw [List.cons_append, ← hevents]
        rfl
      · exact List.forall_mem_cons.mpr ⟨rfl, hbetween⟩
    | file file =>
      obtain ⟨outcome, after, hsettles, hfile⟩ := visitEvents_file d files active force store summary file rest
      obtain ⟨between, totals, hevents, hbetween⟩ := ih after ((summary.count (.discovered file.path)).count outcome)
      refine ⟨.ok (.discovered file.path) :: .ok outcome :: between, totals, ?_, ?_⟩
      · rw [hfile, hevents]
        rfl
      · exact List.forall_mem_cons.mpr ⟨rfl, List.forall_mem_cons.mpr ⟨hsettles.isOnTheWay, hbetween⟩⟩

/-! ## Scans -/

/-- The events of a scan. -/
def scanEvents (d : Digests) (files : FileTree) (registry : Registry) (force : Bool) (store : Store)
    (path : FilePath) : List (Except Failure ScanEvent) :=
  (scan d files registry force store path).map (·.event)

section scanEvents

variable {d : Digests} {files : FileTree} {force : Bool} {path : FilePath} {place : List FileName} (registry : Registry)
  (store : Store)

/-- A root that leads nowhere is all that a scan reports. -/
theorem scanEvents_of_none (h : files.locate? false path = none) :
    scanEvents d files registry force store path = [.ok .started, .error (.above .scan (.of (.walk path)))] := by
  unfold scanEvents scan
  rw [h]
  rfl

/-- A scan of a root that leads somewhere goes on as a walk. -/
theorem scanEvents_of_some (h : files.locate? false path = some place) :
    scanEvents d files registry force store path = .ok .started ::
      visitEvents d files registry.active force store .empty
        (((files.root.at? place).map fun node => node.ordered.visits place).getD []) := by
  unfold scanEvents
  rw [scan_eq_visitItems h, List.map_cons, map_event_withCallsBefore]
  rfl

/-- **A root that leads somewhere** is scanned to the totals. -/
theorem runsToTotals_of_some (h : files.locate? false path = some place) :
    RunsToTotals (scanEvents d files registry force store path) := by
  rw [scanEvents_of_some registry store h]
  obtain ⟨between, totals, hevents, hbetween⟩ := visitEvents_ends d files registry.active
    force store .empty (((files.root.at? place).map fun node => node.ordered.visits place).getD [])
  exact ⟨between, totals, congrArg (.ok .started :: ·) hevents, hbetween⟩

/-- **A root that cannot be listed** is one error, and the scan goes on to the totals all the same. -/
theorem scanEvents_of_not_canList (h : files.locate? false path = some place) (hroot : ¬files.CanList path) :
    scanEvents d files registry force store path =
      [.ok .started, .error (.above .scan (.of (.walk (.ofNames place)))), .ok (.complete .empty)] := by
  obtain ⟨node, hnode⟩ := FileTree.exists_node_of_locate h
  have hunlisted : listDirectory? place node = none := by
    apply listDirectory?_eq_none
    rintro stat children rfl
    exact hroot ((FileTree.canList_iff h).mpr ⟨stat, children, hnode⟩)
  rw [scanEvents_of_some registry store h, hnode, Option.map_some, Option.getD_some, visits_of_unlisted hunlisted]
  rfl

/-- **Where a scan ends.** It runs to its totals exactly if its root leads somewhere, whatever other directories or
files fail, and breaks off exactly if the root leads nowhere. A root that leads somewhere but cannot be listed is
one error, with the totals after it. So a scan reports its root exactly if it leads nowhere or can be listed. -/
theorem scan_runsToTotals_iff (d : Digests) (files : FileTree) (registry : Registry) (force : Bool) (store : Store)
    (path : FilePath) :
    (RunsToTotals (scanEvents d files registry force store path) ↔ ∃ place, files.locate? false path = some place) ∧
      (BreaksOff (scanEvents d files registry force store path) ↔ files.locate? false path = none) ∧
      (∀ place, files.locate? false path = some place → ¬files.CanList path →
        scanEvents d files registry force store path =
          [.ok .started, .error (.above .scan (.of (.walk (.ofNames place)))), .ok (.complete .empty)]) ∧
      (ReportsRoot files path (scanEvents d files registry force store path) ↔
        files.locate? false path = none ∨ files.CanList path) := by
  cases hplace : files.locate? false path with
  | none =>
    have hbreaks : BreaksOff (scanEvents d files registry force store path) :=
      ⟨_, scanEvents_of_none registry store hplace⟩
    have hroot : ¬files.CanList path := FileTree.not_canList_of_locate hplace
    refine ⟨?_, ?_, nofun, ?_⟩
    · exact ⟨fun h => absurd hbreaks h.not_breaksOff, nofun⟩
    · exact ⟨fun _ => rfl, fun _ => hbreaks⟩
    · exact ⟨fun _ => .inl rfl, fun _ => ⟨fun h => absurd h hroot, fun _ => hbreaks⟩⟩
  | some place =>
    have hruns : RunsToTotals (scanEvents d files registry force store path) :=
      runsToTotals_of_some registry store hplace
    refine ⟨?_, ?_, ?_, ?_⟩
    · exact ⟨fun _ => ⟨place, rfl⟩, fun _ => hruns⟩
    · exact ⟨fun h => absurd h hruns.not_breaksOff, nofun⟩
    · intro place' heq hroot
      cases heq
      exact scanEvents_of_not_canList registry store hplace hroot
    · constructor
      · intro hreports
        refine .inr (Classical.byContradiction fun hroot => ?_)
        exact hruns.not_breaksOff (hreports.2 hroot)
      · rintro (hnone | hroot)
        · cases hnone
        · exact ⟨fun _ => hruns, fun h => absurd hroot h⟩

end scanEvents

/-- A registry with the release backend. -/
def releaseRegistry : Registry := Dict.empty.insert Release.backend.name ⟨Release.backend, []⟩

/-- A path leads to a file. -/
theorem locate?_pilot : pilotFiles.locate? false "/pilot.mkv" = some [.ofText "pilot.mkv"] :=
  (FileTree.locate?_onlyFile (by decide +kernel) (by decide +kernel) _ _).trans (if_pos rfl)

/-- A file is no directory that can be listed. -/
theorem not_canList_pilot : ¬pilotFiles.CanList "/pilot.mkv" := by
  rw [FileTree.canList_iff locate?_pilot]
  rintro ⟨stat, children, hnode⟩
  simp [pilotFiles, FileTree.onlyFile, FileNode.at?, FileNode.children, Pairs.get?] at hnode

/-- A file as root is one error, and totals come after it. -/
theorem scan_runsToTotals_of_file :
    pilotFiles.locate? false "/pilot.mkv" = some [.ofText "pilot.mkv"] ∧ ¬pilotFiles.CanList "/pilot.mkv" ∧
      scanEvents .standard pilotFiles releaseRegistry false (.ofTable .empty) "/pilot.mkv" =
        [.ok .started, .error (.above .scan (.of (.walk "/pilot.mkv"))), .ok (.complete .empty)] := by
  have hpath : FilePath.ofNames [.ofText "pilot.mkv"] = "/pilot.mkv" := by decide +kernel
  refine ⟨locate?_pilot, not_canList_pilot, ?_⟩
  have hevents := (scan_runsToTotals_iff .standard pilotFiles releaseRegistry false (.ofTable .empty) "/pilot.mkv").2.2.1 _
    locate?_pilot not_canList_pilot
  rwa [hpath] at hevents

/-- **A file as root is not reported**: it cannot be listed, and the scan does not break off. -/
theorem not_reportsRoot_of_file :
    ¬ReportsRoot pilotFiles "/pilot.mkv"
      (scanEvents .standard pilotFiles releaseRegistry false (.ofTable .empty) "/pilot.mkv") := by
  intro h
  exact (runsToTotals_of_some releaseRegistry (.ofTable .empty) locate?_pilot).not_breaksOff (h.2 not_canList_pilot)

end MediaCatalog
