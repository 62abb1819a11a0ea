import MediaCatalog.Proofs.Scan.Turns

/-!
# The calls of a scan

In a scan every backend is started first, in the order of names. Then one file after the other has its turn, in which
those that could be started may be asked about it, and at the end these are stopped.

* `outcomes`: the items of a scan in which files have their turns.
* `calls_visitItems`, `turns_visitItems`: the calls of a walk are those of the turns of its files, and the stops.
* `Lifecycle`: what calls each backend receives in a scan.
* **Main result** (`scan_lifecycle`): how a scan calls backends, unless its root leads nowhere.
-/

namespace MediaCatalog

variable (d : Digests) (files : FileTree) {registry : Registry} {store : Store}

/-! ## Walks -/

/-- Whether a file was settled. -/
def isOutcome : Except Failure ScanEvent → Bool
  | .ok (.scanned _) | .ok (.skipped _) | .ok (.failed _ _) => true
  | _ => false

/-- The items that settle files. -/
def outcomes (items : List ScanItem) : List ScanItem := items.filter fun item => isOutcome item.event

/-- One item more may be an outcome. -/
theorem outcomes_cons (item : ScanItem) (items : List ScanItem) :
    outcomes (item :: items) = if isOutcome item.event then item :: outcomes items else outcomes items :=
  List.filter_cons

/-- What settles a file is an outcome. -/
theorem ScanEvent.Settles.isOutcome {outcome : ScanEvent} {path : FilePath} (h : outcome.Settles path) :
    isOutcome (.ok outcome) = true := by
  cases outcome with
  | scanned | skipped | failed => rfl
  | started | discovered | complete => exact h.elim

/-- A file is discovered, and then settled. -/
theorem visitItems_file (active : List Registered) (force : Bool) (store : Store) (summary : ScanSummary)
    (file : FileInfo) (rest : List Visit) :
    ∃ summary', visitItems d files active force store summary (.file file :: rest) =
      ⟨.ok (.discovered file.path), store, []⟩ :: outcomeItem d files active force store file ::
        visitItems d files active force (outcomeItem d files active force store file).store summary' rest :=
  ⟨_, rfl⟩

/-- A file that is settled is an outcome, and its discovery is none. -/
theorem outcomes_file (active : List Registered) (force : Bool) (store : Store) (file : FileInfo)
    (items : List ScanItem) :
    outcomes (⟨.ok (.discovered file.path), store, []⟩ :: outcomeItem d files active force store file :: items) =
      outcomeItem d files active force store file :: outcomes items := by
  have hsettles : (fileItem d files active force store file).1.Settles file.path := settles_fileItem store file
  have houtcome : isOutcome (outcomeItem d files active force store file).event = true := hsettles.isOutcome
  rw [outcomes_cons, outcomes_cons, houtcome]
  rfl

/-- **The calls of a walk** are those for its files; at its end backends are stopped. -/
theorem calls_visitItems (active : List Registered) (force : Bool) (store : Store) (summary : ScanSummary)
    (visits : List Visit) :
    (visitItems d files active force store summary visits).flatMap (·.calls) =
      (outcomes (visitItems d files active force store summary visits)).flatMap (·.calls) ++
        active.map fun r => .stop r.backend.name := by
  induction visits generalizing store summary with
  | nil => exact List.append_nil _
  | cons visit rest ih =>
    cases visit with
    | unlistable path => exact ih store summary
    | file file =>
      obtain ⟨summary', hitems⟩ := visitItems_file d files active force store summary file rest
      rw [hitems, outcomes_file, List.flatMap_cons, List.flatMap_cons, List.flatMap_cons, ih, List.append_assoc]
      rfl

/-- **The files of a walk** have their turns one after the other. -/
theorem turns_visitItems (hkeyed : registry.Keyed) (haccepts : store.Accepts) (force : Bool) (summary : ScanSummary)
    (visits : List Visit) :
    List.Forall₂ (FileTurn d files registry) (visits.filterMap Visit.file?)
      (outcomes (visitItems d files registry.active force store summary visits)) := by
  induction visits generalizing store summary with
  | nil => exact .nil
  | cons visit rest ih =>
    cases visit with
    | unlistable path => exact ih haccepts summary
    | file file =>
      obtain ⟨summary', hitems⟩ := visitItems_file d files registry.active
        force store summary file rest
      obtain ⟨-, table, hafter⟩ := callsUnless_fileItem d files haccepts
        registry.active file force
      rw [hitems, outcomes_file]
      refine .cons (fileTurn_outcomeItem hkeyed haccepts file force) (ih ?_ summary')
      have hstore : (outcomeItem d files registry.active force store file).store =
          { store with table } := hafter
      rw [hstore]
      exact ⟨haccepts.isOpen, haccepts.writes⟩

/-- A walk does not begin with what became of a file. -/
theorem visitItems_eq_cons (active : List Registered) (force : Bool) (store : Store) (summary : ScanSummary)
    (visits : List Visit) :
    ∃ first rest, visitItems d files active force store summary visits = first :: rest ∧
      isOutcome first.event = false := by
  cases visits with
  | nil => exact ⟨_, _, rfl, rfl⟩
  | cons visit rest =>
    cases visit with
    | unlistable path => exact ⟨_, _, rfl, rfl⟩
    | file file => exact ⟨_, _, rfl, rfl⟩

/-! ## Scans -/

variable {d files}

/-- Calls that are made before a walk come first. -/
theorem flatMap_calls_withCallsBefore (calls : List BackendCall) {items : List ScanItem} (h : items ≠ []) :
    (withCallsBefore calls items).flatMap (·.calls) = calls ++ items.flatMap (·.calls) := by
  cases items with
  | nil => exact absurd rfl h
  | cons item rest =>
    rw [withCallsBefore, List.flatMap_cons, List.flatMap_cons, List.append_assoc]

/-- Calls that are made before a walk are for no file. -/
theorem outcomes_withCallsBefore (calls : List BackendCall) {first : ScanItem} (rest : List ScanItem)
    (h : isOutcome first.event = false) :
    outcomes (withCallsBefore calls (first :: rest)) = outcomes (first :: rest) := by
  rw [withCallsBefore, outcomes_cons, outcomes_cons, h]
  rfl

/-- How backends are called in a scan that comes across certain files. -/
structure Lifecycle (d : Digests) (files : FileTree) (registry : Registry) (walked : List FileInfo)
    (items : List ScanItem) : Prop where
  /-- First backends are started, then they are called for one file after the other, and at the end those that
  could be started are stopped. -/
  calls : items.flatMap (·.calls) = (registry.values.map fun r => .start r.backend.name) ++
    ((outcomes items).flatMap (·.calls) ++ registry.active.map fun r => .stop r.backend.name)
  discovered : (items.map (·.event)).filterMap discoveredPath? = walked.map (·.path)
  turns : List.Forall₂ (FileTurn d files registry) walked (outcomes items)
  inOrder : (registry.values.map fun r => r.backend.name).Pairwise (· < ·)
  started : ∀ r ∈ registry.values, (items.flatMap (·.calls)).count (.start r.backend.name) = 1
  stopped : ∀ r ∈ registry.values, r.backend.start = .ok () →
    (items.flatMap (·.calls)).count (.stop r.backend.name) = 1
  /-- A backend that could not be started receives no further call. -/
  satOut : ∀ r ∈ registry.values, ∀ cause, r.backend.start = .error cause → ∀ call ∈ items.flatMap (·.calls),
    call.receiver = r.backend.name → call = .start r.backend.name

/-- In turns no backend is started or stopped, and only those that take part receive calls. -/
theorem receiver_of_turns {walked : List FileInfo} {items : List ScanItem}
    (h : List.Forall₂ (FileTurn d files registry) walked items) {call : BackendCall}
    (hcall : call ∈ items.flatMap (·.calls)) :
    (∀ name, call ≠ .start name ∧ call ≠ .stop name) ∧ ∃ r ∈ registry.active, call.receiver = r.backend.name := by
  induction h with
  | nil => cases hcall
  | cons hturn _ ih =>
    rcases List.mem_append.mp hcall with hmem | hmem
    · obtain ⟨r, hr, ⟨contentId, rfl⟩ | ⟨kind, name, rfl⟩⟩ := hturn.received call hmem
      · exact ⟨fun _ => ⟨nofun, nofun⟩, r, (List.mem_filter.mp hr).1, rfl⟩
      · exact ⟨fun _ => ⟨nofun, nofun⟩, r, (List.mem_filter.mp hr).1, rfl⟩
    · exact ih hmem

/-- A call that is made to some backends, each under its name, is made to each of them once. -/
theorem Registry.Keyed.count_call (h : registry.Keyed) {f : String → BackendCall} (hf : Function.Injective f)
    {called : List Registered} (hsub : called.Sublist registry.values) {r : Registered} (hr : r ∈ called) :
    (called.map fun r => f r.backend.name).count (f r.backend.name) = 1 := by
  have hnames : (called.map fun r => r.backend.name).Nodup := by
    have hkeys : (called.map fun r => r.backend.name).Sublist registry.keys := h.names_eq_keys ▸ hsub.map _
    exact (registry.keys_pairwise.sublist hkeys).imp String.ne_of_lt
  have hcalls : (called.map fun r => f r.backend.name).Nodup := by
    have hmap := hnames.map hf
    rwa [List.map_map] at hmap
  exact List.count_eq_one_of_mem hcalls (List.mem_map_of_mem hr)

/-- **Starts, turns and stops** make a lifecycle. -/
theorem Lifecycle.of_calls (hkeyed : registry.Keyed) {walked : List FileInfo} {items : List ScanItem}
    (hcalls : items.flatMap (·.calls) = (registry.values.map fun r => .start r.backend.name) ++
      ((outcomes items).flatMap (·.calls) ++ registry.active.map fun r => .stop r.backend.name))
    (hdiscovered : (items.map (·.event)).filterMap discoveredPath? = walked.map (·.path))
    (hturns : List.Forall₂ (FileTurn d files registry) walked (outcomes items)) :
    Lifecycle d files registry walked items where
  calls := hcalls
  discovered := hdiscovered
  turns := hturns
  inOrder := by
    rw [hkeyed.names_eq_keys]
    exact registry.keys_pairwise
  started r hr := by
    have hturn : .start r.backend.name ∉ (outcomes items).flatMap (·.calls) :=
      fun hmem => ((receiver_of_turns hturns hmem).1 _).1 rfl
    have hstop : .start r.backend.name ∉ registry.active.map fun r => BackendCall.stop r.backend.name := by
      rw [List.mem_map]
      rintro ⟨r', -, heq⟩
      cases heq
    rw [hcalls, List.count_append, List.count_append, List.count_eq_zero_of_not_mem hturn,
      List.count_eq_zero_of_not_mem hstop]
    exact hkeyed.count_call (fun _ _ => BackendCall.start.inj) (.refl _) hr
  stopped r hr hok := by
    have hactive : r ∈ registry.active := List.mem_filter.mpr ⟨hr, decide_eq_true hok⟩
    have hstart : .stop r.backend.name ∉ registry.values.map fun r => BackendCall.start r.backend.name := by
      rw [List.mem_map]
      rintro ⟨r', -, heq⟩
      cases heq
    have hturn : .stop r.backend.name ∉ (outcomes items).flatMap (·.calls) :=
      fun hmem => ((receiver_of_turns hturns hmem).1 _).2 rfl
    rw [hcalls, List.count_append, List.count_append, List.count_eq_zero_of_not_mem hstart,
      List.count_eq_zero_of_not_mem hturn, Nat.zero_add, Nat.zero_add]
    exact hkeyed.count_call (fun _ _ => BackendCall.stop.inj) List.filter_sublist hactive
  satOut r hr cause hfails call hcall hreceiver := by
    have hno : ∀ r' ∈ registry.active, call.receiver ≠ r'.backend.name := by
      intro r' hr' heq
      obtain ⟨hvalue, hok⟩ := List.mem_filter.mp hr'
      rw [decide_eq_true_eq, hkeyed.eq_of_name hvalue hr (heq.symm.trans hreceiver), hfails] at hok
      cases hok
    rw [hcalls, List.mem_append, List.mem_append] at hcall
    rcases hcall with hstart | hturn | hstop
    · obtain ⟨r', -, rfl⟩ := List.mem_map.mp hstart
      exact congrArg BackendCall.start hreceiver
    · obtain ⟨-, r', hr', heq⟩ := receiver_of_turns hturns hturn
      exact absurd heq (hno r' hr')
    · obtain ⟨r', hr', rfl⟩ := List.mem_map.mp hstop
      exact absurd rfl (hno r' hr')

/-- What a walk from a place comes across, in the order of names. -/
def FileTree.visitsFrom (files : FileTree) (place : List FileName) : List Visit :=
  ((files.root.at? place).map fun node => node.ordered.visits place).getD []

/-- The files that a walk from a place comes across, in the order of names. -/
def FileTree.filesFrom (files : FileTree) (place : List FileName) : List FileInfo :=
  (files.visitsFrom place).filterMap Visit.file?

/-- **How a scan calls backends**, as long as the store takes what is written. If the root leads nowhere, no backend
is called. Otherwise every backend is started once, in the order of names; then one file after the other has its turn,
in which backends are asked until one of them fails; and at the end those that could be started are stopped once. -/
theorem scan_lifecycle (hkeyed : registry.Keyed) (haccepts : store.Accepts) (d : Digests) (files : FileTree)
    (force : Bool) (path : FilePath) :
    (files.locate? false path = none → ∀ item ∈ scan d files registry force store path, item.calls = []) ∧
      ∀ place, files.locate? false path = some place →
        Lifecycle d files registry (files.filesFrom place) (scan d files registry force store path) := by
  constructor
  · intro hplace item hitem
    unfold scan at hitem
    rw [hplace] at hitem
    rcases List.mem_cons.mp hitem with rfl | hlast
    · rfl
    · rw [List.mem_singleton.mp hlast]
  · intro place hplace
    have hturns := turns_visitItems d files hkeyed haccepts force .empty (files.visitsFrom place)
    have hcalls := calls_visitItems d files registry.active force store .empty (files.visitsFrom place)
    obtain ⟨first, rest, hitems, hfirst⟩ := visitItems_eq_cons d files registry.active force store
      .empty (files.visitsFrom place)
    have hscan : scan d files registry force store path = ⟨.ok .started, store, []⟩ ::
        withCallsBefore (registry.values.map fun r => .start r.backend.name) (first :: rest) := by
      rw [← hitems]
      exact scan_eq_visitItems hplace registry store
    rw [hitems] at hturns hcalls
    have houtcomes : outcomes (scan d files registry force store path) = outcomes (first :: rest) := by
      rw [hscan, outcomes_cons]
      exact outcomes_withCallsBefore _ _ hfirst
    apply Lifecycle.of_calls hkeyed
    · rw [houtcomes, ← hcalls, hscan, List.flatMap_cons]
      exact flatMap_calls_withCallsBefore _ (List.cons_ne_nil _ _)
    · rw [scan_eq_visitItems hplace, List.map_cons, map_event_withCallsBefore]
      exact discovered_visitEvents d files registry.active force store .empty _
    · rw [houtcomes]
      exact hturns

/-- A backend that cannot be started. -/
def offlineBackend : Backend := { showBackend with name := "offline", start := .error (.of .io) }

/-- A registry with a backend that cannot be started and one that can. -/
def offlineRegistry : Registry :=
  (Dict.empty.insert "offline" ⟨offlineBackend, []⟩).insert "shows" ⟨showBackend, [⟨"*", Glob.anyOf Glob.inComponent⟩]⟩

/-- Of a scan of one file, in which one of two backends takes part. -/
theorem scan_lifecycle_of_pilot :
    offlineRegistry.Keyed ∧ (Store.ofTable .empty).Accepts ∧ pilotFiles.locate? false "/" = some [] ∧
      pilotFiles.filesFrom [] = [pilot] ∧
        Lifecycle .standard pilotFiles offlineRegistry [pilot]
          (scan .standard pilotFiles offlineRegistry false (.ofTable .empty) "/") := by
  have hkeyed : offlineRegistry.Keyed := by
    unfold offlineRegistry
    refine Registry.Keyed.insert ?_ rfl
    exact Registry.Keyed.insert Registry.keyed_empty rfl
  have haccepts : (Store.ofTable .empty).Accepts := ⟨rfl, .inr rfl⟩
  have hplace : pilotFiles.locate? false "/" = some [] := FileTree.locate?_slash rfl
  have hfiles : pilotFiles.filesFrom [] = [pilot] := by
    have hroot : pilotFiles.root =
        .directory ⟨4096, 0⟩ true [(.ofText "pilot.mkv", .file ⟨1, ⟨#[1, 2, 3]⟩, true, 0⟩)] := rfl
    have hpath : FilePath.ofNames [.ofText "pilot.mkv"] = pilot.path := by decide +kernel
    have hordered : pilotFiles.root.ordered = pilotFiles.root := by
      rw [hroot, FileNode.ordered_directory, inNameOrder, List.mergeSort_singleton]
      rfl
    have hvisits : pilotFiles.filesFrom [] = (pilotFiles.root.ordered.visits []).filterMap Visit.file? := rfl
    have hpilot : (pilotFiles.root.visits []).filterMap Visit.file? =
        [⟨.ofNames [.ofText "pilot.mkv"], 3, 0⟩] := rfl
    rw [hvisits, hordered, hpilot, hpath]
    rfl
  refine ⟨hkeyed, haccepts, hplace, hfiles, ?_⟩
  rw [← hfiles]
  exact (scan_lifecycle hkeyed haccepts .standard pilotFiles false "/").2 [] hplace

end MediaCatalog
