import MediaCatalog.Proofs.Backend.Registry
import MediaCatalog.Proofs.Scan.Alike
import MediaCatalog.Proofs.Scan.Walk
import MediaCatalog.Proofs.Text.Utf8

/-!
# A dry run predicts the real one

A dry run meets the same store for every file, while a real run meets what it has stored before. Both
report the same: a walk comes across a file once, so nothing is read of a file that was written for
another one; and a set that the real run has stored is one that its backend describes.

* `FilePath.IsText`: the bytes of a path are text.
* `digestedTexts`: what keys are made of in a scan.
* `ToldApart`: what is asked of the files of a walk, and kept for the rest of it (`ToldApart.tail`).
* `fileItem_agree`, `visitItems_agree`: what becomes of a file, and of the rest of a walk.
* **Main result** (`dryRun_predicts_scan`): a dry run reports what a scan of a writable store with the
  same content reports, and leaves its store as it is.
-/

namespace MediaCatalog

/-- The bytes of a path are text. -/
def FilePath.IsText (path : FilePath) : Prop := ∃ text : String, path = text

/-- The text of a path is the one of which it was made. -/
theorem FilePath.text_ofText (text : String) : (ofText text).text = text := Text.Utf8.lossy_bytes text

/-- Paths that are text are the same if their texts are. -/
theorem FilePath.IsText.eq_of_text {path path' : FilePath} (h : path.IsText) (h' : path'.IsText)
    (hsame : path.text = path'.text) : path = path' := by
  obtain ⟨text, rfl⟩ := h
  obtain ⟨text', rfl⟩ := h'
  rw [text_ofText, text_ofText] at hsame
  rw [hsame]

/-- The files that a scan of the directory at a path comes across. -/
def scannedFiles (files : FileTree) (path : FilePath) : Set FileInfo :=
  {file | ∃ place node, files.locate? false path = some place ∧ files.root.at? place = some node ∧
    .file file ∈ node.visits place}

/-- The texts of which a scan may take digests: the paths of its files, and the names of the sets with
which backends associate them. -/
def digestedTexts (d : Digests) (files : FileTree) (registry : Registry) (path : FilePath) : Set String :=
  {text | ∃ file ∈ scannedFiles files path, text = file.pathText ∨
    ∃ r ∈ registry.values, ∃ contentId contribution, files.contentId d file.path = .ok contentId ∧
      r.backend.process file contentId = .ok contribution ∧ ∃ a ∈ contribution.sets, text = a.name}

/-- What a scan comes across lies below the directory to which the path leads. -/
theorem mem_scannedFiles {files : FileTree} (hfiles : files.root.WellFormed) {path : FilePath} {place : List FileName}
    (hplace : files.locate? false path = some place) {file : FileInfo}
    (h : .file file ∈ ((files.root.at? place).map fun node => node.ordered.visits place).getD []) :
    file ∈ scannedFiles files path := by
  cases hnode : files.root.at? place with
  | none =>
    rw [hnode] at h
    cases h
  | some node =>
    rw [hnode] at h
    obtain ⟨hwell, -⟩ := hfiles.at? hnode
    exact ⟨place, node, hplace, hnode, hwell.mem_visits_of_ordered h⟩

/-- In a file system a scan comes across different paths. -/
theorem pairwise_apart_visits {files : FileTree} (hfiles : files.root.WellFormed) (place : List FileName) :
    (((files.root.at? place).map fun node => node.ordered.visits place).getD []).Pairwise Visit.Apart := by
  cases hnode : files.root.at? place with
  | none => exact List.Pairwise.nil
  | some node =>
    obtain ⟨hwell, hslash⟩ := hfiles.at? hnode
    exact (hwell.ordered.walkedFrom_visits hslash).apart

variable {d : Digests} {files : FileTree} {backends : List Backend} {names paths paths' : Set String} {s t : Store}
  {active : List Registered}

/-! ## One file -/

section file

variable {file : FileInfo} (hapart : SetKeysApart d backends names) (hactive : ∀ r ∈ active, r.backend ∈ backends)
  (hnames : ∀ contentId, files.contentId d file.path = .ok contentId →
    ∀ r ∈ active, r.backend.NamesWithin file contentId names)
include hapart hactive hnames

/-- **What becomes of a file** is the same on alike tables. -/
theorem fileItem_agree (hs : s.Accepts) (ht : t.Accepts) (halike : Table.Alike d backends names paths s.table t.table)
    (hfile : file.pathText ∈ paths) (hother : ∀ path ∈ paths', Key.file d.key file.pathText ≠ Key.file d.key path)
    (force : Bool) :
    (fileItem d files active force s file).1 = (fileItem d files active force t file).1 ∧
      Store.GoesOn d backends names paths' s (fileItem d files active force s file).2.1 ∧
        Store.GoesOn d backends names paths' t (fileItem d files active force t file).2.1 := by
  unfold fileItem
  by_cases hnone : (active.filter fun r => r.accepts file.path).isEmpty = true
  · simp only [hnone, if_true]
    exact ⟨trivial, .refl s, .refl t⟩
  · simp only [hnone]
    have hsub : ∀ b ∈ (active.filter fun r => r.accepts file.path).map (·.backend), b ∈ backends := by
      intro b hb
      obtain ⟨r, hr, rfl⟩ := List.mem_map.mp hb
      exact hactive r (List.mem_filter.mp hr).1
    have hwithin : ∀ contentId, files.contentId d file.path = .ok contentId →
        ∀ b ∈ (active.filter fun r => r.accepts file.path).map (·.backend), b.NamesWithin file contentId names := by
      intro contentId hcontent b hb
      obtain ⟨r, hr, rfl⟩ := List.mem_map.mp hb
      exact hnames contentId hcontent r (List.mem_filter.mp hr).1
    obtain ⟨hresult, hstore, hstore'⟩ := scanFile_agree hapart hsub hwithin hs ht halike hfile hother force
    generalize (active.filter fun r => r.accepts file.path).map (·.backend) = accepting at hresult hstore hstore' ⊢
    cases hsecond : (scanFile d files accepting t force file).result with
    | ok scanned =>
      rw [hsecond] at hresult
      simp only [hresult]
      exact ⟨rfl, hstore, hstore'⟩
    | error failure =>
      rw [hsecond] at hresult
      simp only [hresult]
      exact ⟨rfl, hstore, hstore'⟩

end file

/-! ## Walks -/

/-- The path texts of the files among what a walk comes across. -/
def pathTexts (visits : List Visit) : Set String := {text | ∃ file, .file file ∈ visits ∧ text = file.pathText}

/-- The files that a walk comes across are told apart: they have different paths, these are text, and `texts` holds
them and the names of the sets with which backends associate the files. -/
structure ToldApart (d : Digests) (files : FileTree) (active : List Registered) (texts : Set String)
    (visits : List Visit) : Prop where
  paths : pathTexts visits ⊆ texts
  apart : visits.Pairwise Visit.Apart
  areText : ∀ file, .file file ∈ visits → file.path.IsText
  names : ∀ file, .file file ∈ visits → ∀ contentId, files.contentId d file.path = .ok contentId →
    ∀ r ∈ active, r.backend.NamesWithin file contentId texts

section walk

variable {texts : Set String} {visit : Visit} {file : FileInfo} {visits rest : List Visit}

/-- The rest of a walk has no other path texts. -/
theorem pathTexts_subset_cons (visit : Visit) (rest : List Visit) : pathTexts rest ⊆ pathTexts (visit :: rest) := by
  rintro text ⟨file, hfile, rfl⟩
  exact ⟨file, List.mem_cons_of_mem _ hfile, rfl⟩

/-- The files in the rest of a walk are told apart. -/
theorem ToldApart.tail (h : ToldApart d files active texts (visit :: rest)) : ToldApart d files active texts rest where
  paths := (pathTexts_subset_cons visit rest).trans h.paths
  apart := (List.pairwise_cons.mp h.apart).2
  areText file hfile := h.areText file (List.mem_cons_of_mem _ hfile)
  names file hfile := h.names file (List.mem_cons_of_mem _ hfile)

/-- The files that follow in a walk have other keys. -/
theorem ToldApart.file_key_ne (h : ToldApart d files active texts (.file file :: rest))
    (hdigest : d.key.Separates texts) :
    ∀ path ∈ pathTexts rest, Key.file d.key file.pathText ≠ Key.file d.key path := by
  rintro path ⟨other, hother, rfl⟩ hsame
  have hfirst : .file file ∈ Visit.file file :: rest := List.mem_cons_self
  have hlater : .file other ∈ Visit.file file :: rest := List.mem_cons_of_mem _ hother
  have htexts : file.pathText = other.pathText :=
    Key.eq_of_file hdigest (h.paths ⟨file, hfirst, rfl⟩) (h.paths ⟨other, hlater, rfl⟩) hsame
  have hne : file.path ≠ other.path := (List.pairwise_cons.mp h.apart).1 _ hother file other rfl rfl
  exact hne ((h.areText file hfirst).eq_of_text (h.areText other hlater) htexts)

/-- **The rest of a walk** has the same events on alike tables, and a dry run leaves its store as it is. -/
theorem visitItems_agree (hapart : SetKeysApart d backends texts) (hactive : ∀ r ∈ active, r.backend ∈ backends)
    (hdigest : d.key.Separates texts) (htold : ToldApart d files active texts visits) (hs : s.Accepts) (ht : t.Accepts)
    (halike : Table.Alike d backends texts (pathTexts visits) s.table t.table) (force : Bool) (summary : ScanSummary) :
    (visitItems d files active force s summary visits).map (·.event) =
        (visitItems d files active force t summary visits).map (·.event) ∧
      (s.dryRun = true → ∀ item ∈ visitItems d files active force s summary visits, item.store = s) := by
  induction visits generalizing s t summary with
  | nil =>
    refine ⟨rfl, fun _ item hitem => ?_⟩
    rw [visitItems, List.mem_singleton] at hitem
    rw [hitem]
  | cons visit rest ih =>
    have hrest := pathTexts_subset_cons visit rest
    cases visit with
    | unlistable path =>
      obtain ⟨hevents, hstores⟩ := ih htold.tail hs ht (halike.mono hrest) summary
      rw [visitItems, visitItems, List.map_cons, List.map_cons, hevents]
      refine ⟨rfl, fun hdry item hitem => ?_⟩
      rcases List.mem_cons.mp hitem with rfl | hmem
      · rfl
      · exact hstores hdry item hmem
    | file file =>
      obtain ⟨hevent, hgoes, hgoes'⟩ := fileItem_agree hapart hactive (htold.names file List.mem_cons_self) hs ht halike
        ⟨file, List.mem_cons_self, rfl⟩ (htold.file_key_ne hdigest) force
      have hafter := (hgoes.alike.symm.trans (halike.mono hrest)).trans hgoes'.alike
      obtain ⟨hevents, hstores⟩ := ih htold.tail (hgoes.accepts hs) (hgoes'.accepts ht) hafter
        ((summary.count (.discovered file.path)).count (fileItem d files active force s file).1)
      rw [visitItems, visitItems]
      refine ⟨?_, fun hdry item hitem => ?_⟩
      · simp only [List.map_cons]
        rw [hevents, hevent]
      · have hsame := hgoes.dry hdry
        rcases List.mem_cons.mp hitem with rfl | hmem
        · rfl
        · rcases List.mem_cons.mp hmem with rfl | hmem
          · exact hsame
          · exact (hstores (hsame.symm ▸ hdry) item hmem).trans hsame

end walk

/-! ## Scans -/

/-- Calls that are made before the first item change no store. -/
theorem store_of_mem_withCallsBefore {calls : List BackendCall} {items : List ScanItem} {s : Store}
    (h : ∀ item ∈ items, item.store = s) : ∀ item ∈ withCallsBefore calls items, item.store = s := by
  cases items with
  | nil => exact h
  | cons first rest =>
    intro item hitem
    rcases List.mem_cons.mp hitem with rfl | hmem
    · exact h first List.mem_cons_self
    · exact h item (List.mem_cons_of_mem _ hmem)

/-- The sets of registered backends have different keys. -/
theorem Registry.setKeysApart {registry : Registry} (hkeyed : registry.Keyed)
    (hcolons : ∀ r ∈ registry.values, ':' ∉ r.backend.name.toList) (hdigest : d.key.Separates names) :
    SetKeysApart d (registry.values.map (·.backend)) names := by
  intro b hb b' hb' kind kind' name hname name' hname' hsame
  obtain ⟨r, hr, rfl⟩ := List.mem_map.mp hb
  obtain ⟨r', hr', rfl⟩ := List.mem_map.mp hb'
  obtain ⟨hsource, hkind, hnames⟩ := Key.eq_of_set hdigest (hcolons r hr) (hcolons r' hr') hname hname' hsame
  rw [hkeyed.eq_of_name hr hr' hsource]
  exact ⟨rfl, hkind, hnames⟩

/-- **The files of a scan** are told apart by what is digested in it, if their paths are text. -/
theorem toldApart_visits {registry : Registry} {path : FilePath} {place : List FileName}
    (hfiles : files.root.WellFormed) (htext : ∀ file ∈ scannedFiles files path, file.path.IsText)
    (hplace : files.locate? false path = some place) :
    ToldApart d files registry.active (digestedTexts d files registry path)
      (((files.root.at? place).map fun node => node.ordered.visits place).getD []) where
  paths := by
    rintro text ⟨file, hfile, rfl⟩
    exact ⟨file, mem_scannedFiles hfiles hplace hfile, .inl rfl⟩
  apart := pairwise_apart_visits hfiles place
  areText file hfile := htext file (mem_scannedFiles hfiles hplace hfile)
  names := by
    intro file hfile contentId hcontent r hr contribution hprocess a ha
    have hvalue := (List.mem_filter.mp hr).1
    exact ⟨file, mem_scannedFiles hfiles hplace hfile,
      .inr ⟨r, hvalue, contentId, contribution, hcontent, hprocess, a, ha, rfl⟩⟩

/-- **A dry run predicts the real one.** Of a file system in which the paths of files are text, with backends that are
registered under names without colons, and as long as digests tell the texts of the scan apart: a dry run reports what a
scan of a writable store with the same content reports, and leaves its store as it is. -/
theorem dryRun_predicts_scan {registry : Registry} {path : FilePath} (hkeyed : registry.Keyed)
    (hcolons : ∀ r ∈ registry.values, ':' ∉ r.backend.name.toList) (hfiles : files.root.WellFormed)
    (htext : ∀ file ∈ scannedFiles files path, file.path.IsText)
    (hdigest : d.key.Separates (digestedTexts d files registry path)) (table : Table) (access : Access) (force : Bool) :
    (scan d files registry force ⟨table, access, true, true⟩ path).map (·.event) =
        (scan d files registry force (.ofTable table) path).map (·.event) ∧
      ∀ item ∈ scan d files registry force ⟨table, access, true, true⟩ path, item.store = ⟨table, access, true, true⟩ := by
  cases hplace : files.locate? false path with
  | none =>
    unfold scan
    rw [hplace]
    refine ⟨rfl, fun item hitem => ?_⟩
    rcases List.mem_cons.mp hitem with rfl | hmem
    · rfl
    · cases List.mem_singleton.mp hmem
      rfl
  | some place =>
    have hsub : ∀ r ∈ registry.active, r.backend ∈ registry.values.map (·.backend) := by
      intro r hr
      exact List.mem_map_of_mem (List.mem_filter.mp hr).1
    obtain ⟨hevents, hstores⟩ := visitItems_agree (s := ⟨table, access, true, true⟩) (t := .ofTable table)
      (Registry.setKeysApart hkeyed hcolons hdigest) hsub hdigest (toldApart_visits hfiles htext hplace)
      ⟨rfl, .inl rfl⟩ ⟨rfl, .inr rfl⟩ (.refl table) force .empty
    rw [scan_eq_visitItems hplace, scan_eq_visitItems hplace]
    simp only [List.map_cons, map_event_withCallsBefore]
    refine ⟨?_, fun item hitem => ?_⟩
    · rw [hevents]
    · rcases List.mem_cons.mp hitem with rfl | hmem
      · rfl
      · exact store_of_mem_withCallsBefore (hstores rfl) item hmem

/-- Two files in one directory. -/
def sharedFiles : FileTree where
  root := .directory ⟨4096, 0⟩ true [(.ofText "a.mkv", .file ⟨1, ⟨#[1]⟩, true, 0⟩), (.ofText "b.mkv", .file ⟨2, ⟨#[2]⟩, true, 0⟩)]
  here := []
  next := 3
  directorySize := 4096

/-- A registry with a backend that knows the same show of every file. -/
def showRegistry : Registry := Dict.empty.insert "shows" ⟨showBackend, [⟨"*", Glob.anyOf Glob.inComponent⟩]⟩

/-- The paths of both files. -/
theorem path_of_mem_sharedFiles {file : FileInfo} (h : file ∈ scannedFiles sharedFiles "/") :
    file.path = "/a.mkv" ∨ file.path = "/b.mkv" := by
  have hplace : sharedFiles.locate? false "/" = some [] := FileTree.locate?_slash rfl
  have ha : FilePath.ofNames [.ofText "a.mkv"] = "/a.mkv" := by decide +kernel
  have hb : FilePath.ofNames [.ofText "b.mkv"] = "/b.mkv" := by decide +kernel
  obtain ⟨place, node, hlocate, hnode, hfile⟩ := h
  obtain rfl : [] = place := Option.some.inj (hplace.symm.trans hlocate)
  obtain rfl : sharedFiles.root = node := Option.some.inj hnode
  simp only [sharedFiles, FileNode.visits, fileVisits, childVisits] at hfile
  rcases List.mem_cons.mp hfile with heq | hlast
  · cases heq
    exact .inl ha
  · cases List.mem_singleton.mp hlast
    exact .inr hb

/-- The texts of a scan of both files. -/
theorem digestedTexts_sharedFiles :
    digestedTexts .standard sharedFiles showRegistry "/" ⊆ {text | text ∈ ["/a.mkv", "/b.mkv", "Fringe"]} := by
  rintro text ⟨file, hfile, rfl | ⟨r, hr, contentId, contribution, -, hprocess, a, ha, rfl⟩⟩
  · unfold FileInfo.pathText
    rcases path_of_mem_sharedFiles hfile with hpath | hpath
    · rw [hpath, FilePath.text_ofText]
      exact List.mem_cons_self
    · rw [hpath, FilePath.text_ofText]
      exact List.mem_cons_of_mem _ List.mem_cons_self
  · -- the backend says the same of every file
    obtain rfl := List.mem_singleton.mp hr
    cases hprocess
    obtain rfl := List.mem_singleton.mp ha
    exact List.mem_cons_of_mem _ (List.mem_cons_of_mem _ List.mem_cons_self)

/-- The hypotheses hold of both files. -/
theorem dryRun_predicts_scan_of_two_files :
    showRegistry.Keyed ∧ (∀ r ∈ showRegistry.values, ':' ∉ r.backend.name.toList) ∧ sharedFiles.root.WellFormed ∧
      (∀ file ∈ scannedFiles sharedFiles "/", file.path.IsText) ∧
      Digests.standard.key.Separates (digestedTexts .standard sharedFiles showRegistry "/") ∧
      (scan .standard sharedFiles showRegistry false ⟨.empty, .readWrite, true, true⟩ "/").map (·.event) =
          (scan .standard sharedFiles showRegistry false (.ofTable .empty) "/").map (·.event) ∧
        ∀ item ∈ scan .standard sharedFiles showRegistry false ⟨.empty, .readWrite, true, true⟩ "/",
          item.store = ⟨.empty, .readWrite, true, true⟩ := by
  have hkeyed : showRegistry.Keyed := by
    intro name r hget
    unfold showRegistry at hget
    rw [Dict.get?_insert] at hget
    split at hget
    case isTrue hname =>
      cases hget
      exact hname
    case isFalse => cases hget
  have hcolons : ∀ r ∈ showRegistry.values, ':' ∉ r.backend.name.toList := by
    intro r hr
    obtain rfl := List.mem_singleton.mp hr
    decide
  have hfiles : sharedFiles.root.WellFormed := by
    refine .directory _ true _ (by decide +kernel) ?_ ?_
    · unfold SlashFree
      decide +kernel
    · intro child hchild
      rcases List.mem_cons.mp hchild with rfl | hlast
      · exact .file _
      · cases List.mem_singleton.mp hlast
        exact .file _
  have hdigest : Digests.standard.key.Separates (digestedTexts .standard sharedFiles showRegistry "/") := by
    apply Blake3.separates_of_injOn
    apply Set.InjOn.mono digestedTexts_sharedFiles
    apply List.inj_on_of_nodup_map
    simp only [List.map]
    rw [Blake3.hashText_of_block (by decide +kernel), Blake3.hashText_of_block (by decide +kernel),
      Blake3.hashText_of_block (by decide +kernel)]
    decide +kernel
  have htext : ∀ file ∈ scannedFiles sharedFiles "/", file.path.IsText :=
    fun file hfile => (path_of_mem_sharedFiles hfile).elim (fun h => ⟨_, h⟩) fun h => ⟨_, h⟩
  exact ⟨hkeyed, hcolons, hfiles, htext, hdigest, dryRun_predicts_scan hkeyed hcolons hfiles htext hdigest .empty .readWrite false⟩

end MediaCatalog
