import Mathlib
import MediaCatalog.Proofs.Scan.CoreFields

/-!
# What an unchanged file was compared with

A file is left alone if the recorded size and time are still its own. In a run of scans with backends
that do not touch the recorded fields, they are those of the file as it was given to the last scan
that processed it.

* `lastProcessed?`: the file that was last processed under a key, over a run.
* `recorded_after_run`: size and time on record, after every run.
* **Main result** (`cached_as_last_processed`): a file is found unchanged exactly if the scan can and may
  compare it, and size and second are those of the last scan that processed a file under its key.
-/

namespace MediaCatalog

variable {d : Digests}

/-! ## The last file that was processed -/

/-- The file as it was given to the last scan of a run that processed a file under a key. -/
def lastProcessed? (d : Digests) (key : Key) (run : List ScanRequest) : Option FileInfo :=
  (((scanHistory d .empty run).filter fun step =>
    step.2.effort? = some .processed ∧ step.1.key d = key).getLast?).map fun step => step.1.file

/-- A scan that processes its file under the key is the last one, and any other changes nothing. -/
theorem lastProcessed?_concat (key : Key) (run : List ScanRequest) (r : ScanRequest) :
    lastProcessed? d key (run ++ [r]) =
      if (r.scan d (tableAfter d run)).effort? = some .processed ∧ r.key d = key then some r.file
      else lastProcessed? d key run := by
  unfold lastProcessed?
  rw [scanHistory_concat, List.filter_append, List.filter_cons]
  by_cases h : (r.scan d (tableAfter d run)).effort? = some .processed ∧ r.key d = key
  · rw [if_pos (by simpa using h), if_pos h]
    simp
  · rw [if_neg (by simpa using h), if_neg h]
    simp

/-- The requests in the history of a run are those of the run. -/
theorem map_fst_scanHistory (table : Table) (run : List ScanRequest) : (scanHistory d table run).map Prod.fst = run := by
  induction run generalizing table with
  | nil => rfl
  | cons r rest ih => rw [scanHistory, List.map_cons, ih]

/-- The file that was last processed under a key is one of the run and has that key. -/
theorem exists_of_lastProcessed? {key : Key} {run : List ScanRequest} {last : FileInfo}
    (h : lastProcessed? d key run = some last) : (∃ q ∈ run, q.file = last) ∧ Key.file d.key last.pathText = key := by
  obtain ⟨step, hstep, rfl⟩ := Option.map_eq_some_iff.mp h
  obtain ⟨hmem, hkey⟩ := List.mem_filter.mp (List.mem_of_getLast? hstep)
  simp only [Bool.decide_and, Bool.and_eq_true, decide_eq_true_eq] at hkey
  have hrun : step.1 ∈ run := by
    rw [← map_fst_scanHistory (d := d) .empty run]
    exact List.mem_map_of_mem hmem
  exact ⟨⟨step.1, hrun, rfl⟩, hkey.2⟩

/-! ## What is on record -/

/-- Size and time under a key are those of the file that was last processed under it, and there is a
content identifier exactly if there is such a file. -/
def Recorded (d : Digests) (run : List ScanRequest) (table : Table) : Prop :=
  ∀ path : String,
    (table.fieldsOf (Key.file d.key path)).get? sizeField =
        (lastProcessed? d (Key.file d.key path) run).map FileInfo.sizeText ∧
      (table.fieldsOf (Key.file d.key path)).get? timeField =
          (lastProcessed? d (Key.file d.key path) run).map FileInfo.secondText ∧
        (table.fieldsOf (Key.file d.key path)).contains contentField =
          (lastProcessed? d (Key.file d.key path) run).isSome

/-- **One more scan** keeps the record, if its backends spare the file's own fields. -/
theorem Recorded.scan {run : List ScanRequest} {r : ScanRequest} (h : Recorded d run (tableAfter d run))
    (hspares : ∀ b ∈ r.backends, b.SparesCore) :
    Recorded d (run ++ [r]) (r.scan d (tableAfter d run)).store.table := by
  intro path
  rw [lastProcessed?_concat]
  by_cases hprocessed : (r.scan d (tableAfter d run)).effort? = some .processed
  · obtain ⟨contentId, found, -, hfound, hstores⟩ := ScanRequest.stores_of_processed hprocessed
    by_cases hkey : r.key d = Key.file d.key path
    · -- the file itself: what it says of itself is what is stored
      rw [if_pos ⟨hprocessed, hkey⟩, ← hkey]
      have hspared : ∀ f ∈ found, f.backend.SparesCore := by
        rw [← hfound] at hspares
        exact List.forall_mem_map.mp hspares
      have hcore : ∀ pair ∈ r.file.pairs contentId,
          ((r.scan d (tableAfter d run)).store.table.fieldsOf (r.key d)).get? pair.1 = some pair.2 := by
        intro pair hpair
        have hstored := hstores.get?_core pair hpair
        rw [Finding.settled_of_sparesCore hspared hpair] at hstored
        exact hstored
      refine ⟨hcore (sizeField, r.file.sizeText) (by simp [FileInfo.pairs]),
        hcore (timeField, r.file.secondText) (by simp [FileInfo.pairs]), ?_⟩
      unfold Dict.contains
      rw [hcore (contentField, contentId) (by simp [FileInfo.pairs])]
      rfl
    · -- another file: neither its entry nor that of a set is touched
      rw [if_neg fun hboth => hkey hboth.2]
      rw [hstores.fieldsOf_other_file (Ne.symm hkey)]
      exact h path
  · rw [ScanRequest.table_of_not_processed hprocessed, if_neg fun hboth => hprocessed hboth.1]
    exact h path

/-- **The record after every run** of scans with backends that spare the file's own fields. -/
theorem recorded_after_run {run : List ScanRequest} (hspares : ∀ q ∈ run, ∀ b ∈ q.backends, b.SparesCore) :
    Recorded d run (tableAfter d run) := by
  induction run using List.reverseRecOn with
  | nil => exact fun _ => ⟨rfl, rfl, rfl⟩
  | append_singleton run r ih =>
    rw [tableAfter_concat]
    have hrun : Recorded d run (tableAfter d run) := ih fun q hq => hspares q (List.mem_append_left _ hq)
    exact hrun.scan (hspares r (List.mem_append_right _ List.mem_cons_self))

/-- What is on record is what a file is, exactly if size and second are those of the file that was last
processed under its key. -/
theorem Recorded.isUnchanged_iff {run : List ScanRequest} {table : Table} (h : Recorded d run table) (file : FileInfo) :
    FileRecord.isUnchanged ⟨table.entryFor (Key.file d.key file.pathText)⟩ file = true ↔
      ∃ last, lastProcessed? d (Key.file d.key file.pathText) run = some last ∧ last.size = file.size ∧
        last.second = file.second := by
  obtain ⟨hsize, htime, hcontent⟩ := h file.pathText
  unfold FileRecord.isUnchanged Entry.contains Entry.get? Table.entryFor
  simp only [hsize, htime, hcontent, Bool.and_eq_true, beq_iff_eq]
  cases lastProcessed? d (Key.file d.key file.pathText) run with
  | none =>
    constructor
    · rintro ⟨⟨hsome, -⟩, -⟩
      cases hsome
    · rintro ⟨last, hnone, -⟩
      cases hnone
  | some last =>
    have hsizes : last.sizeText = file.sizeText ↔ last.size = file.size := Nat.repr_inj
    have htimes : last.secondText = file.secondText ↔ last.second = file.second :=
      ⟨fun heq => Int.repr_injective heq, fun heq => congrArg toString heq⟩
    simp only [Option.map_some, Option.isSome_some, Option.some.injEq, true_and, hsizes, htimes, exists_eq_left']

/-- **A file that is found unchanged.** In a run of scans with the release backend, whatever fails and
whatever is forced, a file is found unchanged exactly if the store is open, the scan is not forced, and
size and second are those of the file as it was given to the last scan that processed a file under its
key. The key stands for the text of the path, if digests of different paths differ. -/
theorem cached_as_last_processed {run : List ScanRequest} {r : ScanRequest}
    (hrelease : ∀ q ∈ run, ∀ b ∈ q.backends, b = Release.backend) :
    ((r.scan d (tableAfter d run)).effort? = some .cached ↔
        r.isOpen = true ∧ r.force = false ∧ ∃ last, lastProcessed? d (r.key d) run = some last ∧
          last.size = r.file.size ∧ last.second = r.file.second) ∧
      (Set.InjOn d.key {text | ∃ q ∈ r :: run, text = q.file.pathText} →
        ∀ last, lastProcessed? d (r.key d) run = some last → last.pathText = r.file.pathText) := by
  have hspares : ∀ q ∈ run, ∀ b ∈ q.backends, b.SparesCore := by
    intro q hq b hb
    rw [hrelease q hq b hb]
    exact Release.sparesCore_backend
  have hrecorded : Recorded d run (tableAfter d run) := recorded_after_run hspares
  refine ⟨?_, ?_⟩
  · have hcached := @effort?_eq_cached_iff d r.files r.backends (r.storeOn (tableAfter d run)) r.file rfl r.force
    exact hcached.trans (and_congr_right fun _ => and_congr_right fun _ => hrecorded.isUnchanged_iff r.file)
  · intro hdigest last hlast
    obtain ⟨⟨q, hq, rfl⟩, hkey⟩ := exists_of_lastProcessed? hlast
    have htext := congrArg Key.text hkey
    unfold ScanRequest.key at htext
    rw [Key.file_text, Key.file_text, String.append_right_inj] at htext
    exact hdigest ⟨q, List.mem_cons_of_mem _ hq, rfl⟩ ⟨r, List.mem_cons_self, rfl⟩ htext

/-- A scan of the file with the release backend, which is not forced. -/
def pilotRequest : ScanRequest := ⟨pilotFiles, [Release.backend], .readWrite, true, false, pilot⟩

/-- The same file, modified within the same second. -/
def touchedRequest : ScanRequest := { pilotRequest with file := { pilot with modified := 500000000 } }

/-- The file is processed, and then it is found unchanged. -/
theorem cached_touchedRequest :
    (pilotRequest.scan plainDigests .empty).effort? = some .processed ∧
      (touchedRequest.scan plainDigests (tableAfter plainDigests [pilotRequest])).effort? = some .cached := by
  simp only [tableAfter, List.foldl, ScanRequest.scan, pilotRequest, touchedRequest, scanFile, processFile, contentId_pilot]
  decide +kernel

/-- A file that was modified within a second is found unchanged, as it was last processed in that second. -/
theorem cached_as_last_processed_of_touched :
    (∀ q ∈ [pilotRequest], ∀ b ∈ q.backends, b = Release.backend) ∧
      (touchedRequest.scan plainDigests (tableAfter plainDigests [pilotRequest])).effort? = some .cached ∧
        ∃ last, lastProcessed? plainDigests (touchedRequest.key plainDigests) [pilotRequest] = some last ∧
          last.size = touchedRequest.file.size ∧ last.second = touchedRequest.file.second ∧
            last.pathText = touchedRequest.file.pathText := by
  have hrelease : ∀ q ∈ [pilotRequest], ∀ b ∈ q.backends, b = Release.backend := by
    intro q hq b hb
    obtain rfl := List.mem_singleton.mp hq
    exact List.mem_singleton.mp hb
  obtain ⟨hcached, hpath⟩ := @cached_as_last_processed plainDigests [pilotRequest] touchedRequest hrelease
  obtain ⟨-, -, last, hlast, hsize, hsecond⟩ := hcached.mp cached_touchedRequest.2
  exact ⟨hrelease, cached_touchedRequest.2, last, hlast, hsize, hsecond,
    hpath Function.injective_id.injOn last hlast⟩

/-- The path of a file whose name is a replacement character. -/
def replacementPath : FilePath := .ofText "/\uFFFD"

/-- Another path with the same text. -/
def malformedPath : FilePath := ⟨[47, 255]⟩

/-- A scan of an empty file with a name that is a replacement character. -/
def replacementRequest : ScanRequest :=
  ⟨.onlyFile (.ofText "\uFFFD") ⟨1, ByteArray.empty, true, 0⟩, [Release.backend], .readWrite, true, false,
    ⟨replacementPath, 0, 0⟩⟩

/-- A file at a path that is not UTF-8. -/
def malformedRequest : ScanRequest := { replacementRequest with file := ⟨malformedPath, 0, 0⟩ }

/-- The file with the replacement character can be identified. -/
theorem contentId_replacement : replacementRequest.files.contentId plainDigests replacementPath = .ok "" := by
  have hid : ContentId.ofContent id 4 ByteArray.empty = "" := by decide +kernel
  have hcontent : replacementRequest.files.contentId plainDigests replacementPath =
      .ok (ContentId.ofContent id 4 ByteArray.empty) :=
    FileTree.contentId_onlyFile (by decide +kernel) (by decide +kernel) rfl
  exact hcontent.trans (congrArg Except.ok hid)

/-- The file at the other path is found unchanged once this one has been processed. -/
theorem cached_malformedRequest :
    (malformedRequest.scan plainDigests (tableAfter plainDigests [replacementRequest])).effort? = some .cached := by
  have hprocess := contentId_replacement
  simp only [tableAfter, List.foldl, ScanRequest.scan, replacementRequest, malformedRequest, scanFile, processFile] at hprocess ⊢
  rw [hprocess]
  decide +kernel

/-- **What a file that is found unchanged may differ in** from the one that was processed: the time within
a second, and bytes of the path that are no text. -/
theorem not_cached_only_if_same :
    ((touchedRequest.scan plainDigests (tableAfter plainDigests [pilotRequest])).effort? = some .cached ∧
        lastProcessed? plainDigests (touchedRequest.key plainDigests) [pilotRequest] = some pilot ∧
          pilot.path = touchedRequest.file.path ∧ pilot.modified ≠ touchedRequest.file.modified) ∧
      (malformedRequest.scan plainDigests (tableAfter plainDigests [replacementRequest])).effort? = some .cached ∧
        malformedRequest.file.path ≠ replacementRequest.file.path := by
  have htouched : lastProcessed? plainDigests (touchedRequest.key plainDigests) [pilotRequest] = some pilot := by
    have hlast := @lastProcessed?_concat plainDigests (touchedRequest.key plainDigests) [] pilotRequest
    rw [if_pos ⟨cached_touchedRequest.1, rfl⟩] at hlast
    exact hlast
  exact ⟨⟨cached_touchedRequest.2, htouched, rfl, by decide⟩, cached_malformedRequest, by decide +kernel⟩

end MediaCatalog
