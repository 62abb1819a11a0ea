import Mathlib.Data.List.Perm.Basic
import MediaCatalog.Proofs.Scan.Releases

/-!
# The order of scans

The entries of sets are shared between files, and who comes first describes them. Still the order in which files
are scanned with the release backend does not show in the store: what a file writes into its own entry depends on that
entry only, and two files write the same into a set to which both belong.

* `SetAssociation.completed`: the fields of a set after a file has joined it; `ScanDraft.joinSet_of_described`.
* `Release.fieldsAfter`: the fields under a key after a scan, by the fields under that key and under the file's own
  (`Release.fieldsOf_scan`).
* `Release.scan_comm`: two scans commute.
* **Main result** (`tableFrom_perm`): a run of scans leaves the same table in every order.
-/

namespace MediaCatalog

/-! ## What joining a set writes -/

/-- The fields of a set's entry after a file has joined the set. A set without a name gets what describes it, and its
name; then the association adds its properties. Fields that the set has are kept. -/
def SetAssociation.completed (a : SetAssociation) (description fields : Fields) : Fields :=
  a.properties.union
    (if fields.contains nameField then fields else (Dict.empty.insert nameField a.name).union (description.union fields))

/-- Fields that keep those that are stored replace them when they are written. -/
theorem Dict.union_eq_right {α : Type} {d e : Dict α}
    (h : ∀ key value, d.get? key = some value → e.get? key = some value) : d.union e = e := by
  apply Dict.ext
  intro key
  rw [Dict.get?_union]
  cases hvalue : d.get? key with
  | none => exact Option.or_none
  | some value =>
    rw [h key value hvalue]
    rfl

/-- Completed fields keep those that there were. -/
theorem SetAssociation.get?_completed {a : SetAssociation} {description fields : Fields} {field value : String}
    (h : fields.get? field = some value) : (a.completed description fields).get? field = some value := by
  unfold completed
  split <;> simp only [Dict.get?_union, h, Option.some_or]

/-- **A record is completed** as `SetAssociation.completed` says, if the set can be described. -/
theorem SetRecord.enrich_of_described {r : SetRecord} {backend : Backend} {a : SetAssociation} {description : Fields}
    (hname : r.name = a.name) (hdescribe : backend.describe r.kind r.name = .ok description) :
    ∃ changed, r.enrich backend a =
      .ok (changed, { r with entry := ⟨r.entry.key, a.completed description r.entry.fields⟩ }) := by
  unfold enrich SetAssociation.completed
  cases hnew : r.isNew with
  | false =>
    have hnamed : r.entry.fields.contains nameField = true := by simpa [isNew, Entry.contains] using hnew
    rw [if_pos hnamed, completeAssociated, complete_eq]
    exact ⟨_, rfl⟩
  | true =>
    have hunnamed : ¬r.entry.fields.contains nameField = true := by simpa [isNew, Entry.contains] using hnew
    rw [if_neg hunnamed, ← hname]
    simp only [hdescribe, if_true, completeDescribed_eq, completeAssociated, complete_eq]
    exact ⟨_, rfl⟩

section join

variable {d : Digests} {backend : Backend} {description : String → String → Fields} {a : SetAssociation}

/-- The table with the entry of a set that a file has joined. -/
def Table.joined (d : Digests) (backend : Backend) (description : String → String → Fields) (t : Table)
    (a : SetAssociation) : Table :=
  t.write ⟨a.key d backend.name, a.completed (description a.kind a.name) (t.fieldsOf (a.key d backend.name))⟩

/-- The fields under a key after a file has joined a set. -/
def SetAssociation.completedAt (d : Digests) (backend : Backend) (description : String → String → Fields) (key : Key)
    (fields : Fields) (a : SetAssociation) : Fields :=
  if a.key d backend.name = key then a.completed (description a.kind a.name) fields else fields

/-- The entry of the set is completed, and no other changes. -/
theorem Table.fieldsOf_joined (t : Table) (key : Key) :
    (t.joined d backend description a).fieldsOf key = a.completedAt d backend description key (t.fieldsOf key) := by
  unfold joined SetAssociation.completedAt
  rw [Table.fieldsOf_write]
  split
  · next hkey =>
    subst hkey
    exact Dict.union_eq_right fun field value hvalue => a.get?_completed hvalue
  · rfl

/-- The same for one set after the other. -/
theorem Table.fieldsOf_foldl_joined (sets : List SetAssociation) (t : Table) (key : Key) :
    (sets.foldl (Table.joined d backend description) t).fieldsOf key =
      sets.foldl (SetAssociation.completedAt d backend description key) (t.fieldsOf key) := by
  induction sets generalizing t with
  | nil => rfl
  | cons a sets ih => rw [List.foldl_cons, ih, fieldsOf_joined, List.foldl_cons]

/-- Nothing changes if the set is complete. -/
theorem Table.joined_eq_self {t : Table} (h : a.completed (description a.kind a.name)
    (t.fieldsOf (a.key d backend.name)) = t.fieldsOf (a.key d backend.name)) :
    t.joined d backend description a = t := by
  apply Table.ext_of_fieldsOf
  intro key
  rw [fieldsOf_joined, SetAssociation.completedAt]
  split
  · next hkey => rw [← hkey, h]
  · rfl

namespace ScanDraft

variable {draft : ScanDraft} (haccess : draft.tx.access = .readWrite) (hdry : draft.tx.dryRun = false)
include haccess hdry

/-- **Joining a set** that can be described writes its entry, and nothing else. -/
theorem joinSet_of_described (hdescribe : backend.describe a.kind a.name = .ok (description a.kind a.name)) :
    ∃ record calls, record.entry.key = draft.record.entry.key ∧ draft.joinSet d backend a =
      .ok ⟨{ draft.tx with table := draft.tx.table.joined d backend description a }, record, calls⟩ := by
  obtain ⟨changed, henrich⟩ :=
    (SetRecord.load d.key draft.tx backend.name a.kind a.name).enrich_of_described rfl hdescribe
  simp only [joinSet, henrich]
  cases changed with
  | false =>
    rcases (SetRecord.load d.key draft.tx backend.name a.kind a.name).enrich_outcome backend a with
      ⟨-, cause, hcause, -⟩ | ⟨changed, after, henrich', hcompletes, -⟩
    · cases hdescribe.symm.trans hcause
    · cases henrich.symm.trans henrich'
      rw [Table.joined_eq_self (congrArg Entry.fields (hcompletes.unchanged rfl))]
      refine ⟨_, _, ?_, rfl⟩
      rfl
  | true =>
    rcases Transaction.put_spec hdry ⟨a.key d backend.name, a.completed (description a.kind a.name)
        (draft.tx.table.fieldsOf (a.key d backend.name))⟩ with ⟨hreadOnly, -⟩ | hput
    · cases haccess.symm.trans hreadOnly
    · have hload : (SetRecord.load d.key draft.tx backend.name a.kind a.name).entry =
          ⟨a.key d backend.name, draft.tx.table.fieldsOf (a.key d backend.name)⟩ := rfl
      simp only [hload, hput, if_true]
      refine ⟨_, _, ?_, rfl⟩
      rfl

/-- Joining sets writes their entries one after the other. -/
theorem joinSets_of_described (sets : List SetAssociation)
    (hdescribe : ∀ a ∈ sets, backend.describe a.kind a.name = .ok (description a.kind a.name)) :
    ∃ record calls, record.entry.key = draft.record.entry.key ∧ sets.foldlM (joinSet d backend) draft =
      .ok ⟨{ draft.tx with table := sets.foldl (Table.joined d backend description) draft.tx.table }, record, calls⟩ := by
  induction sets generalizing draft with
  | nil => exact ⟨_, _, rfl, rfl⟩
  | cons a sets ih =>
    obtain ⟨hfirst, hrest⟩ := List.forall_mem_cons.mp hdescribe
    obtain ⟨record, calls, hkey, hjoin⟩ := joinSet_of_described (d := d) haccess hdry hfirst
    obtain ⟨record', calls', hkey', hjoins⟩ := @ih
      ⟨{ draft.tx with table := draft.tx.table.joined d backend description a }, record, calls⟩ haccess hdry hrest
    refine ⟨record', calls', hkey'.trans hkey, ?_⟩
    rw [List.foldlM_cons, hjoin]
    exact hjoins

/-- So does showing the file to a backend that can describe the sets with which it associates the file. -/
theorem askBackend_of_described {file : FileInfo} {contentId : String} {contribution : Contribution}
    (hprocess : backend.process file contentId = .ok contribution)
    (hdescribe : ∀ a ∈ contribution.sets, backend.describe a.kind a.name = .ok (description a.kind a.name)) :
    ∃ record calls, record.entry.key = draft.record.entry.key ∧ draft.askBackend d file contentId backend =
      .ok ⟨{ draft.tx with table := contribution.sets.foldl (Table.joined d backend description) draft.tx.table },
        record, calls⟩ := by
  simp only [askBackend, hprocess]
  exact @joinSets_of_described d backend description ⟨draft.tx, draft.record.apply contribution.properties, _⟩ haccess hdry
    contribution.sets hdescribe

end ScanDraft

/-- **Processing a file** with a backend that can describe its sets completes the entries of these sets, one after
the other; apart from the file's own entry it changes nothing else. -/
theorem fieldsOf_processFile {files : FileTree} {store : Store} {file : FileInfo} {contentId : String}
    {contribution : Contribution} (hopen : store.isOpen = true) (haccess : store.access = .readWrite)
    (hdry : store.dryRun = false) (hcontent : files.contentId d file.path = .ok contentId)
    (hprocess : backend.process file contentId = .ok contribution)
    (hdescribe : ∀ a ∈ contribution.sets, backend.describe a.kind a.name = .ok (description a.kind a.name)) {key : Key}
    (hkey : key ≠ Key.file d.key file.pathText) :
    (processFile d files [backend] store file).store.table.fieldsOf key =
      contribution.sets.foldl (SetAssociation.completedAt d backend description key) (store.table.fieldsOf key) := by
  obtain ⟨record, calls, hentry, hask⟩ := @ScanDraft.askBackend_of_described d backend description
    (.begun d ⟨store.table, store.access, store.dryRun⟩ file contentId) haccess hdry _ _ _ hprocess hdescribe
  unfold ScanDraft.begun at hentry hask
  have hasked : [backend].foldlM (ScanDraft.askBackend d file contentId)
      ⟨⟨store.table, store.access, store.dryRun⟩,
        (FileRecord.load d.key ⟨store.table, store.access, store.dryRun⟩ file).describe file contentId, []⟩ =
      .ok ⟨⟨contribution.sets.foldl (Table.joined d backend description) store.table, store.access, store.dryRun⟩,
        record, calls⟩ := by
    rw [List.foldlM_cons, hask]
    rfl
  have hother : record.entry.key ≠ key := by
    rw [hentry]
    exact hkey.symm
  unfold processFile
  simp only [hcontent, Store.begin_of_open hopen, hasked]
  rcases @Transaction.put_spec
      ⟨contribution.sets.foldl (Table.joined d backend description) store.table, store.access, store.dryRun⟩
      hdry record.entry with ⟨hreadOnly, -⟩ | hput
  · cases haccess.symm.trans hreadOnly
  · simp only [hput, Store.commit]
    rw [Table.fieldsOf_write, if_neg hother, Table.fieldsOf_foldl_joined]

end join

/-! ## Files with release names -/

namespace Release

/-- The set that a part makes. -/
def Part.association (r : Release) : Part → SetAssociation
  | title => ⟨r.title, titleKind, Dict.empty.insert "title" r.title⟩
  | group => ⟨r.group, groupKind, Dict.empty⟩

/-- The set depends on nothing but the part. -/
theorem Part.association_congr {r r' : Release} {part : Part} (h : part.name r = part.name r') :
    part.association r = part.association r' := by
  cases part with
  | title =>
    have htitle : r.title = r'.title := h
    rw [association, association, htitle]
  | group =>
    have hgroup : r.group = r'.group := h
    rw [association, association, hgroup]

/-- Keys are those of the same part and of names with one digest. -/
theorem Part.eq_of_key {d : Digests} {r r' : Release} {part part' : Part} (h : part.key d r = part'.key d r') :
    part = part' ∧ d.key (part.name r) = d.key (part'.name r') := by
  have hkind : ∀ part : Part, ':' ∉ part.kind.toList := by
    intro part
    cases part <;> decide
  have htexts := congrArg Key.text h
  simp only [key, Key.set_text, String.append_assoc, String.append_right_inj] at htexts
  have hchars : part.kind.toList ++ ':' :: (d.key (part.name r)).toList =
      part'.kind.toList ++ ':' :: (d.key (part'.name r')).toList := by
    simpa using congrArg String.toList htexts
  obtain ⟨hkinds, hdigests⟩ := eq_of_append_separator (hkind part) (hkind part') hchars
  exact ⟨kind_injective (String.toList_injective hkinds), String.toList_injective hdigests⟩

/-- The fields under a key after a file with this name has joined its sets. -/
def completedBy (d : Digests) (file : FileInfo) (key : Key) (fields : Fields) : Fields :=
  (contribution file).sets.foldl (SetAssociation.completedAt d backend description key) fields

/-- The set of a part is completed under its key. -/
theorem Part.completedAt_association (d : Digests) (r : Release) (part : Part) (key : Key) (fields : Fields) :
    (part.association r).completedAt d backend Release.description key fields =
      if part.key d r = key then (part.association r).completed (Release.description part.kind (part.name r)) fields
      else fields := by
  cases part <;> rfl

/-- A file without a release name joins no set, any other the sets of its title and its group. -/
theorem completedBy_eq (d : Digests) (file : FileInfo) (key : Key) (fields : Fields) :
    completedBy d file key fields =
      match ofFile? file with
      | none => fields
      | some r => (Part.group.association r).completedAt d backend description key
          ((Part.title.association r).completedAt d backend description key fields) := by
  unfold completedBy contribution ofFile?
  cases ofStem? (file.stem?.getD "") <;> rfl

/-- A file joins at most one set with a key. -/
theorem completedBy_cases (d : Digests) (file : FileInfo) (key : Key) :
    (∀ fields, completedBy d file key fields = fields) ∨
      ∃ r part, ofFile? file = some r ∧ Part.key d r part = key ∧ ∀ fields, completedBy d file key fields =
        (part.association r).completed (description part.kind (part.name r)) fields := by
  simp only [completedBy_eq]
  cases ofFile? file with
  | none => exact .inl fun _ => rfl
  | some r =>
    simp only [Part.completedAt_association]
    by_cases htitle : Part.title.key d r = key
    · have hgroup : Part.group.key d r ≠ key := by
        intro hgroup
        cases (Part.eq_of_key (htitle.trans hgroup.symm)).1
      refine .inr ⟨r, .title, rfl, htitle, fun fields => ?_⟩
      rw [if_neg hgroup, if_pos htitle]
    · by_cases hgroup : Part.group.key d r = key
      · refine .inr ⟨r, .group, rfl, hgroup, fun fields => ?_⟩
        rw [if_pos hgroup, if_neg htitle]
      · refine .inl fun fields => ?_
        rw [if_neg hgroup, if_neg htitle]

variable {d : Digests}

/-- **Two files** complete the entries of sets in either order. -/
theorem completedBy_comm {file file' : FileInfo} {texts : Set String} (hdigest : Set.InjOn d.key texts)
    (htexts : ∀ r, ofFile? file = some r → ∀ part : Part, part.name r ∈ texts)
    (htexts' : ∀ r, ofFile? file' = some r → ∀ part : Part, part.name r ∈ texts) (key : Key) (fields : Fields) :
    completedBy d file key (completedBy d file' key fields) =
      completedBy d file' key (completedBy d file key fields) := by
  rcases completedBy_cases d file key with hnone | ⟨r, part, hr, hkey, hcompleted⟩
  · rw [hnone, hnone]
  · rcases completedBy_cases d file' key with hnone' | ⟨r', part', hr', hkey', hcompleted'⟩
    · rw [hnone', hnone']
    · -- both belong to one set, and complete it alike
      obtain ⟨rfl, hsame⟩ := Part.eq_of_key (hkey.trans hkey'.symm)
      have hname := hdigest (htexts r hr part) (htexts' r' hr' part) hsame
      rw [hcompleted, hcompleted', hcompleted, hcompleted', Part.association_congr hname, hname]

/-- The fields under a key after a scan with the release backend; `own` are those that the file's own entry had
before. -/
def fieldsAfter (d : Digests) (q : ScanRequest) (own : Fields) (key : Key) (fields : Fields) : Fields :=
  match q.files.contentId d q.file.path with
  | .error _ => fields
  | .ok contentId =>
    if q.force = false ∧ FileRecord.isUnchanged ⟨⟨q.key d, own⟩⟩ q.file = true then fields
    else if key = q.key d then
      fields.insertMany (q.file.pairs contentId ++ ((contribution q.file).properties.toList ++
        (contribution q.file).sets.map (SetAssociation.link d backendName)))
    else completedBy d q.file key fields

/-- A scan with the release backend of a store that can be used and written. -/
structure Asks (q : ScanRequest) : Prop where
  backends : q.backends = [backend]
  isOpen : q.isOpen = true
  access : q.access = .readWrite

/-- **What a scan writes** under a key depends on what is there, and on the file's own entry. -/
theorem fieldsOf_scan {q : ScanRequest} (hq : Asks q) (table : Table) (key : Key) :
    (q.scan d table).store.table.fieldsOf key = fieldsAfter d q (table.fieldsOf (q.key d)) key (table.fieldsOf key) := by
  have hrelease : ∀ b ∈ q.backends, b = backend := by simp [hq.backends]
  unfold fieldsAfter
  cases hcontent : q.files.contentId d q.file.path with
  | error cause =>
    rw [ScanRequest.table_of_not_processed]
    intro hprocessed
    obtain ⟨contentId, -, hcontent', -⟩ := ScanRequest.stores_of_processed hprocessed
    cases hcontent.symm.trans hcontent'
  | ok contentId =>
    have heffort := effort?_scan (d := d) hrelease hq.isOpen hq.access hcontent table
    by_cases hcached : q.force = false ∧ FileRecord.isUnchanged ⟨table.entryFor (q.key d)⟩ q.file = true
    · rw [if_pos hcached] at heffort
      have hnot : (q.scan d table).effort? ≠ some .processed := by simp [heffort]
      rw [ScanRequest.table_of_not_processed hnot]
      exact (if_pos hcached).symm
    · rw [if_neg hcached] at heffort
      refine Eq.trans ?_ (if_neg hcached).symm
      by_cases hkey : key = q.key d
      · obtain ⟨contentId', found, hcontent', hfound, hstores⟩ := ScanRequest.stores_of_processed heffort
        cases hcontent.symm.trans hcontent'
        rw [hq.backends] at hfound
        obtain ⟨f, rfl, hf⟩ := List.map_eq_singleton_iff.mp hfound
        have hfields := hstores.fields
        rw [List.flatMap_singleton] at hfields
        rw [if_pos hkey, hkey, ← pairs_eq hf]
        exact hfields
      · have hscan : (q.scan d table).store = (processFile d q.files q.backends (q.storeOn table) q.file).store := by
          unfold ScanRequest.scan
          rw [@scanFile_of_open d q.files q.backends (q.storeOn table) q.file hq.isOpen]
          exact (congrArg ScanResult.store (if_neg hcached)).trans rfl
        rw [if_neg hkey, hscan, hq.backends]
        have hopen : (q.storeOn table).isOpen = true := hq.isOpen
        exact fieldsOf_processFile hopen hq.access rfl hcontent rfl (fun _ _ => rfl) hkey

/-- Under any other key than the file's own, the sets are completed or nothing is done. -/
theorem fieldsAfter_cases {q : ScanRequest} (own : Fields) {key : Key} (hkey : key ≠ q.key d) :
    (∀ fields, fieldsAfter d q own key fields = fields) ∨
      ∀ fields, fieldsAfter d q own key fields = completedBy d q.file key fields := by
  unfold fieldsAfter
  cases q.files.contentId d q.file.path with
  | error cause => exact .inl fun _ => rfl
  | ok contentId =>
    by_cases hcached : q.force = false ∧ FileRecord.isUnchanged ⟨⟨q.key d, own⟩⟩ q.file = true
    · exact .inl fun fields => if_pos hcached
    · exact .inr fun fields => (if_neg hcached).trans (if_neg hkey)

/-- Under the key of another file nothing changes. -/
theorem fieldsAfter_of_file {q : ScanRequest} {path : String} (h : Key.file d.key path ≠ q.key d)
    (own fields : Fields) :
    fieldsAfter d q own (Key.file d.key path) fields = fields := by
  rcases fieldsAfter_cases own h with hnone | hcompleted
  · exact hnone fields
  · rcases completedBy_cases d q.file (Key.file d.key path) with hnone | ⟨r, part, -, hkey, -⟩
    · rw [hcompleted, hnone]
    · exact absurd hkey.symm (Key.file_ne_set _ _ _ _ _)

/-- The texts that are digested for the keys of a file and of its sets. -/
def digested (q : ScanRequest) : Set String :=
  {text | text = q.file.pathText ∨ ∃ r, ofFile? q.file = some r ∧ ∃ part : Part, text = part.name r}

/-- **Two scans commute**: of files with different paths, where digests differ. -/
theorem scan_comm {q q' : ScanRequest} (hq : Asks q) (hq' : Asks q') (hpath : q.file.pathText ≠ q'.file.pathText)
    {texts : Set String} (hdigest : Set.InjOn d.key texts) (htexts : digested q ⊆ texts) (htexts' : digested q' ⊆ texts)
    (table : Table) :
    (q'.scan d (q.scan d table).store.table).store.table = (q.scan d (q'.scan d table).store.table).store.table := by
  have hkeys : q.key d ≠ q'.key d := by
    intro hsame
    exact hpath (Key.injOn_file hdigest (htexts (.inl rfl)) (htexts' (.inl rfl)) hsame)
  have hown : ∀ own fields, fieldsAfter d q own (q'.key d) fields = fields := fieldsAfter_of_file hkeys.symm
  have hown' : ∀ own fields, fieldsAfter d q' own (q.key d) fields = fields := fieldsAfter_of_file hkeys
  apply Table.ext_of_fieldsOf
  intro key
  rw [fieldsOf_scan hq', fieldsOf_scan hq, fieldsOf_scan hq, fieldsOf_scan hq, fieldsOf_scan hq', fieldsOf_scan hq',
    hown, hown']
  by_cases hkey : key = q.key d
  · rw [hkey, hown', hown']
  · by_cases hkey' : key = q'.key d
    · rw [hkey', hown, hown]
    · rcases fieldsAfter_cases (table.fieldsOf (q.key d)) hkey with hnone | hcompleted
      · rw [hnone, hnone]
      · rcases fieldsAfter_cases (table.fieldsOf (q'.key d)) hkey' with hnone' | hcompleted'
        · rw [hnone', hnone']
        · rw [hcompleted, hcompleted', hcompleted, hcompleted']
          exact completedBy_comm hdigest (fun r hr part => htexts' (.inr ⟨r, hr, part, rfl⟩))
            (fun r hr part => htexts (.inr ⟨r, hr, part, rfl⟩)) key _

end Release

/-! ## Runs in any order -/

/-- What is committed after a run of scans on a table. -/
def tableFrom (d : Digests) (table : Table) (run : List ScanRequest) : Table :=
  run.foldl (fun table q => (q.scan d table).store.table) table

/-- **The order of scans does not matter** to what is committed: of files with different paths, with the release
backend, on a store that can be used and written, whatever it holds. -/
theorem tableFrom_perm {d : Digests} {run run' : List ScanRequest} (hperm : run.Perm run')
    (hrelease : ∀ q ∈ run, Release.Asks q) (hpaths : (run.map fun q => q.file.pathText).Nodup)
    (hdigest : Set.InjOn d.key (⋃ q ∈ run, Release.digested q)) (table : Table) :
    tableFrom d table run = tableFrom d table run' := by
  apply hperm.foldl_eq'
  intro q hq q' hq' table
  by_cases hsame : q = q'
  · rw [hsame]
  · have hpath : q.file.pathText ≠ q'.file.pathText := fun heq => hsame (List.inj_on_of_nodup_map hpaths hq hq' heq)
    exact Release.scan_comm (hrelease q hq) (hrelease q' hq') hpath hdigest (Set.subset_biUnion_of_mem hq)
      (Set.subset_biUnion_of_mem hq') table

/-- A scan of the only file of a tree. -/
def episodeRequest (name : String) : ScanRequest :=
  ⟨.onlyFile (.ofText name) ⟨1, ⟨#[1]⟩, true, 0⟩, [Release.backend], .readWrite, true, false,
    ⟨.ofText ("/" ++ name), 1, 0⟩⟩

/-- Two episodes of a title of which a set is stored that was never described. -/
theorem tableFrom_perm_of_two_episodes :
    (∀ q ∈ [episodeRequest "[Fans] Pilot - 1.mkv", episodeRequest "[Fans] Pilot - 2.mkv"], Release.Asks q) ∧
      ([episodeRequest "[Fans] Pilot - 1.mkv", episodeRequest "[Fans] Pilot - 2.mkv"].map
        fun q => q.file.pathText).Nodup ∧
      tableFrom plainDigests
          (Table.empty.write ⟨Key.set id "release" "anime" "Pilot", Dict.ofList [("title", "Pilot (2008)")]⟩)
          [episodeRequest "[Fans] Pilot - 1.mkv", episodeRequest "[Fans] Pilot - 2.mkv"] =
        tableFrom plainDigests
          (Table.empty.write ⟨Key.set id "release" "anime" "Pilot", Dict.ofList [("title", "Pilot (2008)")]⟩)
          [episodeRequest "[Fans] Pilot - 2.mkv", episodeRequest "[Fans] Pilot - 1.mkv"] := by
  have hrelease : ∀ q ∈ [episodeRequest "[Fans] Pilot - 1.mkv", episodeRequest "[Fans] Pilot - 2.mkv"],
      Release.Asks q := by
    intro q hq
    rcases List.mem_cons.mp hq with rfl | hq
    · exact ⟨rfl, rfl, rfl⟩
    · obtain rfl := List.mem_singleton.mp hq
      exact ⟨rfl, rfl, rfl⟩
  have hpaths : ([episodeRequest "[Fans] Pilot - 1.mkv", episodeRequest "[Fans] Pilot - 2.mkv"].map
      fun q => q.file.pathText).Nodup := by decide +kernel
  exact ⟨hrelease, hpaths, tableFrom_perm (List.Perm.swap _ _ _) hrelease hpaths Function.injective_id.injOn _⟩

end MediaCatalog
