import MediaCatalog.Proofs.Backend.Release
import MediaCatalog.Proofs.Scan.CoreFields
import MediaCatalog.Proofs.Scan.SetNames

/-!
# Releases over a run of scans

A file with a release name is linked to the set of its title and to that of its group. What its entry says
in text and what its links lead to is the same, after every run of scans with the release backend.

* `Release.ofFile?`: what the name of a file says.
* `Release.Part`: title and group, the parts of a release name that make sets; `Release.Part.eq_of_key_eq`.
* `Release.RecordedIn`: what a scan records of a file with a release name (`Release.recordedIn_scan`), if it
  touches anything of it (`Release.recorded_or_same`).
* `Table.HoldsReleases`: a table in which files and sets fit together.
* **Main result** (`holdsReleases_after_run`): they do after every run of scans with the release backend.
-/

namespace MediaCatalog

namespace Release

/-! ## What is recorded of a file -/

/-- What the name of a file says, if it is that of a release. -/
def ofFile? (file : FileInfo) : Option Release := ofStem? (file.stem?.getD "")

/-- The parts of a release name that make sets. -/
inductive Part where
  | title
  | group
  deriving DecidableEq

namespace Part

/-- The kind of the sets that a part makes, and the field of the links to them. -/
def kind : Part → String
  | title => titleKind
  | group => groupKind

/-- The field of a file in which the part stands. -/
def field : Part → String
  | title => "title"
  | group => "group_name"

/-- What the part is in a release name. -/
def name (r : Release) : Part → String
  | title => r.title
  | group => r.group

/-- The key of the set that the part makes. -/
def key (d : Digests) (r : Release) (part : Part) : Key := Key.set d.key backendName part.kind (part.name r)

/-- Different parts make different kinds of sets. -/
theorem kind_injective : Function.Injective kind := by
  intro part part' h
  cases part <;> cases part' <;> first | rfl | exact absurd h (by decide)

end Part

/-- An entry has the part of a release of which it is. -/
theorem DescribedIn.part {r : Release} {e : Entry} (h : r.DescribedIn e) (part : Part) :
    e.get? part.field = some (part.name r) := by
  cases part with
  | title => exact h.title
  | group => exact h.group

/-- An entry says what a release name says, and has the links to both sets. -/
structure RecordedIn (d : Digests) (r : Release) (e : Entry) : Prop extends r.DescribedIn e where
  link : ∀ part : Part, e.get? part.kind = some (part.key d r).text

/-- The fields of an entry that say of which release it is. -/
def recordFields : List String := ["title", "episode", "group_name", titleKind, groupKind]

/-- The links are among them. -/
theorem Part.kind_mem_recordFields (part : Part) : part.kind ∈ recordFields := by
  cases part <;> decide

/-- Two entries that agree in these fields are of the same release. -/
theorem RecordedIn.congr {d : Digests} {r : Release} {e e' : Entry} (h : r.RecordedIn d e)
    (hsame : ∀ field ∈ recordFields, e'.get? field = e.get? field) : r.RecordedIn d e' where
  title := (hsame "title" (by decide)).trans h.title
  episode := (hsame "episode" (by decide)).trans h.episode
  group := (hsame "group_name" (by decide)).trans h.group
  link part := (hsame part.kind part.kind_mem_recordFields).trans (h.link part)

/-- The properties that every release name has. -/
theorem get?_properties_of_mem {r : Release} {extension : Option String} {field value : String}
    (h : (field, value) ∈ [("title", r.title), ("episode", r.episode), ("group_name", r.group)]) :
    (r.properties extension).get? field = some value := by
  unfold properties Dict.ofList
  apply Dict.get?_insertMany_of_agree
  · simp only [List.mem_append]
    exact .inl (.inl (.inl (.inl h)))
  · intro pair hpair hfield
    simp only [List.mem_append, List.mem_cons, List.not_mem_nil, or_false, Option.mem_toList,
      Option.map_eq_some_iff, Prod.mk.injEq] at hpair h
    grind

variable {d : Digests} {file : FileInfo} {contentId : String}

/-- What the release backend adds to the entry of a file. -/
theorem pairs_eq {f : Finding file contentId} (hbackend : f.backend = backend) :
    f.pairs d = (contribution file).properties.toList ++
      (contribution file).sets.map (SetAssociation.link d backendName) := by
  obtain ⟨b, found, hprocessed⟩ := f
  subst hbackend
  obtain rfl : contribution file = found := Except.ok.inj hprocessed
  rfl

/-- The pairs that the release backend adds to the entry of a file with a release name. -/
theorem mem_pairs_iff {f : Finding file contentId} (hbackend : f.backend = backend) {r : Release}
    (hr : ofFile? file = some r) {field value : String} :
    (field, value) ∈ f.pairs d ↔ (r.properties file.extension?).get? field = some value ∨
      ∃ part : Part, (field, value) = (part.kind, (part.key d r).text) := by
  have hcontribution : contribution file = ⟨r.properties file.extension?, r.sets⟩ := by
    unfold ofFile? at hr
    simp [contribution, hr]
  rw [pairs_eq hbackend, hcontribution, List.mem_append, Dict.mem_toList_iff]
  have hlinks : (field, value) ∈ r.sets.map (SetAssociation.link d backendName) ↔
      ∃ part : Part, (field, value) = (part.kind, (part.key d r).text) := by
    constructor
    · intro hmem
      rcases List.mem_cons.mp hmem with h | h
      · exact ⟨.title, h⟩
      · exact ⟨.group, List.mem_singleton.mp h⟩
    · rintro ⟨part, h⟩
      rw [h]
      cases part with
      | title => exact List.mem_cons_self
      | group => exact List.mem_cons_of_mem _ List.mem_cons_self
  rw [hlinks]

/-- The release backend adds nothing to the entry of any other file. -/
theorem pairs_eq_nil {f : Finding file contentId} (hbackend : f.backend = backend) (hr : ofFile? file = none) :
    f.pairs d = [] := by
  unfold ofFile? at hr
  rw [pairs_eq hbackend]
  simp [contribution, hr, Contribution.none, Dict.empty]

/-- What a scan says of the file itself is not about its release. -/
theorem fst_not_mem_recordFields {pair : String × String} (h : pair ∈ file.pairs contentId) : pair.1 ∉ recordFields := by
  have hapart : ∀ field ∈ coreFields, field ∉ recordFields := by decide
  exact hapart pair.1 (FileInfo.fst_mem_coreFields h)

/-- **What the release backend says** of a file is stored, as often as it is asked. -/
theorem get?_insertMany_of_said {found : List (Finding file contentId)} (hfound : ∀ f ∈ found, f.backend = backend)
    (hne : found ≠ []) {r : Release} (hr : ofFile? file = some r) (e : Entry) {field value : String}
    (hfield : field ∉ coreFields) (hsaid : (r.properties file.extension?).get? field = some value ∨
      ∃ part : Part, (field, value) = (part.kind, (part.key d r).text)) :
    (e.fields.insertMany (file.pairs contentId ++ found.flatMap (Finding.pairs d))).get? field = some value := by
  -- properties and links have different names
  have hproperty : ∀ part : Part, (r.properties file.extension?).get? part.kind = none := by
    intro part
    apply get?_properties
    cases part <;> decide
  apply Dict.get?_insertMany_of_agree
  · obtain ⟨f, hf⟩ := List.exists_mem_of_ne_nil found hne
    apply List.mem_append_right
    exact List.mem_flatMap.mpr ⟨f, hf, (mem_pairs_iff (hfound f hf) hr).mpr hsaid⟩
  · intro pair hpair hsame
    subst hsame
    rcases List.mem_append.mp hpair with hcore | hmem
    · exact absurd (FileInfo.fst_mem_coreFields hcore) hfield
    · obtain ⟨f, hf, hpair⟩ := List.mem_flatMap.mp hmem
      rcases hsaid with hvalue | ⟨part, hlink⟩ <;>
        rcases (mem_pairs_iff (hfound f hf) hr).mp hpair with hvalue' | ⟨part', hlink'⟩
      · exact Option.some.inj (hvalue'.symm.trans hvalue)
      · rw [(Prod.mk.inj hlink').1, hproperty part'] at hvalue
        cases hvalue
      · rw [(Prod.mk.inj hlink).1, hproperty part] at hvalue'
        cases hvalue'
      · obtain ⟨hkind, rfl⟩ := Prod.mk.inj hlink
        obtain ⟨hkind', hvalue'⟩ := Prod.mk.inj hlink'
        obtain rfl := Part.kind_injective (hkind.symm.trans hkind')
        exact hvalue'

/-- So it is stored of which release the file is. -/
theorem recordedIn_insertMany {found : List (Finding file contentId)} (hfound : ∀ f ∈ found, f.backend = backend)
    (hne : found ≠ []) {r : Release} (hr : ofFile? file = some r) (e : Entry) :
    r.RecordedIn d ⟨e.key, e.fields.insertMany (file.pairs contentId ++ found.flatMap (Finding.pairs d))⟩ where
  title := get?_insertMany_of_said hfound hne hr e (by decide) (.inl (get?_properties_of_mem (by simp)))
  episode := get?_insertMany_of_said hfound hne hr e (by decide) (.inl (get?_properties_of_mem (by simp)))
  group := get?_insertMany_of_said hfound hne hr e (by decide) (.inl (get?_properties_of_mem (by simp)))
  link part := get?_insertMany_of_said hfound hne hr e (by cases part <;> decide) (.inr ⟨part, rfl⟩)

/-- Where nothing is found of a file, nothing that is recorded of a release is touched. -/
theorem get?_insertMany_of_pairs_eq_nil {found : List (Finding file contentId)}
    (hnil : found.flatMap (Finding.pairs d) = []) (e : Entry) {field : String} (hfield : field ∈ recordFields) :
    (e.fields.insertMany (file.pairs contentId ++ found.flatMap (Finding.pairs d))).get? field = e.get? field := by
  rw [hnil, List.append_nil]
  apply Dict.get?_insertMany_of_absent
  rintro pair hpair rfl
  exact fst_not_mem_recordFields hpair hfield

/-- **A file that is stored** is recorded with its release, or nothing that is recorded of a release is
touched. -/
theorem recorded_or_same {found : List (Finding file contentId)} (hfound : ∀ f ∈ found, f.backend = backend) (e : Entry) :
    (found ≠ [] ∧ ∃ r, ofFile? file = some r ∧
        r.RecordedIn d ⟨e.key, e.fields.insertMany (file.pairs contentId ++ found.flatMap (Finding.pairs d))⟩) ∨
      ∀ field ∈ recordFields,
        (e.fields.insertMany (file.pairs contentId ++ found.flatMap (Finding.pairs d))).get? field = e.get? field := by
  cases hr : ofFile? file with
  | none =>
    right
    intro field hfield
    apply get?_insertMany_of_pairs_eq_nil _ e hfield
    apply List.flatMap_eq_nil_iff.mpr
    intro f hf
    exact pairs_eq_nil (hfound f hf) hr
  | some r =>
    by_cases hne : found = []
    · right
      intro field hfield
      apply get?_insertMany_of_pairs_eq_nil _ e hfield
      rw [hne, List.flatMap_nil]
    · exact .inl ⟨hne, r, rfl, recordedIn_insertMany hfound hne hr e⟩

/-- The release backend never fails. -/
theorem not_failsOn : ¬backend.FailsOn file contentId := by
  rintro (⟨cause, h⟩ | ⟨contribution, -, a, -, cause, h⟩)
  · cases h
  · cases h

/-- **A scan with the release backend** does not fail on a file that can be identified, where the database
can be used and written. -/
theorem effort?_scan {q : ScanRequest} (hrelease : ∀ b ∈ q.backends, b = backend) (hopen : q.isOpen = true)
    (haccess : q.access = .readWrite) (hcontent : q.files.contentId d q.file.path = .ok contentId) (table : Table) :
    (q.scan d table).effort? = some
      (if q.force = false ∧ FileRecord.isUnchanged ⟨table.entryFor (q.key d)⟩ q.file = true then .cached else .processed) := by
  unfold ScanRequest.scan
  rw [@scanFile_of_open d q.files q.backends (q.storeOn table) q.file hopen]
  by_cases hcached : q.force = false ∧ FileRecord.isUnchanged ⟨table.entryFor (q.key d)⟩ q.file = true
  · rw [if_pos hcached]
    exact congrArg ScanResult.effort? (if_pos hcached)
  · rw [if_neg hcached]
    refine (congrArg ScanResult.effort? (if_neg hcached)).trans ?_
    rw [ScanResult.effort?_mapError]
    rcases @processFile_spec d q.files q.backends (q.storeOn table) q.file rfl with
      ⟨failure, calls, -, hreason⟩ | ⟨contentId', found, table', calls, hdone, -⟩
    · cases hreason with
      | closed h => exact absurd (h.symm.trans hopen) (by decide)
      | readOnly h => exact absurd (h.symm.trans haccess) (by decide)
      | unidentified cause h =>
        rw [hcontent] at h
        cases h
      | backend contentId' _ b hb hfails =>
        rw [hrelease b hb] at hfails
        exact absurd hfails not_failsOn
    · rw [hdone]
      rfl

/-- **A file that is processed** with the release backend is recorded with its release and with what its name
says besides. -/
theorem recordedIn_scan {q : ScanRequest} {table : Table} (hrelease : ∀ b ∈ q.backends, b = backend) (hasked : q.backends ≠ [])
    {r : Release} (hr : ofFile? q.file = some r) (hprocessed : (q.scan d table).effort? = some .processed) :
    r.RecordedIn d ((q.scan d table).store.table.entryFor (q.key d)) ∧
      ∀ field value, field ∉ coreFields → (r.properties q.file.extension?).get? field = some value →
        ((q.scan d table).store.table.entryFor (q.key d)).get? field = some value := by
  obtain ⟨contentId, found, -, hfound, hstores⟩ := ScanRequest.stores_of_processed hprocessed
  have hbackends : ∀ f ∈ found, f.backend = backend := by
    rw [← hfound] at hrelease
    exact List.forall_mem_map.mp hrelease
  have hne : found ≠ [] := by
    rintro rfl
    exact hasked hfound.symm
  have hentry : (q.scan d table).store.table.entryFor (q.key d) = ⟨q.key d, (table.fieldsOf (q.key d)).insertMany
      (q.file.pairs contentId ++ found.flatMap (Finding.pairs d))⟩ := congrArg (Entry.mk _) hstores.fields
  rw [hentry]
  refine ⟨recordedIn_insertMany hbackends hne hr (table.entryFor (q.key d)), ?_⟩
  intro field value hfield hvalue
  exact get?_insertMany_of_said hbackends hne hr (table.entryFor (q.key d)) hfield (.inl hvalue)

/-! ## Names of sets -/

/-- The names of the sets to which releases belong. -/
def setNames (known : Set Release) : Set String := {name | ∃ r ∈ known, ∃ part : Part, name = part.name r}

/-- A name is that of the set of a title or a group. -/
def NamesSet (d : Digests) (known : Set Release) (key : Key) (name : String) : Prop :=
  ∃ r ∈ known, ∃ part : Part, key = part.key d r ∧ name = part.name r

section keys

variable {known : Set Release} {r : Release} (hdigest : d.key.Separates (setNames known)) (hr : r ∈ known)
include hdigest hr

/-- **Releases with one set** have the same in the part that makes the set. -/
theorem Part.eq_of_key_eq {r' : Release} (hr' : r' ∈ known) {part part' : Part} (h : part.key d r = part'.key d r') :
    part = part' ∧ part.name r = part'.name r' := by
  obtain ⟨-, hkind, hname⟩ :=
    Key.eq_of_set hdigest (by decide) (by decide) ⟨r, hr, part, rfl⟩ ⟨r', hr', part', rfl⟩ h
  exact ⟨Part.kind_injective hkind, hname⟩

/-- The set of a title or a group has no other name. -/
theorem NamesSet.eq_name {part : Part} {name : String} (h : NamesSet d known (part.key d r) name) : name = part.name r := by
  obtain ⟨r', hr', part', hkey, rfl⟩ := h
  exact (Part.eq_of_key_eq hdigest hr hr' hkey).2.symm

end keys

/-- The release backend names a set as a release does. -/
theorem namesAllowed_backend {known : Set Release} (hknown : ∀ r, ofFile? file = some r → r ∈ known) :
    backend.NamesAllowed d (NamesSet d known) file := by
  intro contentId found hprocess a ha
  obtain rfl : contribution file = found := Except.ok.inj hprocess
  unfold ofFile? at hknown
  unfold contribution at ha
  split at ha
  · next r hr =>
    simp only [sets, List.mem_cons, List.not_mem_nil, or_false] at ha
    rcases ha with rfl | rfl
    · exact ⟨r, hknown r hr, .title, rfl, rfl⟩
    · exact ⟨r, hknown r hr, .group, rfl, rfl⟩
  · cases ha

/-- The release backend associates a file with the sets of its title and its group. -/
theorem setKeys_backend {r : Release} (hr : ofFile? file = some r) :
    backend.setKeys d file contentId = [Part.title.key d r, Part.group.key d r] := by
  unfold ofFile? at hr
  have hprocess : backend.process file contentId = .ok ⟨r.properties file.extension?, r.sets⟩ := by
    simp [backend, contribution, hr]
  unfold Backend.setKeys
  rw [hprocess]
  rfl

/-- A scan of a file with a release name joins the sets of its title and its group. -/
theorem key_mem_joinedKeys {q : ScanRequest} (hasked : backend ∈ q.backends)
    (hcontent : q.files.contentId d q.file.path = .ok contentId) {r : Release} (hr : ofFile? q.file = some r) (part : Part) :
    part.key d r ∈ q.joinedKeys d := by
  unfold ScanRequest.joinedKeys MediaCatalog.joinedKeys
  rw [hcontent]
  refine List.mem_flatMap.mpr ⟨backend, hasked, ?_⟩
  rw [setKeys_backend hr]
  cases part with
  | title => exact List.mem_cons_self
  | group => exact List.mem_cons_of_mem _ List.mem_cons_self

end Release

/-! ## Tables -/

/-- A file is linked to no sets, or it is recorded with a release whose sets are stored under their names. -/
def Table.LinksFile (d : Digests) (known : Set Release) (t : Table) (e : Entry) : Prop :=
  (∀ part : Release.Part, e.get? part.kind = none) ∨
    ∃ r ∈ known, r.RecordedIn d e ∧
      ∀ part : Release.Part, (t.fieldsOf (part.key d r)).get? nameField = some (part.name r)

/-- A table in which files and sets fit together. -/
structure Table.HoldsReleases (d : Digests) (known : Set Release) (t : Table) : Prop where
  stored : ∀ key, (t.fieldsOf key).isEmpty = false → key.isSet = true ∨ ∃ path, key = Key.file d.key path
  sets : ∀ key, key.isSet = true → (t.fieldsOf key).isEmpty = false →
    ∃ name, (t.fieldsOf key).get? nameField = some name ∧ Release.NamesSet d known key name
  files : ∀ path, t.LinksFile d known (t.entryFor (Key.file d.key path))

section runs

variable {d : Digests} {known : Set Release} {run : List ScanRequest}

/-- A file that agrees with one that is linked is linked as well, as long as the sets keep their names. -/
theorem Table.LinksFile.congr {t t' : Table} {e e' : Entry} (h : t.LinksFile d known e)
    (hsame : ∀ field ∈ Release.recordFields, e'.get? field = e.get? field)
    (hkept : ∀ key, key.isSet = true → ∀ name, (t.fieldsOf key).get? nameField = some name →
      (t'.fieldsOf key).get? nameField = some name) : t'.LinksFile d known e' := by
  rcases h with hnone | ⟨r, hr, hrecorded, hnames⟩
  · left
    intro part
    exact (hsame _ part.kind_mem_recordFields).trans (hnone part)
  · right
    exact ⟨r, hr, hrecorded.congr hsame, fun part => hkept _ (Key.isSet_set _ _ _ _) _ (hnames part)⟩

variable (hdigest : d.key.Separates (Release.setNames known))
include hdigest

/-- **One more scan** with the release backend links its file, and leaves every other file linked. -/
theorem linksFile_scan {q : ScanRequest} (hrelease : ∀ b ∈ q.backends, b = Release.backend)
    (hknown : ∀ r, Release.ofFile? q.file = some r → r ∈ known)
    (hnames : (tableAfter d (run ++ [q])).Names (Release.NamesSet d known)) {path : String}
    (h : (tableAfter d run).LinksFile d known ((tableAfter d run).entryFor (Key.file d.key path))) :
    (tableAfter d (run ++ [q])).LinksFile d known ((tableAfter d (run ++ [q])).entryFor (Key.file d.key path)) := by
  have hkept : ∀ key, key.isSet = true → ∀ name, ((tableAfter d run).fieldsOf key).get? nameField = some name →
      ((tableAfter d (run ++ [q])).fieldsOf key).get? nameField = some name :=
    fun key hset name hname => kept_after_run run [q] hset hname
  have hsets := keepsSets_scan (d := d) q (tableAfter d run)
  rw [tableAfter_concat] at hkept hnames ⊢
  by_cases hprocessed : (q.scan d (tableAfter d run)).effort? = some .processed
  · obtain ⟨contentId, found, hcontent, hfound, hstores⟩ := ScanRequest.stores_of_processed hprocessed
    have hjoined := hsets.joined hprocessed
    generalize (q.scan d (tableAfter d run)).store.table = table at hkept hnames hjoined hstores ⊢
    by_cases hfile : Key.file d.key path = q.key d
    · have hbackends : ∀ f ∈ found, f.backend = Release.backend := by
        rw [← hfound] at hrelease
        exact List.forall_mem_map.mp hrelease
      have hentry : table.entryFor (q.key d) = ⟨q.key d, ((tableAfter d run).fieldsOf (q.key d)).insertMany
          (q.file.pairs contentId ++ found.flatMap (Finding.pairs d))⟩ := congrArg (Entry.mk _) hstores.fields
      rw [hfile] at h ⊢
      rw [hentry]
      rcases Release.recorded_or_same hbackends ((tableAfter d run).entryFor (q.key d)) with
        ⟨hne, r, hr, hrecorded⟩ | hsame
      · -- the sets are joined now, so they have names, and these can only be those of the release
        refine .inr ⟨r, hknown r hr, hrecorded, ?_⟩
        intro part
        obtain ⟨f, hf⟩ := List.exists_mem_of_ne_nil found hne
        have hasked : Release.backend ∈ q.backends := by
          rw [← hbackends f hf, ← hfound]
          exact List.mem_map_of_mem hf
        obtain ⟨name, hname⟩ := Option.isSome_iff_exists.mp (hjoined _ (Release.key_mem_joinedKeys hasked hcontent hr part))
        obtain rfl := (hnames _ (Key.isSet_set _ _ _ _) name hname).eq_name hdigest (hknown r hr)
        exact hname
      · exact h.congr hsame hkept
    · refine h.congr ?_ hkept
      intro field _
      unfold Entry.get? Table.entryFor
      rw [hstores.fieldsOf_other_file hfile]
  · rw [ScanRequest.table_of_not_processed hprocessed]
    exact h

/-- **Files and sets fit together** after every run of scans with the release backend, if digests tell apart
the names of the sets. -/
theorem holdsReleases_after_run (hrelease : ∀ q ∈ run, ∀ b ∈ q.backends, b = Release.backend)
    (hknown : ∀ q ∈ run, ∀ r, Release.ofFile? q.file = some r → r ∈ known) :
    (tableAfter d run).HoldsReleases d known := by
  have hnames : ∀ part : List ScanRequest, (∀ q ∈ part, q ∈ run) →
      (tableAfter d part).Names (Release.NamesSet d known) := by
    intro part hpart
    apply names_after_run
    · intro q hq b hb
      rw [hrelease q (hpart q hq) b hb]
      exact Release.sparesNames_backend
    · intro q hq b hb
      rw [hrelease q (hpart q hq) b hb]
      exact Release.namesAllowed_backend (hknown q (hpart q hq))
  refine ⟨?_, ?_, ?_⟩
  · intro key hstored
    apply (stored_after_run run hstored).imp_right
    rintro ⟨q, -, hkey⟩
    exact ⟨q.file.pathText, hkey⟩
  · intro key hset hstored
    obtain ⟨name, hname⟩ := Option.isSome_iff_exists.mp (named_after_run run hset hstored)
    exact ⟨name, hname, hnames run (fun _ => id) key hset name hname⟩
  · intro path
    have hall : ∀ part : List ScanRequest, (∀ q ∈ part, q ∈ run) →
        (tableAfter d part).LinksFile d known ((tableAfter d part).entryFor (Key.file d.key path)) := by
      intro part
      induction part using List.reverseRecOn with
      | nil => exact fun _ => .inl fun _ => rfl
      | append_singleton part q ih =>
        intro hpart
        have hq : q ∈ run := hpart q (List.mem_append_right _ List.mem_cons_self)
        apply linksFile_scan hdigest (hrelease q hq) (hknown q hq) (hnames _ hpart)
        exact ih fun q' hq' => hpart q' (List.mem_append_left _ hq')
    exact hall run fun _ => id

end runs

end MediaCatalog
