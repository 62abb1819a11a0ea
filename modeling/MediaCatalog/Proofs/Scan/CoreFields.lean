import MediaCatalog.Proofs.Scan.Runs

/-!
# What a file's entry says of the file itself

A scan first writes path, size, time and content identifier of a file, and then lets the backends
have their say in the same entry. The fields of the file itself are not set apart: what is said of a
field last is stored.

* `Dict.get?_insertMany_reverse`: of several values inserted under a key, the last one stays.
* `Finding.lastValue?`, `Finding.settled`: what backends say last of a field, and what becomes of a
  value that the scan itself has written before.
* `Backend.SparesCore`: a backend says nothing of the fields that the scan writes itself;
  `Release.sparesCore_backend`.
* `StoresFindings.get?_core`: the stored fields of the file itself.
* **Main result** (`core_fields_settled`): each of the fields holds what backends say of it last, and
  the file's own value if they say nothing; and a file is found unchanged right after it was processed
  exactly if its own size and time are what is stored.
-/

namespace MediaCatalog

/-! ## The last of several values -/

/-- A look-up in two lists goes to the second one for what the first one lacks. -/
theorem Pairs.get?_append {α : Type} (key : String) (l m : List (String × α)) :
    Pairs.get? key (l ++ m) = (Pairs.get? key l).or (Pairs.get? key m) := by
  induction l with
  | nil => rfl
  | cons head rest ih =>
    rw [List.cons_append, Pairs.get?, Pairs.get?, ih]
    by_cases h : head.1 = key
    · rw [if_pos h, if_pos h, Option.some_or]
    · rw [if_neg h, if_neg h]

/-- There is a value under each key that occurs, and under no other. -/
theorem Pairs.get?_eq_none_iff {α : Type} {key : String} {l : List (String × α)} :
    Pairs.get? key l = none ↔ ∀ pair ∈ l, pair.1 ≠ key := by
  induction l with
  | nil => simp [Pairs.get?]
  | cons head rest ih =>
    rw [Pairs.get?, List.forall_mem_cons]
    by_cases h : head.1 = key
    · simp [h]
    · rw [if_neg h, ih]
      exact ⟨fun hrest => ⟨h, hrest⟩, And.right⟩

/-- Of several values inserted under a key, the last one stays. -/
theorem Dict.get?_insertMany_reverse {α : Type} (e : Dict α) (pairs : List (String × α)) (key : String) :
    (e.insertMany pairs).get? key = (Pairs.get? key pairs.reverse).or (e.get? key) := by
  induction pairs generalizing e with
  | nil => rfl
  | cons head rest ih =>
    have hhead : e.insertMany (head :: rest) = (e.insert head.1 head.2).insertMany rest := rfl
    rw [hhead, ih, List.reverse_cons, Pairs.get?_append, Dict.get?_insert, Option.or_assoc]
    by_cases h : head.1 = key
    · simp [h, Pairs.get?]
    · simp [h, Pairs.get?]

/-- Of several values inserted under a key, the one stays on which all of them agree. -/
theorem Dict.get?_insertMany_of_agree {α : Type} (e : Dict α) {pairs : List (String × α)} {key : String} {value : α}
    (hmem : (key, value) ∈ pairs) (hagree : ∀ pair ∈ pairs, pair.1 = key → pair.2 = value) :
    (e.insertMany pairs).get? key = some value := by
  rw [get?_insertMany_reverse]
  cases hget : Pairs.get? key pairs.reverse with
  | none => exact absurd rfl (Pairs.get?_eq_none_iff.mp hget (key, value) (List.mem_reverse.mpr hmem))
  | some found =>
    have hfound := hagree (key, found) (List.mem_reverse.mp (Pairs.mem_of_get? hget)) rfl
    rw [Option.some_or]
    exact congrArg some hfound

/-- Values inserted under other keys change nothing. -/
theorem Dict.get?_insertMany_of_absent {α : Type} (e : Dict α) {pairs : List (String × α)} {key : String}
    (h : ∀ pair ∈ pairs, pair.1 ≠ key) : (e.insertMany pairs).get? key = e.get? key := by
  rw [get?_insertMany_reverse, Pairs.get?_eq_none_iff.mpr, Option.none_or]
  intro pair hpair
  exact h pair (List.mem_reverse.mp hpair)

/-! ## What backends say of a field -/

namespace Finding

variable {file : FileInfo} {contentId : String}

/-- What a backend knows of a file is determined, so findings are told apart by their backends. -/
theorem map_backend_injective {found found' : List (Finding file contentId)}
    (h : found.map Finding.backend = found'.map Finding.backend) : found = found' := by
  apply List.map_injective_iff.mpr _ h
  intro f g hbackend
  obtain ⟨backend, contribution, hprocessed⟩ := f
  obtain ⟨_, contribution', hprocessed'⟩ := g
  cases hbackend
  rw [hprocessed] at hprocessed'
  cases hprocessed'
  rfl

/-- What the backends say last of a field of the file's entry, be it a property or a link to a set. -/
def lastValue? (d : Digests) (found : List (Finding file contentId)) (field : String) : Option String :=
  Pairs.get? field (found.flatMap (Finding.pairs d)).reverse

/-- What becomes of a field with its value after the backends have had their say. -/
def settled (d : Digests) (found : List (Finding file contentId)) (pair : String × String) : String :=
  (lastValue? d found pair.1).getD pair.2

/-- A value of which no backend says anything stays. -/
theorem settled_of_silent {d : Digests} {found : List (Finding file contentId)} {pair : String × String}
    (h : ∀ f ∈ found, ∀ said ∈ f.pairs d, said.1 ≠ pair.1) : settled d found pair = pair.2 := by
  have hnone : lastValue? d found pair.1 = none := by
    apply Pairs.get?_eq_none_iff.mpr
    intro said hsaid
    obtain ⟨f, hf, hmem⟩ := List.mem_flatMap.mp (List.mem_reverse.mp hsaid)
    exact h f hf said hmem
  rw [settled, hnone]
  rfl

end Finding

/-! ## Backends that leave the file's own fields alone -/

/-- The fields that the scan writes itself. -/
def coreFields : List String := [pathField, sizeField, timeField, contentField]

/-- A backend says nothing of the fields that the scan writes itself. -/
def Backend.SparesCore (b : Backend) : Prop :=
  ∀ file contentId contribution, b.process file contentId = .ok contribution →
    ∀ field ∈ coreFields, contribution.properties.get? field = none ∧ ∀ a ∈ contribution.sets, a.kind ≠ field

/-- The names of the properties in a release name. -/
def Release.propertyNames : List String := ["title", "episode", "group_name", "ext", "version", "resolution", "crc32"]

/-- The properties in a release name have no other names. -/
theorem Release.get?_properties {r : Release} {extension : Option String} {field : String} (h : field ∉ propertyNames) :
    (r.properties extension).get? field = none := by
  unfold Release.properties Dict.ofList
  rw [Dict.get?_insertMany_reverse, Dict.get?_empty, Option.or_none, Pairs.get?_eq_none_iff]
  intro pair hpair
  have hname : pair.1 ∈ propertyNames := by
    simp only [List.mem_reverse, List.mem_append, List.mem_cons, List.not_mem_nil, or_false, Option.mem_toList,
      Option.map_eq_some_iff] at hpair
    rcases hpair with (((((rfl | rfl | rfl) | ⟨_, _, rfl⟩) | ⟨_, _, rfl⟩) | ⟨_, _, rfl⟩) | ⟨_, _, rfl⟩) <;>
      simp [propertyNames]
  rintro rfl
  exact h hname

/-- **The release backend** leaves the file's own fields alone. -/
theorem Release.sparesCore_backend : Release.backend.SparesCore := by
  intro file contentId contribution hprocess field hfield
  obtain rfl : Release.contribution file = contribution := Except.ok.inj hprocess
  unfold Release.contribution
  split
  · have hproperty : ∀ core ∈ coreFields, core ∉ Release.propertyNames := by decide
    refine ⟨Release.get?_properties (hproperty field hfield), ?_⟩
    intro a ha
    have hkind : a.kind ∈ [Release.titleKind, Release.groupKind] := List.mem_map_of_mem (f := SetAssociation.kind) ha
    have hapart : ∀ core ∈ coreFields, core ∉ [Release.titleKind, Release.groupKind] := by decide
    rintro rfl
    exact hapart _ hfield hkind
  · exact ⟨rfl, nofun⟩

/-- The scan writes its own fields. -/
theorem FileInfo.fst_mem_coreFields {file : FileInfo} {contentId : String} {pair : String × String}
    (h : pair ∈ file.pairs contentId) : pair.1 ∈ coreFields := by
  have hfst := List.mem_map_of_mem (f := Prod.fst) h
  exact hfst

/-- Where backends spare them, the file's own values are settled. -/
theorem Finding.settled_of_sparesCore {d : Digests} {file : FileInfo} {contentId : String} {found : List (Finding file contentId)}
    (h : ∀ f ∈ found, f.backend.SparesCore) {pair : String × String} (hpair : pair ∈ file.pairs contentId) :
    Finding.settled d found pair = pair.2 := by
  apply Finding.settled_of_silent
  intro f hf said hsaid
  obtain ⟨hproperties, hkinds⟩ := h f hf file contentId f.contribution f.processed pair.1
    (FileInfo.fst_mem_coreFields hpair)
  rcases List.mem_append.mp hsaid with hmem | hmem
  · exact Pairs.get?_eq_none_iff.mp hproperties said hmem
  · obtain ⟨a, ha, rfl⟩ := List.mem_map.mp hmem
    exact hkinds a ha

/-! ## The stored fields -/

variable {d : Digests} {files : FileTree} {backends : List Backend} {store : Store} {file : FileInfo}

/-- The entries of other files are not touched. -/
theorem StoresFindings.fieldsOf_other_file {contentId : String} {found : List (Finding file contentId)}
    {before after : Table} (h : StoresFindings d found before after) {path : String}
    (hpath : Key.file d.key path ≠ Key.file d.key file.pathText) :
    after.fieldsOf (Key.file d.key path) = before.fieldsOf (Key.file d.key path) :=
  h.others _ hpath (Finding.file_not_mem_setKeys found path)

/-- Each field of the file itself is written once by the scan. -/
theorem FileInfo.get?_pairs {contentId : String} {pair : String × String} (h : pair ∈ file.pairs contentId) :
    Pairs.get? pair.1 (file.pairs contentId).reverse = some pair.2 := by
  simp only [FileInfo.pairs, List.mem_cons, List.not_mem_nil, or_false] at h
  rcases h with rfl | rfl | rfl | rfl <;>
    simp [FileInfo.pairs, Pairs.get?, pathField, sizeField, timeField, contentField]

/-- **The stored fields of the file itself** hold what backends say of them last, and otherwise the
file's own values. -/
theorem StoresFindings.get?_core {contentId : String} {found : List (Finding file contentId)} {before after : Table}
    (h : StoresFindings d found before after) (pair : String × String) (hpair : pair ∈ file.pairs contentId) :
    (after.fieldsOf (Key.file d.key file.pathText)).get? pair.1 = some (Finding.settled d found pair) := by
  rw [h.fields, Dict.get?_insertMany_reverse, List.reverse_append, Pairs.get?_append, FileInfo.get?_pairs hpair,
    Finding.settled, Finding.lastValue?]
  cases Pairs.get? pair.1 (found.flatMap (Finding.pairs d)).reverse with
  | none => rfl
  | some value => rfl

/-- A stored file is found unchanged exactly if its own size and time are what is stored. -/
theorem StoresFindings.isUnchanged_iff {contentId : String} {found : List (Finding file contentId)}
    {before after : Table} (h : StoresFindings d found before after) :
    FileRecord.isUnchanged ⟨after.entryFor (Key.file d.key file.pathText)⟩ file = true ↔
      Finding.settled d found (sizeField, file.sizeText) = file.sizeText ∧
        Finding.settled d found (timeField, file.secondText) = file.secondText := by
  have hsize := h.get?_core (sizeField, file.sizeText) (by simp [FileInfo.pairs])
  have htime := h.get?_core (timeField, file.secondText) (by simp [FileInfo.pairs])
  have hcontent := h.get?_core (contentField, contentId) (by simp [FileInfo.pairs])
  unfold FileRecord.isUnchanged Entry.contains Entry.get? Table.entryFor Dict.contains
  simp only [hsize, htime, hcontent, Option.isSome_some, Bool.true_and, Bool.and_eq_true, beq_iff_eq,
    Option.some.injEq]

/-- **The fields of the file itself.** After a file was processed, each of the fields that the scan
writes itself — path, size, time and content identifier — holds what backends say of it last, and the
file's own value if they say nothing of it. A second scan of the same file that is not forced finds it
unchanged, calls no backend and leaves the store alone exactly if the stored size and time are the
file's own. -/
theorem core_fields_settled (hdry : store.dryRun = false) {force : Bool} {r : ScanResult}
    (hscan : scanFile d files backends store force file = r) (hprocessed : r.effort? = some .processed) :
    ∃ contentId, files.contentId d file.path = .ok contentId ∧
      ∃ found : List (Finding file contentId), found.map Finding.backend = backends ∧
        (∀ pair ∈ file.pairs contentId,
          (r.store.table.fieldsOf (Key.file d.key file.pathText)).get? pair.1 = some (Finding.settled d found pair)) ∧
        ∀ (files' : FileTree) (backends' : List Backend),
          scanFile d files' backends' r.store false file =
              ⟨.ok ⟨file, r.store.table.entryFor (Key.file d.key file.pathText), .cached⟩, r.store, []⟩ ↔
            Finding.settled d found (sizeField, file.sizeText) = file.sizeText ∧
              Finding.settled d found (timeField, file.secondText) = file.secondText := by
  subst hscan
  obtain ⟨hopen, contentId, found, table, calls, hdone, hcontent, hfound, hstores⟩ := scanFile_of_processed hdry hprocessed
  rw [hdone]
  refine ⟨contentId, hcontent, found, hfound, hstores.get?_core, ?_⟩
  intro files' backends'
  have hunchanged := hstores.isUnchanged_iff
  constructor
  · intro hcached
    apply hunchanged.mp
    have heffort := (@effort?_eq_cached_iff d files' backends' { store with table } file hdry false).mp
    rw [hcached] at heffort
    exact (heffort rfl).2.2
  · intro hsettled
    have hcached := hunchanged.mpr hsettled
    rw [@scanFile_of_open d files' backends' { store with table } file hopen, if_pos ⟨rfl, hcached⟩]

/-- A scan of a file of which something is stored, by two backends that leave its own fields alone. -/
def pilotScan : ScanResult := scanFile plainDigests pilotFiles [showBackend, titleBackend] pilotStore true pilot

/-- The file's own fields after such a scan, and a second scan. -/
theorem core_fields_settled_of_two_backends :
    pilotStore.dryRun = false ∧ pilotScan.effort? = some .processed ∧
      (∀ pair ∈ pilot.pairs "010203",
        (pilotScan.store.table.fieldsOf (Key.file id pilot.pathText)).get? pair.1 = some pair.2) ∧
        (scanFile plainDigests pilotFiles [showBackend, titleBackend] pilotScan.store false pilot).effort? =
          some .cached := by
  have hprocessed : pilotScan.effort? = some .processed := by
    simp only [pilotScan, scanFile, processFile, contentId_pilot]
    decide +kernel
  obtain ⟨contentId, hcontent, found, hfound, hfields, hrescan⟩ :=
    @core_fields_settled plainDigests pilotFiles [showBackend, titleBackend] pilotStore pilot rfl true pilotScan rfl
      hprocessed
  rw [contentId_pilot] at hcontent
  cases hcontent
  obtain rfl : found = [⟨showBackend, _, rfl⟩, ⟨titleBackend, _, rfl⟩] := Finding.map_backend_injective hfound
  refine ⟨rfl, hprocessed, ?_, ?_⟩
  · intro pair hpair
    refine (hfields pair hpair).trans ?_
    simp only [FileInfo.pairs, List.mem_cons, List.not_mem_nil, or_false] at hpair
    rcases hpair with rfl | rfl | rfl | rfl <;> decide +kernel
  · rw [(hrescan pilotFiles [showBackend, titleBackend]).mpr (by decide +kernel)]
    rfl

/-- A backend that knows the size of everything. -/
def sizeBackend : Backend := .constant "sizes" ⟨Dict.ofList [("size", "0")], []⟩ Dict.empty

/-- A scan in which a backend has the last word on the size of the file. -/
def sizedScan : ScanResult := scanFile plainDigests pilotFiles [sizeBackend] pilotStore false pilot

/-- The file's own size does not survive a backend that says something else, and a second scan processes
the file again. -/
theorem not_core_fields_own_of_size :
    sizedScan.effort? = some .processed ∧ pilot.sizeText = "3" ∧
      (sizedScan.store.table.fieldsOf (Key.file id pilot.pathText)).get? sizeField = some "0" ∧
        (scanFile plainDigests pilotFiles [sizeBackend] sizedScan.store false pilot).effort? = some .processed := by
  simp only [sizedScan, scanFile, processFile, contentId_pilot]
  decide +kernel

end MediaCatalog
