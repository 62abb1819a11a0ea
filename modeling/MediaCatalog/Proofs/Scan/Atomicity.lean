import MediaCatalog.Scan.File
import MediaCatalog.Proofs.Files.Write
import MediaCatalog.Proofs.Scan.Enrichment

/-!
# Scanning one file is all or nothing

What a scan writes is collected in a draft, and only the last step publishes it. This file follows
the draft through the loops over backends and over the sets that they associate the file with.

* `Finding`: a backend with what it knows of a file; `Finding.setKeys` and `Finding.pairs` are the
  sets that it touches and the pairs that it adds to the file's entry.
* `ScanDraft.Reaches`: what a part of a scan changes in the draft.
* **One loop for all** (`ScanDraft.ends_foldlM`): steps that end well lead on to each other.
* **Main result** (`scanFile_all_or_nothing`): a scan fails and leaves the store alone, or finds the
  file unchanged, or stores exactly what was found.
-/

namespace MediaCatalog

/-! ## Keys, transactions and sets -/

/-- No file has the key of a set. -/
theorem Key.file_ne_set (digest : Digest) (path source kind name : String) :
    Key.file digest path ≠ Key.set digest source kind name := by
  intro h
  have htext := congrArg (fun key : Key => key.text.toList.head?) h
  simp only [Key.file_text, Key.set_text, String.toList_append] at htext
  exact absurd htext (by simp)

/-- A transaction that is no dry run writes an entry, unless the store is read-only. -/
theorem Transaction.put_spec {tx : Transaction} (hdry : tx.dryRun = false) (e : Entry) :
    (tx.access = .readOnly ∧ ∃ error, tx.put e = .error error) ∨
      tx.put e = .ok { tx with table := tx.table.write e } := by
  obtain ⟨table, access, dryRun⟩ := tx
  cases hdry
  cases access with
  | readWrite => exact .inr rfl
  | readOnly =>
    by_cases hblank : e.isBlank = true
    · -- nothing to write
      have hwrite : table.write e = table := by
        rw [Table.write, List.isEmpty_iff.mp hblank]
        rfl
      refine .inr ?_
      simp [put, Table.tryWrite, hblank, hwrite]
    · exact .inl ⟨rfl, .database, by simp [put, Table.tryWrite, hblank]⟩

/-! ## What is found -/

/-- What a scan itself knows of a file. -/
def FileInfo.pairs (file : FileInfo) (contentId : String) : List (String × String) :=
  [(pathField, file.pathText), (sizeField, file.sizeText), (timeField, file.secondText), (contentField, contentId)]

namespace SetAssociation

/-- The key of the set, if the association comes from a backend with a name. -/
def key (d : Digests) (source : String) (a : SetAssociation) : Key := Key.set d.key source a.kind a.name

/-- What links the entry of a file to the set. -/
def link (d : Digests) (source : String) (a : SetAssociation) : String × String := (a.kind, (a.key d source).text)

/-- The set has a key, and the backend describes it. -/
def DescribedBy (d : Digests) (backend : Backend) (a : SetAssociation) (key : Key) : Prop :=
  a.key d backend.name = key ∧ ∃ description, backend.describe a.kind a.name = .ok description

end SetAssociation

/-- A backend with what it knows of a file. -/
structure Finding (file : FileInfo) (contentId : String) where
  backend : Backend
  contribution : Contribution
  processed : backend.process file contentId = .ok contribution

namespace Finding

variable {file : FileInfo} {contentId : String}

/-- The keys of the sets to which the file belongs. -/
def setKeys (d : Digests) (f : Finding file contentId) : List Key :=
  f.contribution.sets.map (SetAssociation.key d f.backend.name)

/-- The pairs for the file's entry: properties, then the links to sets. -/
def pairs (d : Digests) (f : Finding file contentId) : List (String × String) :=
  f.contribution.properties.toList ++ f.contribution.sets.map (SetAssociation.link d f.backend.name)

/-- The backend describes a set with a key. -/
def Describes (d : Digests) (f : Finding file contentId) (key : Key) : Prop :=
  ∃ a ∈ f.contribution.sets, a.DescribedBy d f.backend key

end Finding

/-- A backend fails on a file, or on one of the sets with which it associates the file. -/
def Backend.FailsOn (backend : Backend) (file : FileInfo) (contentId : String) : Prop :=
  (∃ cause, backend.process file contentId = .error cause) ∨
    ∃ contribution, backend.process file contentId = .ok contribution ∧
      ∃ a ∈ contribution.sets, ∃ cause, backend.describe a.kind a.name = .error cause

/-! ## Drafts -/

namespace ScanDraft

/-- The set with a key has been described. -/
def Named (draft : ScanDraft) (key : Key) : Prop := (draft.tx.table.fieldsOf key).contains nameField = true

/-- The record of a set that is loaded is new exactly if the set has not been described. -/
theorem isNew_load_iff (draft : ScanDraft) (digest : Digest) (source kind name : String) :
    (SetRecord.load digest draft.tx source kind name).isNew = true ↔ ¬draft.Named (Key.set digest source kind name) := by
  unfold SetRecord.isNew Named
  rw [Bool.not_eq_true', Bool.not_eq_true]
  rfl

/-- Joining a set that was loaded and completed links the file to it. -/
theorem join_loaded {d : Digests} {draft : ScanDraft} {source : String} {a : SetAssociation} {changed : Bool}
    {set : SetRecord} (h : (SetRecord.load d.key draft.tx source a.kind a.name).Completes changed set)
    (r : FileRecord) : r.join set = ⟨r.entry.insert a.kind (a.key d source).text⟩ := by
  unfold FileRecord.join
  rw [h.kind, h.key]
  rfl

/-- A part of a scan that touches nothing but the entries under some keys, all of sets that had been
described before or for which it gets a description, and adds pairs to the record of the file. -/
structure Reaches (keys : List Key) (pairs : List (String × String)) (described : Key → Prop)
    (before after : ScanDraft) : Prop where
  access : after.tx.access = before.tx.access
  dryRun : after.tx.dryRun = before.tx.dryRun
  others : ∀ key, key ∉ keys → after.tx.table.fieldsOf key = before.tx.table.fieldsOf key
  touched : ∀ key ∈ keys, before.Named key ∨ described key
  record : after.record.entry = ⟨before.record.entry.key, before.record.entry.fields.insertMany pairs⟩

variable {keys keys' : List Key} {pairs pairs' : List (String × String)} {described described' : Key → Prop}
  {a b c : ScanDraft}

/-- Nothing is done. -/
theorem Reaches.refl (draft : ScanDraft) : Reaches [] [] described draft draft := ⟨rfl, rfl, fun _ _ => rfl, nofun, rfl⟩

/-- A set that is named after a part of a scan was named before, or it is described. -/
theorem Reaches.named (h : Reaches keys pairs described a b) {key : Key} (hkey : b.Named key) :
    a.Named key ∨ described key := by
  by_cases hmem : key ∈ keys
  · exact h.touched key hmem
  · rw [Named, h.others key hmem] at hkey
    exact .inl hkey

/-- One part is done after the other. -/
theorem Reaches.trans (h : Reaches keys pairs described a b) (h' : Reaches keys' pairs' described' b c) :
    Reaches (keys ++ keys') (pairs ++ pairs') (fun key => described key ∨ described' key) a c where
  access := h'.access.trans h.access
  dryRun := h'.dryRun.trans h.dryRun
  others key hkey := by
    have hkeys := mt List.mem_append.mpr hkey
    rw [h'.others key fun hmem => hkeys (.inr hmem), h.others key fun hmem => hkeys (.inl hmem)]
  touched key hkey := by
    rcases List.mem_append.mp hkey with hmem | hmem
    · exact (h.touched key hmem).imp_right .inl
    · rcases h'.touched key hmem with hnamed | hdescribed
      · exact (h.named hnamed).imp_right .inl
      · exact .inr (.inr hdescribed)
  record := by
    rw [h'.record, h.record, Dict.insertMany, Dict.insertMany, Dict.insertMany, List.foldl_append]

/-- Less may be said of the descriptions. -/
theorem Reaches.mono (h : Reaches keys pairs described a b) (himp : ∀ key, described key → described' key) :
    Reaches keys pairs described' a b :=
  ⟨h.access, h.dryRun, h.others, fun key hkey => (h.touched key hkey).imp_right (himp key), h.record⟩

/-- The record of the file is overlaid by properties. -/
theorem reaches_apply (draft : ScanDraft) (properties : Fields) (calls : List BackendCall) :
    Reaches [] properties.toList (fun _ => False) draft
      { draft with record := draft.record.apply properties, calls } :=
  ⟨rfl, rfl, fun _ _ => rfl, nofun, rfl⟩

/-- How a step ends: it fails, which has a reason if the store may be written, or it is done. -/
def Ends (step : ScanStep) (access : Access) (reason : Prop) (Done : ScanDraft → Prop) : Prop :=
  (∃ failure calls, step = .error (failure, calls) ∧ (access = .readOnly ∨ reason)) ∨ ∃ draft, step = .ok draft ∧ Done draft

/-- A step that does something also does what follows from it. -/
theorem Ends.imp {step : ScanStep} {access : Access} {reason : Prop} {Done Done' : ScanDraft → Prop}
    (h : Ends step access reason Done) (himp : ∀ draft, Done draft → Done' draft) : Ends step access reason Done' := by
  rcases h with hfail | ⟨draft, hstep, hdone⟩
  · exact .inl hfail
  · exact .inr ⟨draft, hstep, himp draft hdone⟩

/-- **A loop over steps** fails because one of them does, or does what all of them do. Each step takes
an item, and `β` holds what is found about items. -/
theorem ends_foldlM {α β : Type} {step : ScanDraft → α → ScanStep} {reason : α → Prop} (item : β → α)
    (keys : β → List Key) (pairs : β → List (String × String)) (described : β → Key → Prop)
    (hstep : ∀ a draft, draft.tx.dryRun = false → Ends (step draft a) draft.tx.access (reason a) fun draft' =>
      ∃ b, item b = a ∧ Reaches (keys b) (pairs b) (described b) draft draft')
    (items : List α) {draft : ScanDraft} (hdry : draft.tx.dryRun = false) :
    Ends (items.foldlM step draft) draft.tx.access (∃ a ∈ items, reason a) fun draft' =>
      ∃ found : List β, found.map item = items ∧
        Reaches (found.flatMap keys) (found.flatMap pairs) (fun key => ∃ b ∈ found, described b key) draft draft' := by
  induction items generalizing draft with
  | nil => exact .inr ⟨draft, rfl, [], rfl, .refl draft⟩
  | cons a items ih =>
    rw [List.foldlM_cons]
    rcases hstep a draft hdry with ⟨failure, calls, hfail, hreason⟩ | ⟨next, hnext, b, hb, hreaches⟩
    · rw [hfail]
      exact .inl ⟨failure, calls, rfl, hreason.imp_right fun h => ⟨a, List.mem_cons_self, h⟩⟩
    · rw [hnext]
      have hrest := ih (hreaches.dryRun.trans hdry)
      rw [hreaches.access] at hrest
      rcases hrest with ⟨failure, calls, hfail, hreason⟩ | ⟨last, hlast, found, hfound, hreaches'⟩
      · refine .inl ⟨failure, calls, hfail, hreason.imp_right ?_⟩
        rintro ⟨a', ha', h⟩
        exact ⟨a', List.mem_cons_of_mem a ha', h⟩
      · refine .inr ⟨last, hlast, b :: found, ?_, ?_⟩
        · rw [List.map_cons, hb, hfound]
        · rw [List.flatMap_cons, List.flatMap_cons]
          refine (hreaches.trans hreaches').mono fun key hkey => ?_
          rcases hkey with hkey | ⟨b', hb', hkey⟩
          · exact ⟨b, List.mem_cons_self, hkey⟩
          · exact ⟨b', List.mem_cons_of_mem b hb', hkey⟩

/-- **Joining a set** touches the entry of the set, and links the file to it. -/
theorem ends_joinSet (d : Digests) (backend : Backend) (a : SetAssociation) (draft : ScanDraft)
    (hdry : draft.tx.dryRun = false) :
    Ends (draft.joinSet d backend a) draft.tx.access (∃ cause, backend.describe a.kind a.name = .error cause)
      (Reaches [a.key d backend.name] [a.link d backend.name] (a.DescribedBy d backend) draft) := by
  rcases (SetRecord.load d.key draft.tx backend.name a.kind a.name).enrich_outcome backend a with
    ⟨-, cause, hdescribe, henrich⟩ | ⟨changed, set, henrich, hcompletes, -, hdescribed⟩
  · simp only [joinSet, henrich]
    exact .inl ⟨_, _, rfl, .inr ⟨cause, hdescribe⟩⟩
  · simp only [joinSet, henrich]
    have hrecord : (draft.record.join set).entry =
        ⟨draft.record.entry.key, draft.record.entry.fields.insertMany [a.link d backend.name]⟩ := by
      rw [join_loaded hcompletes]
      rfl
    have htouched : ∀ key ∈ [a.key d backend.name], draft.Named key ∨ a.DescribedBy d backend key := by
      intro key hmem
      cases List.mem_singleton.mp hmem
      by_cases hnamed : draft.Named (a.key d backend.name)
      · exact .inl hnamed
      · exact .inr ⟨rfl, hdescribed ((draft.isNew_load_iff d.key backend.name a.kind a.name).mpr hnamed)⟩
    cases changed with
    | false => exact .inr ⟨_, rfl, rfl, rfl, fun _ _ => rfl, htouched, hrecord⟩
    | true =>
      rcases Transaction.put_spec hdry set.entry with ⟨haccess, error, hput⟩ | hput
      · simp only [hput, if_true]
        exact .inl ⟨_, _, rfl, .inl haccess⟩
      · simp only [hput, if_true]
        refine .inr ⟨_, rfl, rfl, rfl, fun key hne => ?_, htouched, hrecord⟩
        have hset : set.entry.key ≠ key := by
          rintro rfl
          exact hne (List.mem_singleton.mpr hcompletes.key)
        rw [Table.fieldsOf_write, if_neg hset]

/-- Joining sets touches their entries, and links the file to each of them. -/
theorem ends_joinSets (d : Digests) (backend : Backend) (sets : List SetAssociation) {draft : ScanDraft}
    (hdry : draft.tx.dryRun = false) :
    Ends (sets.foldlM (joinSet d backend) draft) draft.tx.access
      (∃ a ∈ sets, ∃ cause, backend.describe a.kind a.name = .error cause)
      (Reaches (sets.map (SetAssociation.key d backend.name)) (sets.map (SetAssociation.link d backend.name))
        (fun key => ∃ a ∈ sets, a.DescribedBy d backend key) draft) := by
  rw [List.map_eq_flatMap, List.map_eq_flatMap]
  have hloop := ends_foldlM id _ _ _
    (fun a draft hdry => (ends_joinSet d backend a draft hdry).imp fun _ hreaches => ⟨a, rfl, hreaches⟩) sets hdry
  refine hloop.imp fun draft' hdone => ?_
  obtain ⟨found, hfound, hreaches⟩ := hdone
  rw [List.map_id] at hfound
  subst hfound
  exact hreaches

/-- **Asking a backend** touches the sets that it names, and adds what it knows of the file. -/
theorem ends_askBackend (d : Digests) (file : FileInfo) (contentId : String) (backend : Backend) (draft : ScanDraft)
    (hdry : draft.tx.dryRun = false) :
    Ends (draft.askBackend d file contentId backend) draft.tx.access (backend.FailsOn file contentId) fun draft' =>
      ∃ f : Finding file contentId, f.backend = backend ∧
        Reaches (f.setKeys d) (f.pairs d) (f.Describes d) draft draft' := by
  unfold askBackend
  cases hprocess : backend.process file contentId with
  | error cause => exact .inl ⟨_, _, rfl, .inr (.inl ⟨cause, hprocess⟩)⟩
  | ok contribution =>
    have happlied := reaches_apply draft contribution.properties
    rcases ends_joinSets d backend contribution.sets ((happlied _).dryRun.trans hdry) with
      ⟨failure, calls, hfail, hreason⟩ | ⟨draft', hdone, hreaches⟩
    · refine .inl ⟨failure, calls, hfail, hreason.imp_right fun h => ?_⟩
      exact .inr ⟨contribution, hprocess, h⟩
    · refine .inr ⟨draft', hdone, ⟨backend, contribution, hprocess⟩, rfl, ?_⟩
      refine ((happlied _).trans hreaches).mono fun key hkey => ?_
      exact hkey.resolve_left id

/-- Asking all backends. -/
theorem ends_askBackends (d : Digests) (file : FileInfo) (contentId : String) (backends : List Backend)
    {draft : ScanDraft} (hdry : draft.tx.dryRun = false) :
    Ends (backends.foldlM (askBackend d file contentId) draft) draft.tx.access
      (∃ backend ∈ backends, backend.FailsOn file contentId) fun draft' =>
        ∃ found : List (Finding file contentId), found.map Finding.backend = backends ∧
          Reaches (found.flatMap (Finding.setKeys d)) (found.flatMap (Finding.pairs d))
            (fun key => ∃ f ∈ found, f.Describes d key) draft draft' :=
  ends_foldlM Finding.backend (Finding.setKeys d) (Finding.pairs d) (Finding.Describes d)
    (ends_askBackend d file contentId) backends hdry

end ScanDraft

/-! ## Scans -/

/-- Why a file cannot be scanned. -/
inductive Unscannable (d : Digests) (files : FileTree) (backends : List Backend) (store : Store) (file : FileInfo) : Prop
  | closed (h : store.isOpen = false)
  | readOnly (h : store.access = .readOnly)
  | unidentified (cause : Failure) (h : files.contentId d file.path = .error cause)
  | backend (contentId : String) (h : files.contentId d file.path = .ok contentId) (backend : Backend)
      (hmem : backend ∈ backends) (hfails : backend.FailsOn file contentId)

variable {d : Digests} {files : FileTree} {backends : List Backend} {store : Store} {file : FileInfo}

/-- What a scan changes in a table: only the entries of the file and of its sets, all of which had been
described before or are described now; and the file's entry is overlaid by what the scan knows of the
file and then, backend by backend, by what they know. -/
structure StoresFindings (d : Digests) {file : FileInfo} {contentId : String} (found : List (Finding file contentId))
    (before after : Table) : Prop where
  others : ∀ key, key ≠ Key.file d.key file.pathText → key ∉ found.flatMap (Finding.setKeys d) →
    after.fieldsOf key = before.fieldsOf key
  fields : after.fieldsOf (Key.file d.key file.pathText) =
    (before.fieldsOf (Key.file d.key file.pathText)).insertMany
      (file.pairs contentId ++ found.flatMap (Finding.pairs d))
  described : ∀ key ∈ found.flatMap (Finding.setKeys d),
    (before.fieldsOf key).contains nameField = true ∨ ∃ f ∈ found, f.Describes d key

/-- A store opens a transaction on its table, unless it is closed. -/
theorem Store.begin_spec (store : Store) :
    (store.isOpen = false ∧ ∃ error, store.begin = .error error) ∨
      store.begin = .ok ⟨store.table, store.access, store.dryRun⟩ := by
  obtain ⟨table, access, dryRun, isOpen⟩ := store
  cases isOpen with
  | false => exact .inl ⟨rfl, _, rfl⟩
  | true => exact .inr rfl

/-- No file has a key among those of sets. -/
theorem Finding.file_not_mem_setKeys {contentId : String} (found : List (Finding file contentId)) (path : String) :
    Key.file d.key path ∉ found.flatMap (Finding.setKeys d) := by
  intro hmem
  obtain ⟨f, -, hf⟩ := List.mem_flatMap.mp hmem
  obtain ⟨a, -, ha⟩ := List.mem_map.mp hf
  exact Key.file_ne_set d.key path f.backend.name a.kind a.name ha.symm

/-- **Publishing a draft.** The record of the file is written over what is stored of it, which the record
began with; so it is what is stored then. -/
theorem storesFindings_write {contentId : String} {found : List (Finding file contentId)} {before after : ScanDraft}
    (hrecord : before.record = (FileRecord.load d.key before.tx file).describe file contentId)
    (h : ScanDraft.Reaches (found.flatMap (Finding.setKeys d)) (found.flatMap (Finding.pairs d))
      (fun key => ∃ f ∈ found, f.Describes d key) before after) :
    StoresFindings d found before.tx.table (after.tx.table.write after.record.entry) ∧
      after.record.entry = (after.tx.table.write after.record.entry).entryFor (Key.file d.key file.pathText) := by
  have hentry : after.record.entry = ⟨Key.file d.key file.pathText,
      (before.tx.table.fieldsOf (Key.file d.key file.pathText)).insertMany
        (file.pairs contentId ++ found.flatMap (Finding.pairs d))⟩ := by
    rw [h.record, hrecord, Dict.insertMany, Dict.insertMany, List.foldl_append]
    rfl
  have hfields : (after.tx.table.write after.record.entry).fieldsOf (Key.file d.key file.pathText) =
      after.record.entry.fields := by
    rw [Table.fieldsOf_write, hentry, if_pos rfl, h.others _ (Finding.file_not_mem_setKeys found _),
      Dict.union_insertMany, Dict.union_self]
  refine ⟨⟨fun key hfile hsets => ?_, ?_, h.touched⟩, ?_⟩
  · have hne : after.record.entry.key ≠ key := by
      rw [hentry]
      exact hfile.symm
    rw [Table.fieldsOf_write, if_neg hne, h.others key hsets]
  · rw [hfields, hentry]
  · rw [Table.entryFor, hfields, hentry]

/-- What a scan begins with: the stored record of the file with what the scan itself knows. -/
def ScanDraft.begun (d : Digests) (tx : Transaction) (file : FileInfo) (contentId : String) : ScanDraft :=
  ⟨tx, (FileRecord.load d.key tx file).describe file contentId, []⟩

/-- **Processing a file** fails and leaves the store alone, or stores what was found. -/
theorem processFile_spec (hdry : store.dryRun = false) :
    (∃ failure calls, processFile d files backends store file = ⟨.error failure, store, calls⟩ ∧
        Unscannable d files backends store file) ∨
      ∃ contentId, ∃ found : List (Finding file contentId), ∃ (table : Table) (calls : List BackendCall),
        processFile d files backends store file =
            ⟨.ok ⟨file, table.entryFor (Key.file d.key file.pathText), .processed⟩, { store with table }, calls⟩ ∧
          files.contentId d file.path = .ok contentId ∧ found.map Finding.backend = backends ∧
            StoresFindings d found store.table table := by
  unfold processFile
  cases hcontent : files.contentId d file.path with
  | error cause => exact .inl ⟨_, _, rfl, .unidentified cause hcontent⟩
  | ok contentId =>
    rcases store.begin_spec with ⟨hclosed, error, hbegin⟩ | hbegin
    · simp only [hbegin]
      exact .inl ⟨_, _, rfl, .closed hclosed⟩
    · simp only [hbegin]
      have hstart : (ScanDraft.begun d ⟨store.table, store.access, store.dryRun⟩ file contentId).tx.dryRun = false :=
        hdry
      rcases ScanDraft.ends_askBackends d file contentId backends hstart with
        ⟨failure, calls, hfail, hreason⟩ | ⟨draft, hdone, found, hfound, hreaches⟩
      · have hreason : Unscannable d files backends store file := by
          rcases hreason with haccess | ⟨backend, hmem, hfails⟩
          · exact .readOnly haccess
          · exact .backend contentId hcontent backend hmem hfails
        simp only [ScanDraft.begun] at hfail
        simp only [hfail]
        exact .inl ⟨_, _, rfl, hreason⟩
      · simp only [ScanDraft.begun] at hdone
        simp only [hdone]
        rcases Transaction.put_spec (hreaches.dryRun.trans hdry) draft.record.entry with ⟨haccess, error, hput⟩ | hput
        · simp only [hput]
          exact .inl ⟨_, _, rfl, .readOnly (hreaches.access.symm.trans haccess)⟩
        · simp only [hput]
          obtain ⟨hstores, hentry⟩ := storesFindings_write rfl hreaches
          refine .inr ⟨contentId, found, draft.tx.table.write draft.record.entry, draft.calls, ?_, rfl, hfound, hstores⟩
          rw [← hentry]
          rfl

/-- **A scan is all or nothing.** It fails, for a reason that lies in the store, the file or a backend,
and leaves the store as it is; or it finds the file unchanged, and neither changes the store nor calls
a backend; or it stores exactly what was found, and returns the file's entry as it is stored. -/
theorem scanFile_all_or_nothing (hdry : store.dryRun = false) (force : Bool) :
    (∃ failure calls, scanFile d files backends store force file = ⟨.error failure, store, calls⟩ ∧
        Unscannable d files backends store file) ∨
      (force = false ∧ FileRecord.isUnchanged ⟨store.table.entryFor (Key.file d.key file.pathText)⟩ file = true ∧
        scanFile d files backends store force file =
          ⟨.ok ⟨file, store.table.entryFor (Key.file d.key file.pathText), .cached⟩, store, []⟩) ∨
      ∃ contentId, ∃ found : List (Finding file contentId), ∃ (table : Table) (calls : List BackendCall),
        scanFile d files backends store force file =
            ⟨.ok ⟨file, table.entryFor (Key.file d.key file.pathText), .processed⟩, { store with table }, calls⟩ ∧
          files.contentId d file.path = .ok contentId ∧ found.map Finding.backend = backends ∧
            StoresFindings d found store.table table := by
  unfold scanFile
  rcases store.begin_spec with ⟨hclosed, error, hbegin⟩ | hbegin
  · simp only [hbegin]
    exact .inl ⟨_, _, rfl, .closed hclosed⟩
  · simp only [hbegin]
    split
    case isTrue hcached =>
      simp only [Bool.and_eq_true, Bool.not_eq_true'] at hcached
      exact .inr (.inl ⟨hcached.1, hcached.2, rfl⟩)
    case isFalse =>
      rcases processFile_spec hdry with ⟨failure, calls, hfail, hreason⟩ | ⟨contentId, found, table, calls, hdone, hrest⟩
      · rw [hfail]
        exact .inl ⟨_, _, rfl, hreason⟩
      · rw [hdone]
        exact .inr (.inr ⟨contentId, found, table, calls, rfl, hrest⟩)

/-- A backend that knows the same of every file, and the same of every set. -/
def Backend.constant (name : String) (contribution : Contribution) (description : Fields) : Backend where
  name
  description := ""
  defaultGlobs := []
  start := .ok ()
  process _ _ := .ok contribution
  describe _ _ := .ok description
  stop := .ok ()

/-- A backend that knows the show. -/
def showBackend : Backend :=
  .constant "shows" ⟨Dict.ofList [("title", "Pilot")], [⟨"Fringe", "show", Dict.ofList [("year", "2008")]⟩]⟩
    (Dict.ofList [("genre", "drama")])

/-- A backend that knows the title better. -/
def titleBackend : Backend := .constant "titles" ⟨Dict.ofList [("title", "Pilot (HD)")], []⟩ Dict.empty

/-- Digests that tell everything. -/
def plainDigests : Digests := ⟨id, id, 4⟩

/-- A file of three bytes. -/
def pilot : FileInfo := ⟨.ofText "/pilot.mkv", 3, 0⟩

/-- The tree in which it lies. -/
def pilotFiles : FileTree := .onlyFile (.ofText "pilot.mkv") ⟨1, ⟨#[1, 2, 3]⟩, true, 0⟩

/-- A store in which it was smaller. -/
def pilotStore : Store :=
  .ofTable (Table.empty.write ⟨Key.file id "/pilot.mkv", Dict.ofList [("note", "seen"), ("size", "2")]⟩)

/-- The only file of a tree is identified by its content. -/
theorem FileTree.contentId_onlyFile {name : FileName} {path : FilePath} (hsteps : path.steps = [name])
    (hdots : name ≠ .here ∧ name ≠ .above) {data : FileData} (hreadable : data.readable = true) :
    (FileTree.onlyFile name data).contentId d path = .ok (ContentId.ofContent d.content d.blockSize data.content) := by
  rw [FileTree.contentId, FileTree.node?_onlyFile hsteps hdots, if_pos rfl]
  exact if_pos hreadable

/-- The file can be identified. -/
theorem contentId_pilot : pilotFiles.contentId plainDigests pilot.path = .ok "010203" := by
  have hid : ContentId.ofContent id 4 ⟨#[1, 2, 3]⟩ = "010203" := by decide +kernel
  have hcontent : pilotFiles.contentId plainDigests pilot.path = .ok (ContentId.ofContent id 4 ⟨#[1, 2, 3]⟩) :=
    FileTree.contentId_onlyFile (by decide +kernel) (by decide +kernel) rfl
  exact hcontent.trans (congrArg Except.ok hid)

/-- A file of which something is stored is scanned with two backends: the second one has the last word
on its title. -/
theorem scanFile_all_or_nothing_of_two_backends :
    pilotStore.dryRun = false ∧ ∃ (table : Table) (calls : List BackendCall),
      scanFile plainDigests pilotFiles [showBackend, titleBackend] pilotStore true pilot =
          ⟨.ok ⟨pilot, table.entryFor (Key.file id pilot.pathText), .processed⟩, { pilotStore with table }, calls⟩ ∧
        table.fieldsOf (Key.file id pilot.pathText) =
          (pilotStore.table.fieldsOf (Key.file id pilot.pathText)).insertMany
            (pilot.pairs "010203" ++
              [("title", "Pilot"), ("show", "set:shows:show:Fringe"), ("title", "Pilot (HD)")]) := by
  have hscannable : ¬Unscannable plainDigests pilotFiles [showBackend, titleBackend] pilotStore pilot := by
    intro h
    cases h with
    | closed h => cases h
    | readOnly h => cases h
    | unidentified cause h =>
      rw [contentId_pilot] at h
      cases h
    | backend contentId _ backend hmem hfails =>
      have hconstant : ∃ name contribution description, backend = .constant name contribution description := by
        rcases List.mem_cons.mp hmem with rfl | hmem
        · exact ⟨_, _, _, rfl⟩
        · exact ⟨_, _, _, List.mem_singleton.mp hmem⟩
      obtain ⟨name, contribution, description, rfl⟩ := hconstant
      rcases hfails with ⟨cause, h⟩ | ⟨_, _, a, _, cause, h⟩
      · cases h
      · cases h
  refine ⟨rfl, ?_⟩
  rcases @scanFile_all_or_nothing plainDigests pilotFiles [showBackend, titleBackend] pilotStore pilot rfl true with ⟨_, _, _, hreason⟩ | ⟨hforce, _⟩ |
    ⟨contentId, found, table, calls, hdone, hcontent, hfound, hstores⟩
  · exact absurd hreason hscannable
  · cases hforce
  · refine ⟨table, calls, hdone, ?_⟩
    rw [contentId_pilot] at hcontent
    cases hcontent
    obtain ⟨first, rest, rfl, hfirst, hrest⟩ := List.map_eq_cons_iff.mp hfound
    obtain ⟨second, rest, rfl, hsecond, hrest⟩ := List.map_eq_cons_iff.mp hrest
    obtain rfl := List.map_eq_nil_iff.mp hrest
    -- what is found is what the backends answer
    obtain ⟨_, _, hprocessed⟩ := first
    cases hfirst
    cases hprocessed
    obtain ⟨_, _, hprocessed⟩ := second
    cases hsecond
    cases hprocessed
    exact hstores.fields

end MediaCatalog
