import MediaCatalog.Proofs.Scan.Sets

/-!
# The names of stored sets

A set gets its name when it is first stored, and backends usually leave it to the scan to say which. Then
every stored set bears one of the names under which files were associated with its key.

* `Backend.SparesNames`: a backend does not name sets itself; `Release.sparesNames_backend`.
* `Table.Names`: the names in a table are among those that are allowed for the keys.
* **One scan** (`names_scanFile`) and **a run** (`names_after_run`): names that backends come up with are
  the only ones that are stored.
* `stored_after_run`: whatever is stored is a set, or the entry of a file that was scanned.
-/

namespace MediaCatalog

/-- A backend leaves the names of sets to the scan. -/
structure Backend.SparesNames (b : Backend) : Prop where
  descriptions : ∀ kind name description, b.describe kind name = .ok description → description.get? nameField = none
  properties : ∀ file contentId contribution, b.process file contentId = .ok contribution →
    ∀ a ∈ contribution.sets, a.properties.get? nameField = none

/-- **The release backend** leaves the names of sets to the scan. -/
theorem Release.sparesNames_backend : Release.backend.SparesNames where
  descriptions kind name description h := by
    obtain rfl : Release.description kind name = description := Except.ok.inj h
    unfold Release.description
    split <;> simp [Dict.get?_insert, nameField]
  properties file contentId contribution h a ha := by
    obtain rfl : Release.contribution file = contribution := Except.ok.inj h
    unfold Release.contribution at ha
    split at ha
    · simp only [Release.sets, List.mem_cons, List.not_mem_nil, or_false] at ha
      rcases ha with rfl | rfl <;> simp [Dict.get?_insert, nameField]
    · cases ha

/-- **Completing a set** gives it its own name unless it has one. -/
theorem SetRecord.name_of_enrich {r after : SetRecord} {backend : Backend} {a : SetAssociation} {changed : Bool}
    (hdescription : ∀ description, backend.describe r.kind r.name = .ok description → description.get? nameField = none)
    (hproperties : a.properties.get? nameField = none) (h : r.enrich backend a = .ok (changed, after)) :
    after.entry.get? nameField = (r.entry.get? nameField).or (some r.name) := by
  have hassociated : ∀ (r : SetRecord) (changed : Bool),
      (r.completeAssociated changed a).2.entry.get? nameField = r.entry.get? nameField := by
    intro r changed
    have hget := r.entry.get?_complete a.properties nameField
    rw [hproperties, Option.or_none] at hget
    rw [completeAssociated, complete_eq]
    exact hget
  unfold enrich at h
  split at h
  case isTrue hnew =>
    cases hdescribe : backend.describe r.kind r.name with
    | error cause =>
      rw [hdescribe] at h
      cases h
    | ok description =>
      rw [hdescribe] at h
      cases h
      refine (hassociated (r.completeDescribed description).2 true).trans ?_
      have hdescribed := r.entry.get?_complete description nameField
      have hnamed := (r.entry.complete description).get?_complete (Dict.empty.insert nameField r.name) nameField
      rw [Dict.get?_insert_self] at hnamed
      rw [hdescription description hdescribe, Option.or_none] at hdescribed
      rw [completeDescribed_eq, complete_eq, complete_eq]
      exact hnamed.trans (congrArg (Option.or · (some r.name)) hdescribed)
  case isFalse hknown =>
    cases h
    refine (hassociated r false).trans ?_
    have hcontains : r.entry.contains nameField = true := by simpa [isNew] using hknown
    obtain ⟨name, hname⟩ : ∃ name, r.entry.get? nameField = some name := Option.isSome_iff_exists.mp hcontains
    simp [hname]

/-! ## Tables -/

namespace Table

/-- The names of sets are among those that are allowed for their keys. -/
def Names (allowed : Key → String → Prop) (t : Table) : Prop :=
  ∀ key, key.isSet = true → ∀ name, (t.fieldsOf key).get? nameField = some name → allowed key name

variable {allowed : Key → String → Prop} {t : Table} {e : Entry}

/-- A set is written under a name that is allowed. -/
theorem Names.write (h : t.Names allowed)
    (hname : e.key.isSet = true → ∀ name, e.get? nameField = some name → allowed e.key name) :
    (t.write e).Names allowed := by
  intro key hset name hget
  rw [fieldsOf_write] at hget
  split at hget
  case isTrue hkey =>
    subst hkey
    rw [Dict.get?_union] at hget
    rcases Option.or_eq_some_iff.mp hget with hnew | ⟨-, hold⟩
    · exact hname hset name hnew
    · exact h e.key hset name hold
  case isFalse => exact h key hset name hget

end Table

/-- What is written into a transaction is discarded or added to its table. -/
theorem Transaction.table_of_put {tx tx' : Transaction} {e : Entry} (h : tx.put e = .ok tx') :
    tx'.table = tx.table ∨ tx'.table = tx.table.write e := by
  by_cases hdry : tx.dryRun = true
  · unfold put at h
    rw [if_pos hdry] at h
    cases h
    exact .inl rfl
  · rw [Bool.not_eq_true] at hdry
    rcases put_spec hdry e with ⟨-, error, hput⟩ | hput
    · rw [hput] at h
      cases h
    · rw [hput] at h
      cases h
      exact .inr rfl

/-! ## Drafts -/

namespace ScanDraft

variable {d : Digests} {allowed : Key → String → Prop} {file : FileInfo} {b : Backend}

/-- The draft is about a file, and the names of sets in it are allowed. -/
structure NamesSets (allowed : Key → String → Prop) (draft : ScanDraft) : Prop where
  record : draft.record.entry.key.isSet = false
  names : draft.tx.table.Names allowed

/-- **Joining a set** under a name that is allowed. -/
theorem NamesSets.joinSet {draft draft' : ScanDraft} {a : SetAssociation} (h : draft.NamesSets allowed)
    (hspares : b.SparesNames) (hproperties : a.properties.get? nameField = none)
    (hallowed : allowed (a.key d b.name) a.name) (hjoin : draft.joinSet d b a = .ok draft') :
    draft'.NamesSets allowed := by
  unfold ScanDraft.joinSet at hjoin
  rcases (SetRecord.load d.key draft.tx b.name a.kind a.name).enrich_outcome b a with
    ⟨-, cause, -, henrich⟩ | ⟨changed, set, henrich, hcompletes, -, -⟩
  · simp only [henrich] at hjoin
    cases hjoin
  · have hkey : set.entry.key = a.key d b.name := hcompletes.key
    have hname : ∀ name, set.entry.get? nameField = some name → allowed set.entry.key name := by
      intro name hget
      rw [SetRecord.name_of_enrich (hspares.descriptions _ _) hproperties henrich] at hget
      rw [hkey]
      rcases Option.or_eq_some_iff.mp hget with hstored | ⟨-, hown⟩
      · exact h.names _ (Key.isSet_set d.key b.name a.kind a.name) name hstored
      · cases hown
        exact hallowed
    simp only [henrich] at hjoin
    cases changed with
    | false =>
      cases hjoin
      exact ⟨h.record, h.names⟩
    | true =>
      cases hput : draft.tx.put set.entry with
      | error error => simp [hput] at hjoin
      | ok tx =>
        simp only [hput, if_true, Except.ok.injEq] at hjoin
        subst hjoin
        refine ⟨h.record, ?_⟩
        rcases Transaction.table_of_put hput with hsame | hwritten
        · exact hsame ▸ h.names
        · exact hwritten ▸ h.names.write fun _ => hname

/-- **A loop over steps** keeps what its steps keep. -/
theorem NamesSets.foldlM {α : Type} {step : ScanDraft → α → ScanStep} {items : List α} {draft draft' : ScanDraft}
    (hstep : ∀ a ∈ items, ∀ x y : ScanDraft, x.NamesSets allowed → step x a = .ok y → y.NamesSets allowed)
    (h : draft.NamesSets allowed) (hloop : items.foldlM step draft = .ok draft') : draft'.NamesSets allowed := by
  induction items generalizing draft with
  | nil =>
    cases hloop
    exact h
  | cons a items ih =>
    rw [List.foldlM_cons] at hloop
    cases hnext : step draft a with
    | error failed =>
      rw [hnext] at hloop
      cases hloop
    | ok next =>
      rw [hnext] at hloop
      have hfirst := hstep a List.mem_cons_self draft next h hnext
      exact ih (fun b hb => hstep b (List.mem_cons_of_mem a hb)) hfirst hloop

end ScanDraft

/-! ## Scans -/

/-- A backend associates a file only with sets whose names are allowed. -/
def Backend.NamesAllowed (d : Digests) (allowed : Key → String → Prop) (file : FileInfo) (b : Backend) : Prop :=
  ∀ contentId contribution, b.process file contentId = .ok contribution →
    ∀ a ∈ contribution.sets, allowed (a.key d b.name) a.name

section scan

variable {d : Digests} {allowed : Key → String → Prop} {files : FileTree} {backends : List Backend} {store : Store}
  {file : FileInfo}

/-- Asking a backend that leaves the names of sets to the scan. -/
theorem ScanDraft.NamesSets.askBackend {draft draft' : ScanDraft} {contentId : String} {b : Backend}
    (h : draft.NamesSets allowed) (hspares : b.SparesNames) (hallowed : b.NamesAllowed d allowed file)
    (hask : draft.askBackend d file contentId b = .ok draft') : draft'.NamesSets allowed := by
  unfold ScanDraft.askBackend at hask
  cases hprocess : b.process file contentId with
  | error cause =>
    rw [hprocess] at hask
    cases hask
  | ok contribution =>
    rw [hprocess] at hask
    have happlied : ∀ calls, ScanDraft.NamesSets allowed
        { draft with record := draft.record.apply contribution.properties, calls } :=
      fun calls => ⟨h.record, h.names⟩
    refine (happlied _).foldlM ?_ hask
    intro a ha x y hx hjoin
    exact hx.joinSet hspares (hspares.properties file contentId contribution hprocess a ha)
      (hallowed contentId contribution hprocess a ha) hjoin

/-- A file that is processed is left out of the store, or the draft that all backends have worked on is
published. -/
theorem processFile_published :
    (processFile d files backends store file).store = store ∨
      ∃ contentId draft tx, backends.foldlM (ScanDraft.askBackend d file contentId)
            (.begun d ⟨store.table, store.access, store.dryRun⟩ file contentId) = .ok draft ∧
          draft.tx.put draft.record.entry = .ok tx ∧
            (processFile d files backends store file).store = store.commit tx := by
  unfold processFile
  cases hcontent : files.contentId d file.path with
  | error cause => exact .inl rfl
  | ok contentId =>
    rcases store.begin_spec with ⟨-, error, hbegin⟩ | hbegin
    · simp only [hbegin, true_or]
    · simp only [hbegin]
      rw [← ScanDraft.begun]
      cases hasked : backends.foldlM (ScanDraft.askBackend d file contentId)
          (.begun d ⟨store.table, store.access, store.dryRun⟩ file contentId) with
      | error failed => exact .inl rfl
      | ok draft =>
        cases hput : draft.tx.put draft.record.entry with
        | error error => simp only [hput, true_or]
        | ok tx =>
          simp only [hput]
          exact .inr ⟨contentId, draft, tx, hasked, hput, rfl⟩

/-- **A scan** stores names that are allowed, if backends leave the names of sets to it. -/
theorem names_scanFile (hspares : ∀ b ∈ backends, b.SparesNames) (hallowed : ∀ b ∈ backends, b.NamesAllowed d allowed file)
    (h : store.table.Names allowed) (force : Bool) :
    (scanFile d files backends store force file).store.table.Names allowed := by
  have hprocessed : (processFile d files backends store file).store.table.Names allowed := by
    rcases @processFile_published d files backends store file with
      hsame | ⟨contentId, draft, tx, hasked, hput, hstore⟩
    · rw [hsame]
      exact h
    · have hbegun : (ScanDraft.begun d ⟨store.table, store.access, store.dryRun⟩ file contentId).NamesSets allowed :=
        ⟨Key.isSet_file d.key file.pathText, h⟩
      have hdraft : draft.NamesSets allowed := by
        refine ScanDraft.NamesSets.foldlM ?_ hbegun hasked
        intro b hb x y hx hask
        exact hx.askBackend (hspares b hb) (hallowed b hb) hask
      rw [hstore]
      rcases Transaction.table_of_put hput with hsame | hwritten
      · exact (congrArg (Table.Names allowed) hsame).mpr hdraft.names
      · refine (congrArg (Table.Names allowed) hwritten).mpr (hdraft.names.write ?_)
        intro hset
        rw [hdraft.record] at hset
        cases hset
  by_cases hopen : store.isOpen = true
  · rw [scanFile_of_open d files backends file hopen]
    split
    · exact h
    · exact hprocessed
  · obtain ⟨failure, hfail⟩ := scanFile_of_closed d files backends file (Bool.not_eq_true _ ▸ hopen) force
    rw [hfail]
    exact h

end scan

/-! ## Runs -/

variable {d : Digests} {allowed : Key → String → Prop}

/-- **A run of scans** stores only names that backends come up with, if they leave the names of sets to the
scans. -/
theorem names_after_run {run : List ScanRequest} (hspares : ∀ q ∈ run, ∀ b ∈ q.backends, b.SparesNames)
    (hallowed : ∀ q ∈ run, ∀ b ∈ q.backends, b.NamesAllowed d allowed q.file) :
    (tableAfter d run).Names allowed := by
  induction run using List.reverseRecOn with
  | nil =>
    intro key hset name hget
    cases hget
  | append_singleton run q ih =>
    rw [tableAfter_concat]
    have hrun : (tableAfter d run).Names allowed :=
      ih (fun q hq => hspares q (List.mem_append_left _ hq)) fun q hq => hallowed q (List.mem_append_left _ hq)
    have hlast : q ∈ run ++ [q] := List.mem_append_right _ List.mem_cons_self
    exact @names_scanFile d allowed q.files q.backends (q.storeOn (tableAfter d run)) q.file (hspares q hlast)
      (hallowed q hlast) hrun q.force

/-- **What is stored** after a run of scans is a set or the entry of a file that was scanned. -/
theorem stored_after_run (run : List ScanRequest) {key : Key} (hstored : ((tableAfter d run).fieldsOf key).isEmpty = false) :
    key.isSet = true ∨ ∃ q ∈ run, key = q.key d := by
  induction run using List.reverseRecOn with
  | nil => cases hstored
  | append_singleton run q ih =>
    have hbefore : ((tableAfter d run).fieldsOf key).isEmpty = false →
        key.isSet = true ∨ ∃ q' ∈ run ++ [q], key = q'.key d := by
      intro hold
      apply (ih hold).imp_right
      rintro ⟨q', hq', hkey⟩
      exact ⟨q', List.mem_append_left _ hq', hkey⟩
    rw [tableAfter_concat] at hstored
    by_cases hprocessed : (q.scan d (tableAfter d run)).effort? = some .processed
    · obtain ⟨contentId, found, -, -, hstores⟩ := ScanRequest.stores_of_processed hprocessed
      by_cases hfile : key = q.key d
      · exact .inr ⟨q, List.mem_append_right _ List.mem_cons_self, hfile⟩
      by_cases hmem : key ∈ found.flatMap (Finding.setKeys d)
      · left
        obtain ⟨f, -, hf⟩ := List.mem_flatMap.mp hmem
        obtain ⟨a, -, rfl⟩ := List.mem_map.mp hf
        exact Key.isSet_set d.key f.backend.name a.kind a.name
      · rw [hstores.others key hfile hmem] at hstored
        exact hbefore hstored
    · rw [ScanRequest.table_of_not_processed hprocessed] at hstored
      exact hbefore hstored

end MediaCatalog
