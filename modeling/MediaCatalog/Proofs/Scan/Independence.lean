import MediaCatalog.Proofs.Scan.Sets

/-!
# Entries of which a scan takes no notice

A scan of a file reads and writes the entry of the file, and those of the sets with which backends associate
it. Under any other key there might as well be something else: the scan does the same, and leaves it there.

* `Table.replaced`: a table with something else under a key; other entries are read and written as before
  (`Table.entryFor_replaced`, `Table.write_replaced`).
* `ScanDraft.UnawareOf`: steps of a scan that take no notice of what is stored under a key, one by one and one
  after the other (`ScanDraft.unawareOf_foldlM`).
* `UnawareOf`: the same of a whole scan, which then leaves what is stored under the key (`UnawareOf.kept`).
* **Main result** (`unawareOf_scanFile`): a scan takes no notice of any other entry than that of its file and
  those of the sets that it joins.
-/

namespace MediaCatalog

/-! ## Something else under a key -/

namespace Table

/-- The table without what is stored under a key. -/
def without (t : Table) (key : Key) : Table :=
  ⟨t.rows.filter fun r => r.key ≠ key.text, t.ascending.filter _⟩

/-- The table with some fields, and no other ones, under a key. -/
def replaced (key : Key) (fields : Fields) (t : Table) : Table := (t.without key).write ⟨key, fields⟩

/-- What is stored under the other keys. -/
theorem fieldsOf_without (t : Table) (key other : Key) :
    (t.without key).fieldsOf other = if key = other then Dict.empty else t.fieldsOf other := by
  apply Dict.ext
  intro field
  apply Option.ext
  intro value
  rw [get?_fieldsOf]
  split
  case isTrue hsame =>
    subst hsame
    simp [without]
  case isFalse hne =>
    have htext : other.text ≠ key.text := fun h => hne (Key.eq_of_text h.symm)
    rw [get?_fieldsOf]
    simp [without, htext]

/-- **What is stored after a replacement**: the fields under the key, and the same as before under the others. -/
theorem fieldsOf_replaced (key : Key) (fields : Fields) (t : Table) (other : Key) :
    (t.replaced key fields).fieldsOf other = if key = other then fields else t.fieldsOf other := by
  unfold replaced
  rw [fieldsOf_write, fieldsOf_without]
  split
  · apply Dict.ext
    intro field
    rw [Dict.get?_union, Dict.get?_empty, Option.or_none]
  · rfl

variable {key : Key} (fields : Fields) (t : Table)

/-- Other entries are read as before. -/
theorem entryFor_replaced {other : Key} (h : other ≠ key) : (t.replaced key fields).entryFor other = t.entryFor other := by
  unfold entryFor
  rw [fieldsOf_replaced, if_neg h.symm]

/-- Other entries are written as before. -/
theorem write_replaced {e : Entry} (h : e.key ≠ key) : (t.replaced key fields).write e = (t.write e).replaced key fields := by
  apply ext_of_fieldsOf
  intro other
  rw [fieldsOf_write, fieldsOf_replaced, fieldsOf_replaced, fieldsOf_write]
  by_cases hsame : key = other
  · subst hsame
    rw [if_pos rfl, if_pos rfl, if_neg h]
  · rw [if_neg hsame, if_neg hsame]

/-- What is stored may take its own place. -/
theorem replaced_self (key : Key) : t.replaced key (t.fieldsOf key) = t := by
  apply ext_of_fieldsOf
  intro other
  rw [fieldsOf_replaced]
  split
  case isTrue hsame => rw [hsame]
  case isFalse => rfl

end Table

/-- The transaction on the table with other fields under a key. -/
def Transaction.replaced (key : Key) (fields : Fields) (tx : Transaction) : Transaction :=
  { tx with table := tx.table.replaced key fields }

/-- Other entries are put as before. -/
theorem Transaction.put_replaced {key : Key} (fields : Fields) (tx : Transaction) {e : Entry} (h : e.key ≠ key) :
    (tx.replaced key fields).put e = (tx.put e).map (replaced key fields) := by
  obtain ⟨table, access, dryRun⟩ := tx
  cases dryRun with
  | true => rfl
  | false =>
    cases access with
    | readWrite =>
      simp only [put, replaced, Table.tryWrite, table.write_replaced fields h]
      rfl
    | readOnly =>
      simp only [put, replaced, Table.tryWrite]
      cases e.isBlank <;> rfl

/-- The record of another file is loaded as before. -/
theorem Transaction.load_replaced {d : Digests} {file : FileInfo} {key : Key} (fields : Fields) (tx : Transaction)
    (h : Key.file d.key file.pathText ≠ key) :
    FileRecord.load d.key (tx.replaced key fields) file = FileRecord.load d.key tx file :=
  congrArg FileRecord.mk (tx.table.entryFor_replaced fields h)

/-- The store with other fields under a key. -/
def Store.replaced (key : Key) (fields : Fields) (store : Store) : Store :=
  { store with table := store.table.replaced key fields }

/-- A transaction begins with what is stored. -/
theorem Store.begin_replaced (key : Key) (fields : Fields) (store : Store) :
    (store.replaced key fields).begin = store.begin.map (Transaction.replaced key fields) := by
  obtain ⟨table, access, dryRun, isOpen⟩ := store
  cases isOpen <;> rfl

/-! ## Drafts -/

namespace ScanDraft

/-- The draft of a scan that has met other fields under a key. -/
def replaced (key : Key) (fields : Fields) (draft : ScanDraft) : ScanDraft :=
  { draft with tx := draft.tx.replaced key fields }

/-- A step that takes no notice of what is stored under a key, in the scan of a file with another key: with
other fields there it does the same, and leaves them there. -/
def UnawareOf (key : Key) (step : ScanDraft → ScanStep) : Prop :=
  ∀ draft, draft.record.entry.key ≠ key →
    (∀ fields, step (draft.replaced key fields) = (step draft).map (replaced key fields)) ∧
      ∀ after, step draft = .ok after → after.record.entry.key ≠ key

variable {key : Key}

/-- **A loop over steps** that take no notice takes none. -/
theorem unawareOf_foldlM {α : Type} {step : ScanDraft → α → ScanStep} {items : List α}
    (hstep : ∀ a ∈ items, UnawareOf key fun draft => step draft a) :
    UnawareOf key fun draft => items.foldlM step draft := by
  intro draft hdraft
  induction items generalizing draft with
  | nil =>
    refine ⟨fun fields => rfl, ?_⟩
    intro after hafter
    cases hafter
    exact hdraft
  | cons a items ih =>
    obtain ⟨hsame, hkey⟩ := hstep a List.mem_cons_self draft hdraft
    simp only [List.foldlM_cons, hsame]
    cases hnext : step draft a with
    | error failed => exact ⟨fun fields => rfl, nofun⟩
    | ok next => exact ih (fun a ha => hstep a (List.mem_cons_of_mem _ ha)) next (hkey next hnext)

variable {d : Digests} {file : FileInfo} {contentId : String} {backend : Backend}

/-- **Joining a set** takes no notice of the other entries. -/
theorem unawareOf_joinSet {a : SetAssociation} (h : a.key d backend.name ≠ key) :
    UnawareOf key fun draft => draft.joinSet d backend a := by
  intro draft hdraft
  have hload : ∀ fields, SetRecord.load d.key (draft.replaced key fields).tx backend.name a.kind a.name =
      SetRecord.load d.key draft.tx backend.name a.kind a.name := by
    intro fields
    exact congrArg (fun entry => SetRecord.mk entry a.kind a.name) (draft.tx.table.entryFor_replaced fields h)
  unfold joinSet
  simp only [hload]
  rcases (SetRecord.load d.key draft.tx backend.name a.kind a.name).enrich_outcome backend a with
    ⟨-, cause, -, henrich⟩ | ⟨changed, set, henrich, hcompletes, -, -⟩
  · simp only [henrich]
    exact ⟨fun fields => rfl, nofun⟩
  · simp only [henrich]
    have hset : set.entry.key ≠ key := by
      rw [hcompletes.key]
      exact h
    cases changed with
    | false =>
      refine ⟨fun fields => rfl, ?_⟩
      intro after hafter
      cases hafter
      exact hdraft
    | true =>
      have hput : ∀ fields, (draft.replaced key fields).tx.put set.entry =
          (draft.tx.put set.entry).map (Transaction.replaced key fields) := by
        intro fields
        exact draft.tx.put_replaced fields hset
      simp only [if_true, hput]
      cases draft.tx.put set.entry with
      | error error => exact ⟨fun fields => rfl, nofun⟩
      | ok tx =>
        refine ⟨fun fields => rfl, ?_⟩
        intro after hafter
        cases hafter
        exact hdraft

/-- **Asking a backend** takes no notice of the entries of sets with which it does not associate the file. -/
theorem unawareOf_askBackend (h : key ∉ backend.setKeys d file contentId) :
    UnawareOf key fun draft => draft.askBackend d file contentId backend := by
  intro draft hdraft
  unfold askBackend
  unfold Backend.setKeys at h
  cases hprocess : backend.process file contentId with
  | error cause => exact ⟨fun fields => rfl, nofun⟩
  | ok contribution =>
    rw [hprocess] at h
    have hjoins : ∀ a ∈ contribution.sets, UnawareOf key fun draft => draft.joinSet d backend a := by
      intro a ha
      apply unawareOf_joinSet
      rintro rfl
      exact h (List.mem_map_of_mem ha)
    let name := (file.path.name?.map Text.Utf8.lossy).getD ""
    exact unawareOf_foldlM hjoins
      ⟨draft.tx, draft.record.apply contribution.properties, draft.calls ++ [.process backend.name name contentId]⟩ hdraft

end ScanDraft

/-! ## Scans -/

/-- The result of a scan that has met other fields under a key. -/
def ScanResult.replaced (key : Key) (fields : Fields) (r : ScanResult) : ScanResult :=
  { r with store := r.store.replaced key fields }

/-- A scan takes no notice of what is stored under a key: with other fields there it has the same result and
makes the same calls, and it leaves the same, with those fields there. -/
def UnawareOf (key : Key) (scan : Store → ScanResult) : Prop :=
  ∀ store fields, scan (store.replaced key fields) = (scan store).replaced key fields

/-- **What a scan takes no notice of is kept.** -/
theorem UnawareOf.kept {key : Key} {scan : Store → ScanResult} (h : UnawareOf key scan) (store : Store) :
    (scan store).store.table.fieldsOf key = store.table.fieldsOf key := by
  have hself : store.replaced key (store.table.fieldsOf key) = store := by
    unfold Store.replaced
    rw [Table.replaced_self]
  have hscan := h store (store.table.fieldsOf key)
  rw [hself] at hscan
  have htable := congrArg (fun r : ScanResult => r.store.table.fieldsOf key) hscan
  exact htable.trans ((Table.fieldsOf_replaced key _ _ key).trans (if_pos rfl))

variable {d : Digests} {files : FileTree} {backends : List Backend} {file : FileInfo} {key : Key}

/-- **Processing a file** takes no notice of other entries. -/
theorem unawareOf_processFile (hfile : Key.file d.key file.pathText ≠ key)
    (hsets : key ∉ joinedKeys d files backends file) :
    UnawareOf key fun store => processFile d files backends store file := by
  intro store fields
  unfold joinedKeys at hsets
  unfold processFile
  cases hcontent : files.contentId d file.path with
  | error cause => rfl
  | ok contentId =>
    rw [hcontent] at hsets
    simp only [Store.begin_replaced]
    cases store.begin with
    | error error => rfl
    | ok tx =>
      have hbegun : ScanDraft.begun d (tx.replaced key fields) file contentId =
          (ScanDraft.begun d tx file contentId).replaced key fields := by
        unfold ScanDraft.begun
        rw [tx.load_replaced fields hfile]
        rfl
      have hasks : ∀ b ∈ backends, ScanDraft.UnawareOf key fun draft => draft.askBackend d file contentId b := by
        intro b hb
        apply ScanDraft.unawareOf_askBackend
        exact fun hmem => hsets (List.mem_flatMap.mpr ⟨b, hb, hmem⟩)
      obtain ⟨hasked, hkey⟩ := ScanDraft.unawareOf_foldlM hasks (.begun d tx file contentId) hfile
      simp only [Except.map]
      rw [← ScanDraft.begun, ← ScanDraft.begun, hbegun]
      simp only [hasked]
      cases hdone : backends.foldlM (ScanDraft.askBackend d file contentId) (.begun d tx file contentId) with
      | error failed => rfl
      | ok draft =>
        have hput : (draft.replaced key fields).tx.put draft.record.entry =
            (draft.tx.put draft.record.entry).map (Transaction.replaced key fields) :=
          draft.tx.put_replaced fields (hkey draft hdone)
        simp only [Except.map, ScanDraft.replaced] at hput ⊢
        rw [hput]
        cases draft.tx.put draft.record.entry <;> rfl

/-- **A scan takes no notice** of any other entry than that of its file and those of the sets that it joins. -/
theorem unawareOf_scanFile (hfile : Key.file d.key file.pathText ≠ key) (hsets : key ∉ joinedKeys d files backends file)
    (force : Bool) : UnawareOf key fun store => scanFile d files backends store force file := by
  intro store fields
  have hprocess := unawareOf_processFile hfile hsets store fields
  dsimp only at hprocess
  unfold scanFile
  simp only [Store.begin_replaced]
  cases store.begin with
  | error error => rfl
  | ok tx =>
    simp only [Except.map, tx.load_replaced fields hfile, hprocess]
    split <;> rfl

end MediaCatalog
