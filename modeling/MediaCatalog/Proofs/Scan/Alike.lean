import MediaCatalog.Proofs.Record.Key
import MediaCatalog.Proofs.Scan.Runs

/-!
# What a scan of a file depends on

A scan reads little of a table: what is stored of its file, and which sets have been described. A set
that has not been described may do just as well, if its backend describes it. So a scan has the same
outcome on tables that differ in what earlier scans have written or left out.

* `Table.CanJoin`: a file can be joined to a set.
* `Table.Alike`: tables that scans cannot tell apart. It is an equivalence.
* `ScanDraft.GoesOn`, `Store.GoesOn`: what a scan changes, and that what it leaves is alike.
* `ScanDraft.stepsAgree_foldlM`: two loops side by side.
* **Main result** (`scanFile_agree`): on alike tables a scan has the same result, and leaves alike tables.
-/

namespace MediaCatalog

/-! ## Tables that are alike -/

/-- A file can be joined to a set: the set has been described, or the backend describes it. -/
def Table.CanJoin (d : Digests) (t : Table) (b : Backend) (kind name : String) : Prop :=
  (t.fieldsOf (Key.set d.key b.name kind name)).contains nameField = true ∨
    ∃ description, b.describe kind name = .ok description

/-- Backends whose sets have different keys, as long as they have certain names. -/
def SetKeysApart (d : Digests) (backends : List Backend) (names : Set String) : Prop :=
  ∀ b ∈ backends, ∀ b' ∈ backends, ∀ kind kind', ∀ name ∈ names, ∀ name' ∈ names,
    Key.set d.key b.name kind name = Key.set d.key b'.name kind' name' → b = b' ∧ kind = kind' ∧ name = name'

/-- The sets with which a backend associates a file have certain names. -/
def Backend.NamesWithin (b : Backend) (file : FileInfo) (contentId : String) (names : Set String) : Prop :=
  ∀ contribution, b.process file contentId = .ok contribution → ∀ a ∈ contribution.sets, a.name ∈ names

/-- Tables that scans cannot tell apart: the same is stored of the files at some paths, and files can be
joined to the same sets. -/
structure Table.Alike (d : Digests) (backends : List Backend) (names paths : Set String) (t u : Table) : Prop where
  files : ∀ path ∈ paths, t.fieldsOf (Key.file d.key path) = u.fieldsOf (Key.file d.key path)
  sets : ∀ b ∈ backends, ∀ kind, ∀ name ∈ names, t.CanJoin d b kind name ↔ u.CanJoin d b kind name

variable {d : Digests} {backends : List Backend} {names paths paths' : Set String}

namespace Table.Alike

variable {t u v : Table}

/-- A table is like itself. -/
theorem refl (t : Table) : Alike d backends names paths t t := ⟨fun _ _ => rfl, fun _ _ _ _ _ => Iff.rfl⟩

/-- `Alike` is symmetric. -/
theorem symm (h : Alike d backends names paths t u) : Alike d backends names paths u t :=
  ⟨fun path hpath => (h.files path hpath).symm, fun b hb kind name hname => (h.sets b hb kind name hname).symm⟩

/-- `Alike` is transitive. -/
theorem trans (h : Alike d backends names paths t u) (h' : Alike d backends names paths u v) :
    Alike d backends names paths t v :=
  ⟨fun path hpath => (h.files path hpath).trans (h'.files path hpath),
    fun b hb kind name hname => (h.sets b hb kind name hname).trans (h'.sets b hb kind name hname)⟩

/-- Fewer files matter. -/
theorem mono (h : Alike d backends names paths t u) (hsub : paths' ⊆ paths) : Alike d backends names paths' t u :=
  ⟨fun path hpath => h.files path (hsub hpath), h.sets⟩

end Table.Alike

/-- **A described set** can be written where it could be joined anyway. -/
theorem alike_write_set (hapart : SetKeysApart d backends names) {t : Table} {b : Backend} (hb : b ∈ backends)
    {kind name : String} (hname : name ∈ names) (hjoin : t.CanJoin d b kind name) {e : Entry}
    (hkey : e.key = Key.set d.key b.name kind name) (hnamed : e.contains nameField = true) :
    Table.Alike d backends names Set.univ t (t.write e) where
  files path _ := by
    have hne : e.key ≠ Key.file d.key path := by
      rw [hkey]
      exact (Key.file_ne_set d.key path b.name kind name).symm
    rw [Table.fieldsOf_write, if_neg hne]
  sets b' hb' kind' name' hname' := by
    unfold Table.CanJoin
    by_cases hsame : e.key = Key.set d.key b'.name kind' name'
    · -- the set itself, of which the other names are nothing else
      obtain ⟨rfl, rfl, rfl⟩ := hapart b hb b' hb' kind kind' name hname name' hname' (hkey.symm.trans hsame)
      have hwritten := t.contains_fieldsOf_write hnamed
      rw [hkey] at hwritten
      exact ⟨fun _ => .inl hwritten, fun _ => hjoin⟩
    · rw [Table.fieldsOf_write, if_neg hsame]

/-- The entry of a file can be written, unless the file matters. -/
theorem alike_write_file {t : Table} {e : Entry} {own : String} (hkey : e.key = Key.file d.key own)
    (hother : ∀ path ∈ paths, Key.file d.key own ≠ Key.file d.key path) :
    Table.Alike d backends names paths t (t.write e) where
  files path hpath := by
    have hne : e.key ≠ Key.file d.key path := by
      rw [hkey]
      exact hother path hpath
    rw [Table.fieldsOf_write, if_neg hne]
  sets b _ kind name _ := by
    have hne : e.key ≠ Key.set d.key b.name kind name := by
      rw [hkey]
      exact Key.file_ne_set d.key own b.name kind name
    unfold Table.CanJoin
    rw [Table.fieldsOf_write, if_neg hne]

/-! ## Drafts -/

/-- A transaction takes what is written: it is a dry run, or the database can be written. -/
def Transaction.Accepts (tx : Transaction) : Prop := tx.dryRun = true ∨ tx.access = .readWrite

/-- What becomes of what is written. -/
theorem Transaction.put_of_accepts {tx : Transaction} (h : tx.Accepts) (e : Entry) :
    (tx.dryRun = true ∧ tx.put e = .ok tx) ∨
      (tx.dryRun = false ∧ tx.put e = .ok { tx with table := tx.table.write e }) := by
  by_cases hdry : tx.dryRun = true
  · refine .inl ⟨hdry, ?_⟩
    unfold put
    rw [if_pos hdry]
    rfl
  · have haccess : tx.access = .readWrite := h.resolve_left hdry
    rw [Bool.not_eq_true] at hdry
    rcases put_spec hdry e with ⟨hreadOnly, -⟩ | hput
    · rw [haccess] at hreadOnly
      cases hreadOnly
    · exact .inr ⟨hdry, hput⟩

namespace ScanDraft

/-- How a draft goes on: it stays with its file and its store, a dry run writes nothing, and what is
written leaves the table alike. -/
structure GoesOn (d : Digests) (backends : List Backend) (names : Set String) (before after : ScanDraft) : Prop where
  access : after.tx.access = before.tx.access
  dryRun : after.tx.dryRun = before.tx.dryRun
  recordKey : after.record.entry.key = before.record.entry.key
  dry : before.tx.dryRun = true → after.tx.table = before.tx.table
  alike : Table.Alike d backends names Set.univ before.tx.table after.tx.table

/-- Nothing is done to the table. -/
theorem goesOn_of_tx {before after : ScanDraft} (htx : after.tx = before.tx)
    (hkey : after.record.entry.key = before.record.entry.key) : GoesOn d backends names before after := by
  obtain ⟨tx, record, calls⟩ := after
  subst htx
  exact ⟨rfl, rfl, hkey, fun _ => rfl, .refl _⟩

/-- One part goes on after the other. -/
theorem GoesOn.trans {a b c : ScanDraft} (h : GoesOn d backends names a b) (h' : GoesOn d backends names b c) :
    GoesOn d backends names a c where
  access := h'.access.trans h.access
  dryRun := h'.dryRun.trans h.dryRun
  recordKey := h'.recordKey.trans h.recordKey
  dry hdry := (h'.dry (h.dryRun.trans hdry)).trans (h.dry hdry)
  alike := h.alike.trans h'.alike

/-- What is written is still taken. -/
theorem GoesOn.accepts {a b : ScanDraft} (h : GoesOn d backends names a b) (ha : a.tx.Accepts) : b.tx.Accepts :=
  ha.imp h.dryRun.trans h.access.trans

/-- Two drafts of the same file agree in what is known of it, on alike tables that take what is written. -/
structure Agree (d : Digests) (backends : List Backend) (names paths : Set String) (x y : ScanDraft) : Prop where
  record : x.record = y.record
  alike : Table.Alike d backends names paths x.tx.table y.tx.table
  accepts : x.tx.Accepts
  accepts' : y.tx.Accepts

/-- Two steps agree: they fail alike, or both drafts go on and what is known of the file agrees. -/
def StepsAgree (d : Digests) (backends : List Backend) (names : Set String) (x y : ScanDraft) (s t : ScanStep) : Prop :=
  (∃ failure calls calls', s = .error (failure, calls) ∧ t = .error (failure, calls')) ∨
    ∃ x' y', s = .ok x' ∧ t = .ok y' ∧ x'.record = y'.record ∧ GoesOn d backends names x x' ∧ GoesOn d backends names y y'

variable {x y x' y' : ScanDraft}

/-- Drafts that agree still do so when both have gone on. -/
theorem Agree.goOn (h : Agree d backends names paths x y) (hrecord : x'.record = y'.record)
    (hx : GoesOn d backends names x x') (hy : GoesOn d backends names y y') : Agree d backends names paths x' y' where
  record := hrecord
  alike := ((hx.alike.mono (Set.subset_univ _)).symm.trans h.alike).trans (hy.alike.mono (Set.subset_univ _))
  accepts := hx.accepts h.accepts
  accepts' := hy.accepts h.accepts'

/-- Steps that agree, after both drafts have gone on. -/
theorem StepsAgree.after (hx : GoesOn d backends names x x') (hy : GoesOn d backends names y y') {s t : ScanStep}
    (h : StepsAgree d backends names x' y' s t) : StepsAgree d backends names x y s t := by
  rcases h with hfail | ⟨x'', y'', hs, ht, hrecord, hx', hy'⟩
  · exact .inl hfail
  · exact .inr ⟨x'', y'', hs, ht, hrecord, hx.trans hx', hy.trans hy'⟩

/-- **Two loops side by side** agree, if their steps do. -/
theorem stepsAgree_foldlM {α : Type} {step : ScanDraft → α → ScanStep} (items : List α)
    (hstep : ∀ a ∈ items, ∀ x y, Agree d backends names paths x y →
      StepsAgree d backends names x y (step x a) (step y a))
    (h : Agree d backends names paths x y) :
    StepsAgree d backends names x y (items.foldlM step x) (items.foldlM step y) := by
  induction items generalizing x y with
  | nil => exact .inr ⟨x, y, rfl, rfl, h.record, goesOn_of_tx rfl rfl, goesOn_of_tx rfl rfl⟩
  | cons a items ih =>
    rw [List.foldlM_cons, List.foldlM_cons]
    rcases hstep a List.mem_cons_self x y h with
      ⟨failure, calls, calls', hs, ht⟩ | ⟨x', y', hs, ht, hrecord, hx, hy⟩
    · rw [hs, ht]
      exact .inl ⟨failure, calls, calls', rfl, rfl⟩
    · rw [hs, ht]
      have hrest := ih (fun a ha => hstep a (List.mem_cons_of_mem _ ha)) (h.goOn hrecord hx hy)
      exact hrest.after hx hy

/-- **Joining a set** fails exactly if the file cannot be joined to it, and then as the backend fails to
describe it. Otherwise the file is linked to the set. -/
theorem joinSet_of_accepts (hapart : SetKeysApart d backends names) {b : Backend} (hb : b ∈ backends)
    {a : SetAssociation} (ha : a.name ∈ names) (haccepts : x.tx.Accepts) :
    (¬x.tx.table.CanJoin d b a.kind a.name ∧ ∃ cause calls, b.describe a.kind a.name = .error cause ∧
        x.joinSet d b a = .error (.above (.backend b.name) (.above (.backend b.name) cause), calls)) ∨
      (x.tx.table.CanJoin d b a.kind a.name ∧ ∃ x', x.joinSet d b a = .ok x' ∧
        x'.record = ⟨x.record.entry.insert a.kind (a.key d b.name).text⟩ ∧ GoesOn d backends names x x') := by
  rcases (SetRecord.load d.key x.tx b.name a.kind a.name).enrich_outcome b a with
    ⟨hnew, cause, hdescribe, henrich⟩ | ⟨changed, set, henrich, hcompletes, hnamed, hdescribed⟩
  · simp only [joinSet, henrich]
    refine .inl ⟨?_, cause, _, hdescribe, rfl⟩
    rintro (hnamed | ⟨description, hok⟩)
    · exact (x.isNew_load_iff d.key b.name a.kind a.name).mp hnew hnamed
    · cases hdescribe.symm.trans hok
  · simp only [joinSet, henrich]
    have hjoin : x.tx.table.CanJoin d b a.kind a.name := by
      by_cases hknown : x.Named (Key.set d.key b.name a.kind a.name)
      · exact .inl hknown
      · exact .inr (hdescribed ((x.isNew_load_iff d.key b.name a.kind a.name).mpr hknown))
    have hkey : set.entry.key = a.key d b.name := hcompletes.key
    have hrecord := join_loaded hcompletes x.record
    refine .inr ⟨hjoin, ?_⟩
    cases changed with
    | false => exact ⟨_, rfl, hrecord, goesOn_of_tx rfl rfl⟩
    | true =>
      rcases Transaction.put_of_accepts haccepts set.entry with ⟨-, hput⟩ | ⟨hdry, hput⟩
      · simp only [hput, if_true]
        exact ⟨_, rfl, hrecord, goesOn_of_tx rfl rfl⟩
      · simp only [hput, if_true]
        refine ⟨_, rfl, hrecord, rfl, rfl, rfl, ?_, alike_write_set hapart hb ha hjoin hkey hnamed⟩
        intro hdry'
        rw [hdry] at hdry'
        cases hdry'

/-- Joining the same set to drafts that agree. -/
theorem stepsAgree_joinSet (hapart : SetKeysApart d backends names) {b : Backend} (hb : b ∈ backends)
    {a : SetAssociation} (ha : a.name ∈ names) (h : Agree d backends names paths x y) :
    StepsAgree d backends names x y (x.joinSet d b a) (y.joinSet d b a) := by
  have hsame := h.alike.sets b hb a.kind a.name ha
  rcases joinSet_of_accepts hapart hb ha h.accepts with
    ⟨hno, cause, calls, hdescribe, hs⟩ | ⟨hyes, x', hs, hrecord, hx⟩
  · rcases joinSet_of_accepts hapart hb ha h.accepts' with ⟨-, cause', calls', hdescribe', ht⟩ | ⟨hyes, -⟩
    · obtain rfl : cause = cause' := Except.error.inj (hdescribe.symm.trans hdescribe')
      exact .inl ⟨_, calls, calls', hs, ht⟩
    · exact absurd (hsame.mpr hyes) hno
  · rcases joinSet_of_accepts hapart hb ha h.accepts' with ⟨hno, -⟩ | ⟨-, y', ht, hrecord', hy⟩
    · exact absurd (hsame.mp hyes) hno
    · refine .inr ⟨x', y', hs, ht, ?_, hx, hy⟩
      rw [hrecord, hrecord', h.record]

/-- **Asking a backend** about the same file on drafts that agree. -/
theorem stepsAgree_askBackend (hapart : SetKeysApart d backends names) {file : FileInfo} {contentId : String}
    {b : Backend} (hb : b ∈ backends) (hnames : b.NamesWithin file contentId names)
    (h : Agree d backends names paths x y) :
    StepsAgree d backends names x y (x.askBackend d file contentId b) (y.askBackend d file contentId b) := by
  unfold askBackend
  cases hprocess : b.process file contentId with
  | error cause => exact .inl ⟨_, _, _, rfl, rfl⟩
  | ok contribution =>
    have happlied : ∀ (draft : ScanDraft) (calls : List BackendCall), GoesOn d backends names draft
        { draft with record := draft.record.apply contribution.properties, calls } :=
      fun draft calls => goesOn_of_tx rfl rfl
    have hrecord : x.record.apply contribution.properties = y.record.apply contribution.properties := by rw [h.record]
    have hjoins : ∀ a ∈ contribution.sets, ∀ x y, Agree d backends names paths x y →
        StepsAgree d backends names x y (x.joinSet d b a) (y.joinSet d b a) := by
      intro a ha x y hagree
      exact stepsAgree_joinSet hapart hb (hnames contribution hprocess a ha) hagree
    exact StepsAgree.after (happlied x _) (happlied y _)
      (stepsAgree_foldlM contribution.sets hjoins (h.goOn hrecord (happlied x _) (happlied y _)))

end ScanDraft

/-! ## Stores -/

/-- A store can be scanned into: it is open, and it is a dry run or can be written. -/
structure Store.Accepts (s : Store) : Prop where
  isOpen : s.isOpen = true
  writes : s.dryRun = true ∨ s.access = .readWrite

/-- How a store goes on: a dry run is left as it is, and what is written leaves the table alike. -/
structure Store.GoesOn (d : Digests) (backends : List Backend) (names paths : Set String) (before after : Store) :
    Prop where
  accepts : before.Accepts → after.Accepts
  dry : before.dryRun = true → after = before
  alike : Table.Alike d backends names paths before.table after.table

/-- A store that is left as it is. -/
theorem Store.GoesOn.refl (s : Store) : Store.GoesOn d backends names paths s s := ⟨id, fun _ => rfl, .refl _⟩

variable {files : FileTree} {file : FileInfo} {s t : Store}

/-- Two scans agree: they have the same result, and both stores go on. -/
structure ScansAgree (d : Digests) (backends : List Backend) (names paths : Set String) (s t : Store)
    (r q : ScanResult) : Prop where
  result : r.result = q.result
  store : Store.GoesOn d backends names paths s r.store
  store' : Store.GoesOn d backends names paths t q.store

/-- Scans that leave the stores as they are. -/
theorem ScansAgree.of_unchanged (result : Except Failure ScannedFile) (calls calls' : List BackendCall) :
    ScansAgree d backends names paths s t ⟨result, s, calls⟩ ⟨result, t, calls'⟩ := ⟨rfl, .refl s, .refl t⟩

/-- **Committing a draft** of a file, whose entry is written over what is stored of it. -/
theorem ScanDraft.commit_of_accepts {contentId : String} {draft : ScanDraft} (haccepts : s.Accepts)
    (h : GoesOn d backends names (.begun d ⟨s.table, s.access, s.dryRun⟩ file contentId) draft)
    (hother : ∀ path ∈ paths, Key.file d.key file.pathText ≠ Key.file d.key path) :
    ∃ tx, draft.tx.put draft.record.entry = .ok tx ∧ Store.GoesOn d backends names paths s (s.commit tx) := by
  have halike : Table.Alike d backends names paths s.table draft.tx.table := h.alike.mono (Set.subset_univ _)
  rcases Transaction.put_of_accepts (h.accepts haccepts.writes) draft.record.entry with ⟨hdry, hput⟩ | ⟨hdry, hput⟩
  · have htable : draft.tx.table = s.table := h.dry (h.dryRun.symm.trans hdry)
    refine ⟨draft.tx, hput, ?_⟩
    unfold Store.commit
    rw [htable]
    exact .refl s
  · refine ⟨_, hput, fun haccepts => ⟨haccepts.isOpen, haccepts.writes⟩, ?_, ?_⟩
    · intro hdry'
      cases hdry.symm.trans (h.dryRun.trans hdry')
    · exact halike.trans (alike_write_file h.recordKey hother)

variable {accepting : List Backend} (hapart : SetKeysApart d backends names) (hsub : ∀ b ∈ accepting, b ∈ backends)
  (hnames : ∀ contentId, files.contentId d file.path = .ok contentId →
    ∀ b ∈ accepting, b.NamesWithin file contentId names)
include hapart hsub hnames

/-- **Processing a file** on alike tables. -/
theorem processFile_agree (hs : s.Accepts) (ht : t.Accepts) (halike : Table.Alike d backends names paths s.table t.table)
    (hfile : file.pathText ∈ paths) (hother : ∀ path ∈ paths', Key.file d.key file.pathText ≠ Key.file d.key path) :
    ScansAgree d backends names paths' s t (processFile d files accepting s file)
      (processFile d files accepting t file) := by
  unfold processFile
  cases hcontent : files.contentId d file.path with
  | error cause => exact .of_unchanged _ _ _
  | ok contentId =>
    simp only [Store.begin_of_open hs.isOpen, Store.begin_of_open ht.isOpen]
    have hbegun : ScanDraft.Agree d backends names paths (.begun d ⟨s.table, s.access, s.dryRun⟩ file contentId)
        (.begun d ⟨t.table, t.access, t.dryRun⟩ file contentId) := by
      refine ⟨?_, halike, hs.writes, ht.writes⟩
      unfold ScanDraft.begun FileRecord.load Transaction.entryFor Table.entryFor
      rw [halike.files file.pathText hfile]
    have hasks : ∀ b ∈ accepting, ∀ x y, ScanDraft.Agree d backends names paths x y →
        ScanDraft.StepsAgree d backends names x y (x.askBackend d file contentId b) (y.askBackend d file contentId b) := by
      intro b hb x y hagree
      exact ScanDraft.stepsAgree_askBackend hapart (hsub b hb) (hnames contentId hcontent b hb) hagree
    have hasked := ScanDraft.stepsAgree_foldlM accepting hasks hbegun
    simp only [ScanDraft.begun] at hasked
    rcases hasked with ⟨failure, calls, calls', hfail, hfail'⟩ | ⟨x, y, hdone, hdone', hrecord, hx, hy⟩
    · simp only [hfail, hfail']
      exact .of_unchanged _ _ _
    · obtain ⟨tx, hput, hstore⟩ := ScanDraft.commit_of_accepts hs hx hother
      obtain ⟨tx', hput', hstore'⟩ := ScanDraft.commit_of_accepts ht hy hother
      simp only [hdone, hdone', hput, hput']
      refine ⟨?_, hstore, hstore'⟩
      rw [hrecord]

/-- **Scans of a file on alike tables** have the same result, and leave the stores alike for other files. -/
theorem scanFile_agree (hs : s.Accepts) (ht : t.Accepts) (halike : Table.Alike d backends names paths s.table t.table)
    (hfile : file.pathText ∈ paths) (hother : ∀ path ∈ paths', Key.file d.key file.pathText ≠ Key.file d.key path)
    (force : Bool) :
    ScansAgree d backends names paths' s t (scanFile d files accepting s force file)
      (scanFile d files accepting t force file) := by
  rw [scanFile_of_open d files accepting file hs.isOpen, scanFile_of_open d files accepting file ht.isOpen]
  have hentry : s.table.entryFor (Key.file d.key file.pathText) = t.table.entryFor (Key.file d.key file.pathText) := by
    unfold Table.entryFor
    rw [halike.files file.pathText hfile]
  rw [hentry]
  split
  case isTrue => exact .of_unchanged _ _ _
  case isFalse =>
    obtain ⟨hresult, hstore, hstore'⟩ := processFile_agree hapart hsub hnames hs ht halike hfile hother
    refine ⟨?_, hstore, hstore'⟩
    rw [hresult]

end MediaCatalog
