import MediaCatalog.Proofs.Record.Key
import MediaCatalog.Proofs.Scan.Runs

/-!
# Sets over a run of scans

Sets are shared by files, so a scan meets sets that earlier scans have stored, and several backends
may name one set in the same scan. Whoever comes first has it described, and later ones only add to it.

* `describedKeys`: the sets that backends were asked to describe.
* `ScanDraft.Joins`: what a part of a scan does to sets, and which of them it has described.
* `ScanResult.KeepsSets`: the same of a whole scan.
* **Main result** (`sets_named_kept_described_once`): in a run of scans, every stored set has a name,
  no field of a set is changed or lost, and a set that is joined is described if it is new, once for all.
-/

namespace MediaCatalog

/-- An entry that completes what is stored under its key is what is stored once it is written. -/
theorem Table.fieldsOf_write_of_completes {t : Table} {e : Entry}
    (h : ∀ field value, (t.fieldsOf e.key).get? field = some value → e.get? field = some value) :
    (t.write e).fieldsOf e.key = e.fields := by
  rw [fieldsOf_write, if_pos rfl]
  apply Dict.ext
  intro field
  rw [Dict.get?_union]
  cases hstored : (t.fieldsOf e.key).get? field with
  | none => exact Option.or_none
  | some value =>
    have hvalue : e.fields.get? field = some value := h field value hstored
    rw [hvalue]
    rfl

variable {d : Digests}

/-! ## Which sets are described -/

/-- The keys of the sets that backends were asked to describe, in the order of the calls. -/
def describedKeys (d : Digests) (calls : List BackendCall) : List Key :=
  calls.filterMap fun
    | .describe backend kind name => some (Key.set d.key backend kind name)
    | _ => none

/-- Calls that are made later describe sets later. -/
theorem describedKeys_append (calls later : List BackendCall) :
    describedKeys d (calls ++ later) = describedKeys d calls ++ describedKeys d later :=
  List.filterMap_append

/-- The keys of the sets with which a backend associates a file. -/
def Backend.setKeys (d : Digests) (file : FileInfo) (contentId : String) (b : Backend) : List Key :=
  match b.process file contentId with
  | .ok contribution => contribution.sets.map (SetAssociation.key d b.name)
  | .error _ => []

/-- What a backend associates a file with has the key of a set. -/
theorem Backend.isSet_of_mem_setKeys {file : FileInfo} {contentId : String} {b : Backend} {key : Key}
    (h : key ∈ b.setKeys d file contentId) : key.isSet = true := by
  unfold setKeys at h
  cases hprocess : b.process file contentId with
  | error cause =>
    rw [hprocess] at h
    cases h
  | ok contribution =>
    rw [hprocess] at h
    obtain ⟨a, -, rfl⟩ := List.mem_map.mp h
    exact Key.isSet_set d.key b.name a.kind a.name

namespace ScanDraft

/-- Calls are added to those of a draft. The sets described in them are different ones that had not
been described, and something holds of them then. -/
def AddsCalls (d : Digests) (draft : ScanDraft) (calls : List BackendCall) (holds : Key → Prop) : Prop :=
  ∃ added, calls = draft.calls ++ added ∧ (describedKeys d added).Nodup ∧
    ∀ key ∈ describedKeys d added, ¬draft.Named key ∧ holds key

/-- No calls are added. -/
theorem AddsCalls.refl (draft : ScanDraft) (holds : Key → Prop) : AddsCalls d draft draft.calls holds :=
  ⟨[], (List.append_nil _).symm, List.nodup_nil, nofun⟩

/-- **Calls after calls.** A set that is named after the first ones is not described by the others. -/
theorem AddsCalls.trans {a b : ScanDraft} {calls : List BackendCall} {holds : Key → Prop}
    (h : AddsCalls d a b.calls b.Named) (h' : AddsCalls d b calls holds)
    (hbefore : ∀ key, a.Named key → b.Named key) (hafter : ∀ key, b.Named key → holds key) :
    AddsCalls d a calls holds := by
  obtain ⟨added, hcalls, hnodup, hkeys⟩ := h
  obtain ⟨added', hcalls', hnodup', hkeys'⟩ := h'
  refine ⟨added ++ added', ?_, ?_, ?_⟩
  · rw [hcalls', hcalls, List.append_assoc]
  · rw [describedKeys_append, List.nodup_append']
    refine ⟨hnodup, hnodup', ?_⟩
    intro key hmem hmem'
    exact (hkeys' key hmem').1 (hkeys key hmem).2
  · intro key hkey
    rw [describedKeys_append] at hkey
    rcases List.mem_append.mp hkey with hmem | hmem
    · exact ⟨(hkeys key hmem).1, hafter key (hkeys key hmem).2⟩
    · exact ⟨fun hnamed => (hkeys' key hmem).1 (hbefore key hnamed), (hkeys' key hmem).2⟩

/-- A part of a scan that joins sets: no field of an entry is changed or lost, every entry that it
touches is named, so are the sets that are joined, and what it has described is what was not named before. -/
structure Joins (d : Digests) (keys : List Key) (before after : ScanDraft) : Prop where
  dryRun : after.tx.dryRun = before.tx.dryRun
  recordKey : after.record.entry.key = before.record.entry.key
  kept : ∀ key field value, (before.tx.table.fieldsOf key).get? field = some value →
    (after.tx.table.fieldsOf key).get? field = some value
  touched : ∀ key, after.tx.table.fieldsOf key = before.tx.table.fieldsOf key ∨ after.Named key
  joined : ∀ key ∈ keys, after.Named key
  described : ∀ key, after.Named key → before.Named key ∨ key ∈ describedKeys d after.calls
  calls : AddsCalls d before after.calls after.Named

variable {keys keys' : List Key} {a b c : ScanDraft}

/-- Nothing is done. -/
theorem Joins.refl (draft : ScanDraft) : Joins d [] draft draft :=
  ⟨rfl, rfl, fun _ _ _ h => h, fun _ => .inl rfl, nofun, fun _ h => .inl h, .refl draft _⟩

/-- A set that is named stays so. -/
theorem Joins.named (h : Joins d keys a b) (key : Key) (hkey : a.Named key) : b.Named key := by
  obtain ⟨value, hvalue⟩ := Option.isSome_iff_exists.mp hkey
  exact Option.isSome_iff_exists.mpr ⟨value, h.kept key nameField value hvalue⟩

/-- One part is done after the other. -/
theorem Joins.trans (h : Joins d keys a b) (h' : Joins d keys' b c) : Joins d (keys ++ keys') a c where
  dryRun := h'.dryRun.trans h.dryRun
  recordKey := h'.recordKey.trans h.recordKey
  kept key field value hvalue := h'.kept key field value (h.kept key field value hvalue)
  touched key := by
    rcases h'.touched key with hsame | hnamed
    · rcases h.touched key with hsame' | hnamed'
      · exact .inl (hsame.trans hsame')
      · exact .inr (h'.named key hnamed')
    · exact .inr hnamed
  joined key hkey := by
    rcases List.mem_append.mp hkey with hmem | hmem
    · exact h'.named key (h.joined key hmem)
    · exact h'.joined key hmem
  described key hkey := by
    rcases h'.described key hkey with hnamed | hmem
    · obtain ⟨added, hcalls, -, -⟩ := h'.calls
      rw [hcalls, describedKeys_append]
      exact (h.described key hnamed).imp_right (List.mem_append_left _)
    · exact .inr hmem
  calls := h.calls.trans h'.calls h.named h'.named

/-- What a step does: it joins sets, or it fails after some calls. -/
def StepJoins (d : Digests) (keys : List Key) (draft : ScanDraft) : ScanStep → Prop
  | .ok after => Joins d keys draft after
  | .error (_, calls) => AddsCalls d draft calls fun _ => True

/-- A step after a part of a scan. -/
theorem Joins.step (h : Joins d keys a b) {step : ScanStep} (hstep : StepJoins d keys' b step) :
    StepJoins d (keys ++ keys') a step := by
  cases step with
  | ok after => exact h.trans hstep
  | error failed => exact h.calls.trans hstep h.named fun _ _ => trivial

/-- **A loop over steps** joins what its steps join, up to the first that fails. -/
theorem stepJoins_foldlM {α : Type} {step : ScanDraft → α → ScanStep} (keys : α → List Key)
    (hstep : ∀ a draft, draft.tx.dryRun = false → StepJoins d (keys a) draft (step draft a)) (items : List α)
    {draft : ScanDraft} (hdry : draft.tx.dryRun = false) :
    StepJoins d (items.flatMap keys) draft (items.foldlM step draft) := by
  induction items generalizing draft with
  | nil => exact .refl draft
  | cons a items ih =>
    rw [List.foldlM_cons, List.flatMap_cons]
    have hfirst := hstep a draft hdry
    cases hnext : step draft a with
    | error failed =>
      rw [hnext] at hfirst
      exact hfirst
    | ok next =>
      rw [hnext] at hfirst
      exact hfirst.step (ih (hfirst.dryRun.trans hdry))

/-- The calls of a step that may have a set described: it is described only if it was not before. -/
theorem addsCalls_describe (d : Digests) (draft : ScanDraft) (source kind name : String) {holds : Key → Prop}
    (hholds : holds (Key.set d.key source kind name)) :
    AddsCalls d draft
      (if (SetRecord.load d.key draft.tx source kind name).isNew then draft.calls ++ [.describe source kind name]
        else draft.calls)
      holds := by
  split
  case isTrue hnew =>
    refine ⟨[.describe source kind name], rfl, List.nodup_singleton _, ?_⟩
    intro key hkey
    obtain rfl : key = Key.set d.key source kind name := List.mem_singleton.mp hkey
    exact ⟨(draft.isNew_load_iff d.key source kind name).mp hnew, hholds⟩
  case isFalse => exact .refl draft holds

/-- After such a step the set is named already, or it was described. -/
theorem named_or_mem_describedKeys (d : Digests) (draft : ScanDraft) (source kind name : String) :
    draft.Named (Key.set d.key source kind name) ∨
      Key.set d.key source kind name ∈ describedKeys d
        (if (SetRecord.load d.key draft.tx source kind name).isNew then draft.calls ++ [.describe source kind name]
          else draft.calls) := by
  split
  case isTrue hnew =>
    rw [describedKeys_append]
    exact .inr (List.mem_append_right _ List.mem_cons_self)
  case isFalse hold =>
    rw [draft.isNew_load_iff, not_not] at hold
    exact .inl hold

/-- **Saving a set** that completes what is stored of it and has a name. -/
theorem joins_save {draft : ScanDraft} {e : Entry} {key : Key} (hkey : e.key = key)
    (hkept : ∀ field value, (draft.tx.table.fieldsOf e.key).get? field = some value → e.get? field = some value)
    (hnamed : e.contains nameField = true) {record : FileRecord} (hrecord : record.entry.key = draft.record.entry.key)
    {calls : List BackendCall} (hcalls : ∀ holds : Key → Prop, holds key → AddsCalls d draft calls holds)
    (hdescribed : draft.Named key ∨ key ∈ describedKeys d calls) :
    Joins d [key] draft ⟨{ draft.tx with table := draft.tx.table.write e }, record, calls⟩ := by
  subst hkey
  have hfields : (draft.tx.table.write e).fieldsOf e.key = e.fields := Table.fieldsOf_write_of_completes hkept
  have hother : ∀ key, key ≠ e.key → (draft.tx.table.write e).fieldsOf key = draft.tx.table.fieldsOf key := by
    intro key hne
    rw [Table.fieldsOf_write, if_neg hne.symm]
  have hwritten := draft.tx.table.contains_fieldsOf_write hnamed
  refine ⟨rfl, hrecord, ?_, ?_, ?_, ?_, hcalls _ hwritten⟩
  · intro key field value hvalue
    by_cases hsame : key = e.key
    · subst hsame
      exact hfields.symm ▸ hkept field value hvalue
    · exact (hother key hsame).symm ▸ hvalue
  · intro key
    by_cases hsame : key = e.key
    · subst hsame
      exact .inr hwritten
    · exact .inl (hother key hsame)
  · intro key hmem
    obtain rfl := List.mem_singleton.mp hmem
    exact hwritten
  · intro key hnamed
    by_cases hsame : key = e.key
    · subst hsame
      exact hdescribed
    · rw [Named, hother key hsame] at hnamed
      exact .inl hnamed

/-- **Joining a set** completes its entry, which has a name then. -/
theorem stepJoins_joinSet (d : Digests) (backend : Backend) (a : SetAssociation) (draft : ScanDraft)
    (hdry : draft.tx.dryRun = false) : StepJoins d [a.key d backend.name] draft (draft.joinSet d backend a) := by
  have hcalls : ∀ holds : Key → Prop, holds (a.key d backend.name) → AddsCalls d draft
      (if (SetRecord.load d.key draft.tx backend.name a.kind a.name).isNew then
        draft.calls ++ [.describe backend.name a.kind a.name] else draft.calls) holds :=
    fun holds hholds => addsCalls_describe d draft backend.name a.kind a.name hholds
  have hdescribed := named_or_mem_describedKeys d draft backend.name a.kind a.name
  unfold joinSet
  rcases (SetRecord.load d.key draft.tx backend.name a.kind a.name).enrich_outcome backend a with
    ⟨-, cause, -, henrich⟩ | ⟨changed, set, henrich, hcompletes, hnamed, -⟩
  · simp only [henrich]
    exact hcalls _ trivial
  · simp only [henrich]
    have hkey : set.entry.key = a.key d backend.name := hcompletes.key
    cases changed with
    | false =>
      -- nothing was missing, so the set had its name
      have hstored : draft.Named (a.key d backend.name) := by
        rw [hcompletes.unchanged rfl] at hnamed
        exact hnamed
      refine ⟨rfl, rfl, fun _ _ _ h => h, fun _ => .inl rfl, ?_, fun _ h => .inl h, hcalls _ hstored⟩
      intro key hmem
      obtain rfl := List.mem_singleton.mp hmem
      exact hstored
    | true =>
      rcases Transaction.put_spec hdry set.entry with ⟨-, error, hput⟩ | hput
      · simp only [hput, if_true]
        exact hcalls _ trivial
      · simp only [hput, if_true]
        have hrecord : (draft.record.join set).entry.key = draft.record.entry.key := rfl
        exact joins_save hkey (hkey.symm ▸ hcompletes.kept) hnamed hrecord hcalls hdescribed

/-- **Asking a backend** joins the sets with which it associates the file. -/
theorem stepJoins_askBackend (d : Digests) (file : FileInfo) (contentId : String) (backend : Backend) (draft : ScanDraft)
    (hdry : draft.tx.dryRun = false) :
    StepJoins d (backend.setKeys d file contentId) draft (draft.askBackend d file contentId backend) := by
  unfold askBackend Backend.setKeys
  cases backend.process file contentId with
  | error cause => exact ⟨_, rfl, List.nodup_nil, nofun⟩
  | ok contribution =>
    have happlied : ∀ name, Joins d [] draft
        { draft with
          record := draft.record.apply contribution.properties
          calls := draft.calls ++ [.process backend.name name contentId] } :=
      fun name => ⟨rfl, rfl, fun _ _ _ h => h, fun _ => .inl rfl, nofun, fun _ h => .inl h, _, rfl, List.nodup_nil, nofun⟩
    simp only [List.map_eq_flatMap]
    exact (happlied _).step (stepJoins_foldlM _ (stepJoins_joinSet d backend) contribution.sets hdry)

end ScanDraft

/-! ## One scan -/

/-- What a scan does to sets that were stored in a table: no field of a set is changed or lost, a set
that it touches is named, and what it has described are different sets that were not named before. If it
has processed its file, the sets that it has joined are named, and it has described those that were new. -/
structure ScanResult.KeepsSets (d : Digests) (keys : List Key) (before : Table) (r : ScanResult) : Prop where
  kept : ∀ key, key.isSet = true → ∀ field value, (before.fieldsOf key).get? field = some value →
    (r.store.table.fieldsOf key).get? field = some value
  touched : ∀ key, key.isSet = true →
    r.store.table.fieldsOf key = before.fieldsOf key ∨ (r.store.table.fieldsOf key).contains nameField = true
  joined : r.effort? = some .processed → ∀ key ∈ keys, (r.store.table.fieldsOf key).contains nameField = true
  described : r.effort? = some .processed → ∀ key ∈ keys, (before.fieldsOf key).contains nameField = false →
    key ∈ describedKeys d r.calls
  nodup : (describedKeys d r.calls).Nodup
  fresh : ∀ key ∈ describedKeys d r.calls, (before.fieldsOf key).contains nameField = false

/-- A scan that leaves the store alone keeps its sets, if what it has described is new. -/
theorem ScanResult.KeepsSets.of_store {keys : List Key} {before : Table} {r : ScanResult}
    (htable : r.store.table = before) (hprocessed : r.effort? ≠ some .processed)
    (hcalls : (describedKeys d r.calls).Nodup ∧
      ∀ key ∈ describedKeys d r.calls, (before.fieldsOf key).contains nameField = false) :
    r.KeepsSets d keys before := by
  subst htable
  exact ⟨fun _ _ _ _ h => h, fun _ _ => .inl rfl, fun h => absurd h hprocessed, fun h => absurd h hprocessed,
    hcalls.1, hcalls.2⟩

/-- A scan that fails has not processed its file. -/
theorem ScanResult.KeepsSets.of_error {keys : List Key} (failure : Failure) (store : Store) {calls : List BackendCall}
    (hcalls : (describedKeys d calls).Nodup ∧
      ∀ key ∈ describedKeys d calls, (store.table.fieldsOf key).contains nameField = false) :
    KeepsSets d keys store.table ⟨.error failure, store, calls⟩ := by
  refine of_store rfl ?_ hcalls
  intro hprocessed
  cases hprocessed

/-- Without calls no set is described. -/
theorem describedKeys_nil (table : Table) :
    (describedKeys d []).Nodup ∧ ∀ key ∈ describedKeys d [], (table.fieldsOf key).contains nameField = false := by
  refine ⟨List.nodup_nil, ?_⟩
  intro key hkey
  cases hkey

variable {files : FileTree} {backends : List Backend} {store : Store} {file : FileInfo}

/-- The keys of the sets that a scan of a file joins. -/
def joinedKeys (d : Digests) (files : FileTree) (backends : List Backend) (file : FileInfo) : List Key :=
  match files.contentId d file.path with
  | .ok contentId => backends.flatMap (Backend.setKeys d file contentId)
  | .error _ => []

/-- What a scan joins has the key of a set. -/
theorem isSet_of_mem_joinedKeys {key : Key} (h : key ∈ joinedKeys d files backends file) : key.isSet = true := by
  unfold joinedKeys at h
  cases hcontent : files.contentId d file.path with
  | error cause =>
    rw [hcontent] at h
    cases h
  | ok contentId =>
    rw [hcontent] at h
    obtain ⟨b, -, hkey⟩ := List.mem_flatMap.mp h
    exact b.isSet_of_mem_setKeys hkey

/-- In the calls of a draft that began with none, different sets are described, and new ones only. -/
theorem ScanDraft.AddsCalls.fresh {tx : Transaction} {record : FileRecord} {calls : List BackendCall}
    {holds : Key → Prop} (h : AddsCalls d ⟨tx, record, []⟩ calls holds) :
    (describedKeys d calls).Nodup ∧ ∀ key ∈ describedKeys d calls, (tx.table.fieldsOf key).contains nameField = false := by
  obtain ⟨added, hcalls, hnodup, hkeys⟩ := h
  obtain rfl : calls = added := hcalls
  exact ⟨hnodup, fun key hkey => Bool.not_eq_true _ ▸ (hkeys key hkey).1⟩

/-- **Publishing a draft** of a file, whose entry is no set. -/
theorem keepsSets_publish {keys : List Key} (hkeys : ∀ key ∈ keys, key.isSet = true) {contentId : String}
    {draft : ScanDraft}
    (h : ScanDraft.Joins d keys (.begun d ⟨store.table, store.access, store.dryRun⟩ file contentId) draft)
    (scanned : ScannedFile) :
    ScanResult.KeepsSets d keys store.table
      ⟨.ok scanned, { store with table := draft.tx.table.write draft.record.entry }, draft.calls⟩ := by
  have hset : ∀ key, key.isSet = true →
      (draft.tx.table.write draft.record.entry).fieldsOf key = draft.tx.table.fieldsOf key := by
    intro key hkey
    rw [Table.fieldsOf_write, if_neg]
    rintro rfl
    have hfile : draft.record.entry.key = Key.file d.key file.pathText := h.recordKey
    rw [hfile, Key.isSet_file] at hkey
    cases hkey
  obtain ⟨hnodup, hfresh⟩ := h.calls.fresh
  refine ⟨?_, ?_, ?_, ?_, hnodup, hfresh⟩
  · intro key hkey field value hvalue
    exact (hset key hkey).symm ▸ h.kept key field value hvalue
  · intro key hkey
    exact (hset key hkey).symm ▸ h.touched key
  · intro _ key hmem
    exact (hset key (hkeys key hmem)).symm ▸ h.joined key hmem
  · intro _ key hmem hnew
    refine (h.described key (h.joined key hmem)).resolve_left ?_
    exact Bool.not_eq_true _ ▸ hnew

/-- **Processing a file** keeps the sets. -/
theorem keepsSets_processFile (hdry : store.dryRun = false) :
    (processFile d files backends store file).KeepsSets d (joinedKeys d files backends file) store.table := by
  have hkeys : ∀ key ∈ joinedKeys d files backends file, key.isSet = true := fun _ => isSet_of_mem_joinedKeys
  unfold joinedKeys at hkeys ⊢
  unfold processFile
  cases hcontent : files.contentId d file.path with
  | error cause => exact .of_error _ store (describedKeys_nil store.table)
  | ok contentId =>
    rw [hcontent] at hkeys
    rcases store.begin_spec with ⟨-, error, hbegin⟩ | hbegin
    · simp only [hbegin]
      exact .of_error _ store (describedKeys_nil store.table)
    · simp only [hbegin]
      have hbegun : (ScanDraft.begun d ⟨store.table, store.access, store.dryRun⟩ file contentId).tx.dryRun = false := hdry
      have hstep := ScanDraft.stepJoins_foldlM (Backend.setKeys d file contentId)
        (ScanDraft.stepJoins_askBackend d file contentId) backends hbegun
      rw [← ScanDraft.begun]
      cases hasked : backends.foldlM (ScanDraft.askBackend d file contentId)
          (.begun d ⟨store.table, store.access, store.dryRun⟩ file contentId) with
      | error failed =>
        rw [hasked] at hstep
        exact .of_error _ store hstep.fresh
      | ok draft =>
        rw [hasked] at hstep
        rcases Transaction.put_spec (hstep.dryRun.trans hdry) draft.record.entry with ⟨-, error, hput⟩ | hput
        · simp only [hput]
          exact .of_error _ store hstep.calls.fresh
        · simp only [hput]
          exact keepsSets_publish hkeys hstep _

/-- **A scan** keeps the sets. -/
theorem keepsSets_scanFile (hdry : store.dryRun = false) (force : Bool) :
    (scanFile d files backends store force file).KeepsSets d (joinedKeys d files backends file) store.table := by
  by_cases hopen : store.isOpen = true
  · rw [scanFile_of_open d files backends file hopen]
    split
    case isTrue =>
      refine .of_store rfl ?_ (describedKeys_nil store.table)
      intro hprocessed
      cases hprocessed
    case isFalse =>
      obtain ⟨hkept, htouched, hjoined, hdescribed, hnodup, hfresh⟩ :=
        @keepsSets_processFile d files backends store file hdry
      have heffort := ScanResult.effort?_mapError (processFile d files backends store file) (.above .scan)
      exact ⟨hkept, htouched, heffort ▸ hjoined, heffort ▸ hdescribed, hnodup, hfresh⟩
  · obtain ⟨failure, hfail⟩ := scanFile_of_closed d files backends file (Bool.not_eq_true _ ▸ hopen) force
    rw [hfail]
    exact .of_error failure store (describedKeys_nil store.table)

/-! ## Runs of scans -/

/-- The keys of the sets that a scan joins. -/
def ScanRequest.joinedKeys (d : Digests) (r : ScanRequest) : List Key :=
  MediaCatalog.joinedKeys d r.files r.backends r.file

/-- Every scan of a run keeps the sets that are committed before it. -/
theorem keepsSets_scan (r : ScanRequest) (table : Table) : (r.scan d table).KeepsSets d (r.joinedKeys d) table :=
  @keepsSets_scanFile d r.files r.backends (r.storeOn table) r.file rfl r.force

/-- **Sets are named**, whichever scans have stored them. -/
theorem named_after_run (run : List ScanRequest) {key : Key} (hkey : key.isSet = true)
    (hstored : ((tableAfter d run).fieldsOf key).isEmpty = false) :
    ((tableAfter d run).fieldsOf key).contains nameField = true := by
  induction run using List.reverseRecOn with
  | nil => cases hstored
  | append_singleton run r ih =>
    rw [tableAfter_concat] at hstored ⊢
    rcases (keepsSets_scan r (tableAfter d run)).touched key hkey with hsame | hnamed
    · rw [hsame] at hstored ⊢
      exact ih hstored
    · exact hnamed

/-- **Sets are kept**: later scans neither change nor lose a field of a set. -/
theorem kept_after_run (run later : List ScanRequest) {key : Key} (hkey : key.isSet = true) {field value : String}
    (h : ((tableAfter d run).fieldsOf key).get? field = some value) :
    ((tableAfter d (run ++ later)).fieldsOf key).get? field = some value := by
  induction later using List.reverseRecOn with
  | nil =>
    rw [List.append_nil]
    exact h
  | append_singleton later r ih =>
    rw [← List.append_assoc, tableAfter_concat]
    exact (keepsSets_scan r (tableAfter d (run ++ later))).kept key hkey field value ih

/-- **Sets over a run of scans**, whatever backends do and whatever fails. Every stored set has a name;
no field of it is changed or lost by later scans; no scan has a set described twice; and of the sets that
a scan has joined exactly the new ones are described, and none of them by a later scan. -/
theorem sets_named_kept_described_once (d : Digests) (run : List ScanRequest) :
    (∀ e ∈ (tableAfter d run).entries, e.isSet = true → e.contains nameField = true) ∧
      (∀ e ∈ (tableAfter d run).entries, e.isSet = true → ∀ later field value, e.get? field = some value →
        ((tableAfter d (run ++ later)).entryFor e.key).get? field = some value) ∧
      ∀ r : ScanRequest, (describedKeys d (r.scan d (tableAfter d run)).calls).Nodup ∧
        ((r.scan d (tableAfter d run)).effort? = some .processed → ∀ key ∈ r.joinedKeys d,
          (key ∈ describedKeys d (r.scan d (tableAfter d run)).calls ↔
              ((tableAfter d run).fieldsOf key).contains nameField = false) ∧
            ∀ (later : List ScanRequest) (q : ScanRequest),
              key ∉ describedKeys d (q.scan d (tableAfter d (run ++ r :: later))).calls) := by
  refine ⟨?_, ?_, ?_⟩
  · intro e he hset
    obtain ⟨hstored, hblank⟩ := Table.mem_entries_iff.mp he
    rw [hstored] at hblank ⊢
    exact named_after_run run hset hblank
  · intro e he hset later field value hvalue
    obtain ⟨hstored, -⟩ := Table.mem_entries_iff.mp he
    rw [hstored] at hvalue
    exact kept_after_run run later hset hvalue
  · intro r
    have hscan := keepsSets_scan (d := d) r (tableAfter d run)
    refine ⟨hscan.nodup, ?_⟩
    intro hprocessed key hkey
    refine ⟨⟨hscan.fresh key, hscan.described hprocessed key hkey⟩, ?_⟩
    intro later q hdescribed
    obtain ⟨name, hname⟩ := Option.isSome_iff_exists.mp (hscan.joined hprocessed key hkey)
    rw [← tableAfter_concat] at hname
    have hlater := kept_after_run _ later (isSet_of_mem_joinedKeys hkey) hname
    rw [List.append_assoc, List.singleton_append] at hlater
    have hfresh := (keepsSets_scan q (tableAfter d (run ++ r :: later))).fresh key hdescribed
    unfold Dict.contains at hfresh
    rw [hlater] at hfresh
    cases hfresh

/-- A scan of the file with two backends that name the same set, whether or not it is unchanged. -/
def showRequest : ScanRequest := ⟨pilotFiles, [showBackend, showBackend], .readWrite, true, true, pilot⟩

/-- The show that both of them name. -/
def showKey : Key := Key.set id "shows" "show" "Fringe"

/-- The first scan has the show described once, and the second one does not. -/
theorem sets_described_once_of_two_scans :
    (showRequest.scan plainDigests .empty).effort? = some .processed ∧ showKey ∈ showRequest.joinedKeys plainDigests ∧
      describedKeys plainDigests (showRequest.scan plainDigests .empty).calls = [showKey] ∧
        showKey ∉ describedKeys plainDigests
          (showRequest.scan plainDigests (tableAfter plainDigests [showRequest])).calls := by
  have hscan : (showRequest.scan plainDigests .empty).effort? = some .processed ∧
      describedKeys plainDigests (showRequest.scan plainDigests .empty).calls = [showKey] := by
    simp only [ScanRequest.scan, showRequest, scanFile, processFile, contentId_pilot]
    decide +kernel
  have hjoined : showKey ∈ showRequest.joinedKeys plainDigests := by
    simp only [ScanRequest.joinedKeys, joinedKeys, showRequest, contentId_pilot]
    decide +kernel
  have honce := (((sets_named_kept_described_once plainDigests []).2.2 showRequest).2 hscan.1 showKey hjoined).2
  exact ⟨hscan.1, hjoined, hscan.2, honce [] showRequest⟩

end MediaCatalog
