import MediaCatalog.Proofs.Backend.Registry
import MediaCatalog.Proofs.Scan.Alike
import MediaCatalog.Proofs.Scan.Walk

/-!
# Backends are asked in turn

About one file the backends that accept it are asked in the order of their names, until one of them fails: it cannot
process the file, or cannot describe a set. Whether a backend has failed can be told from the calls that it received.

* `Backend.FailedIn`: a backend failed on a file, by the calls for it.
* `AsksInTurn`: the calls of backends that are asked one after the other; `AsksInTurn.process_mem_iff` says which of
  them are asked.
* `ScanDraft.Calls`: what a step of a scan adds to the calls, and `ScanDraft.Calls.bind` for two steps.
* `FileTurn`: how backends are called for one file of a scan.
* **Main result** (`fileTurn_outcomeItem`): each file has its turn.
-/

namespace MediaCatalog

/-! ## Calls for one file -/

/-- The backend that receives a call. -/
def BackendCall.receiver : BackendCall → String
  | start backend => backend
  | process backend _ _ => backend
  | describe backend _ _ => backend
  | stop backend => backend

/-- The backend that is asked about a file. -/
def BackendCall.processor? : BackendCall → Option String
  | process backend _ _ => some backend
  | _ => none

/-- The name of a file that backends are told. -/
def FileInfo.toldName (file : FileInfo) : String := (file.path.name?.map Text.Utf8.lossy).getD ""

namespace Backend

/-- The calls of a backend that is asked about a file: to process it, and then to describe sets. -/
def Asked (b : Backend) (file : FileInfo) (contentId : String) (calls : List BackendCall) : Prop :=
  ∃ descriptions, calls = .process b.name file.toldName contentId :: descriptions ∧
    ∀ call ∈ descriptions, ∃ kind name, call = .describe b.name kind name

/-- A backend failed on a file: it was asked about the file or to describe a set, and could not answer. -/
def FailedIn (b : Backend) (file : FileInfo) (contentId : String) (calls : List BackendCall) : Prop :=
  (.process b.name file.toldName contentId ∈ calls ∧ ∃ cause, b.process file contentId = .error cause) ∨
    ∃ kind name, .describe b.name kind name ∈ calls ∧ ∃ cause, b.describe kind name = .error cause

/-- Calls to describe sets, all of which a backend answers. -/
def Described (b : Backend) (calls : List BackendCall) : Prop :=
  ∀ call ∈ calls, ∃ kind name, call = .describe b.name kind name ∧ ∃ description, b.describe kind name = .ok description

/-- Calls to describe sets, the last of which a backend cannot answer. -/
def FailsToDescribe (b : Backend) (calls : List BackendCall) : Prop :=
  ∃ before kind name cause, calls = before ++ [.describe b.name kind name] ∧ b.Described before ∧
    b.describe kind name = .error cause

variable {b : Backend} {file : FileInfo} {contentId : String} {calls calls' : List BackendCall}

/-- One description after the other. -/
theorem Described.append (h : b.Described calls) (h' : b.Described calls') : b.Described (calls ++ calls') :=
  List.forall_mem_append.mpr ⟨h, h'⟩

/-- A description that fails after others. -/
theorem Described.failsToDescribe (h : b.Described calls) (h' : b.FailsToDescribe calls') :
    b.FailsToDescribe (calls ++ calls') := by
  obtain ⟨before, kind, name, cause, rfl, hbefore, hdescribe⟩ := h'
  exact ⟨calls ++ before, kind, name, cause, (List.append_assoc _ _ _).symm, h.append hbefore, hdescribe⟩

/-- A backend receives the calls with which it is asked. -/
theorem Asked.receiver_eq (h : b.Asked file contentId calls) {call : BackendCall} (hcall : call ∈ calls) :
    call.receiver = b.name := by
  obtain ⟨descriptions, rfl, hdescriptions⟩ := h
  rcases List.mem_cons.mp hcall with rfl | hmem
  · rfl
  · obtain ⟨kind, name, rfl⟩ := hdescriptions call hmem
    rfl

/-- A backend is asked once about the file, with its content identifier. -/
theorem Asked.process_mem_iff (h : b.Asked file contentId calls) (contentId' : String) :
    .process b.name file.toldName contentId' ∈ calls ↔ contentId' = contentId := by
  obtain ⟨descriptions, rfl, hdescriptions⟩ := h
  rw [List.mem_cons]
  constructor
  · rintro (heq | hmem)
    · cases heq
      rfl
    · obtain ⟨kind, name, heq⟩ := hdescriptions _ hmem
      cases heq
  · rintro rfl
    exact .inl rfl

/-- The backend is the only one that is asked about the file. -/
theorem Asked.processors (h : b.Asked file contentId calls) :
    calls.filterMap BackendCall.processor? = [b.name] := by
  obtain ⟨descriptions, rfl, hdescriptions⟩ := h
  have hnone : descriptions.filterMap BackendCall.processor? = [] := by
    rw [List.filterMap_eq_nil_iff]
    intro call hcall
    obtain ⟨kind, name, rfl⟩ := hdescriptions call hcall
    rfl
  rw [List.filterMap_cons, hnone]
  rfl

/-- A backend fails by a call that it receives. -/
theorem FailedIn.exists_call (h : b.FailedIn file contentId calls) :
    ∃ call ∈ calls, call.receiver = b.name := by
  rcases h with ⟨hcall, -⟩ | ⟨kind, name, hcall, -⟩
  · exact ⟨_, hcall, rfl⟩
  · exact ⟨_, hcall, rfl⟩

/-- A backend fails by one part of the calls or by the other. -/
theorem failedIn_append :
    b.FailedIn file contentId (calls ++ calls') ↔
      b.FailedIn file contentId calls ∨ b.FailedIn file contentId calls' := by
  unfold FailedIn
  simp only [List.mem_append, or_and_right, exists_or]
  exact or_or_or_comm

/-- A backend that cannot process the file has failed. -/
theorem failedIn_of_process {cause : Failure} (h : b.process file contentId = .error cause) :
    b.Asked file contentId [.process b.name file.toldName contentId] ∧
      b.FailedIn file contentId [.process b.name file.toldName contentId] :=
  ⟨⟨[], rfl, List.forall_mem_nil _⟩, .inl ⟨List.mem_cons_self, cause, h⟩⟩

/-- A backend that processes the file, but cannot describe a set, has failed. -/
theorem FailsToDescribe.failedIn (h : b.FailsToDescribe calls) :
    b.Asked file contentId (.process b.name file.toldName contentId :: calls) ∧
      b.FailedIn file contentId (.process b.name file.toldName contentId :: calls) := by
  obtain ⟨before, kind, name, cause, rfl, hbefore, hdescribe⟩ := h
  refine ⟨⟨_, rfl, ?_⟩, .inr ⟨kind, name, ?_, cause, hdescribe⟩⟩
  · intro call hcall
    rcases List.mem_append.mp hcall with hmem | hmem
    · obtain ⟨kind, name, heq, -⟩ := hbefore call hmem
      exact ⟨kind, name, heq⟩
    · exact ⟨kind, name, List.mem_singleton.mp hmem⟩
  · exact List.mem_cons_of_mem _ (List.mem_append_right _ List.mem_cons_self)

/-- A backend that processes the file and describes the sets has not failed. -/
theorem Described.not_failedIn (h : b.Described calls) {contribution : Contribution}
    (hprocess : b.process file contentId = .ok contribution) :
    b.Asked file contentId (.process b.name file.toldName contentId :: calls) ∧
      ¬b.FailedIn file contentId (.process b.name file.toldName contentId :: calls) := by
  refine ⟨⟨calls, rfl, ?_⟩, ?_⟩
  · intro call hcall
    obtain ⟨kind, name, heq, -⟩ := h call hcall
    exact ⟨kind, name, heq⟩
  · rintro (⟨-, cause, hfail⟩ | ⟨kind, name, hcall, cause, hfail⟩)
    · cases hprocess.symm.trans hfail
    · rcases List.mem_cons.mp hcall with heq | hmem
      · cases heq
      · obtain ⟨kind', name', heq, description, hdescribe⟩ := h _ hmem
        cases heq
        cases hdescribe.symm.trans hfail

end Backend

/-! ## Asking in turn -/

/-- No backend is before the first one. -/
theorem Backend.not_lt_head {first : Backend} {rest : List Backend}
    (hnames : ((first :: rest).map (·.name)).Pairwise (· < ·)) {b : Backend} (hb : b ∈ first :: rest) :
    ¬b.name < first.name := by
  rcases List.mem_cons.mp hb with rfl | hrest
  · exact String.lt_irrefl _
  · exact String.lt_asymm ((List.pairwise_cons.mp hnames).1 _ (List.mem_map_of_mem hrest))

/-- Backends are asked about a file one after the other, until one of them fails. -/
inductive AsksInTurn (file : FileInfo) (contentId : String) : List Backend → List BackendCall → Prop where
  | done : AsksInTurn file contentId [] []
  | failed {b : Backend} {rest : List Backend} {own : List BackendCall} (hasked : b.Asked file contentId own)
    (hfailed : b.FailedIn file contentId own) : AsksInTurn file contentId (b :: rest) own
  | next {b : Backend} {rest : List Backend} {own calls : List BackendCall} (hasked : b.Asked file contentId own)
    (hanswered : ¬b.FailedIn file contentId own) (hrest : AsksInTurn file contentId rest calls) :
    AsksInTurn file contentId (b :: rest) (own ++ calls)

namespace AsksInTurn

variable {file : FileInfo} {contentId : String} {backends : List Backend} {calls : List BackendCall}

/-- The calls are those with which one of the backends is asked. -/
theorem exists_asked (h : AsksInTurn file contentId backends calls) {call : BackendCall} (hcall : call ∈ calls) :
    ∃ b ∈ backends, ∃ own, b.Asked file contentId own ∧ call ∈ own := by
  induction h with
  | done => cases hcall
  | failed hasked _ => exact ⟨_, List.mem_cons_self, _, hasked, hcall⟩
  | next hasked _ _ ih =>
    rcases List.mem_append.mp hcall with hmem | hmem
    · exact ⟨_, List.mem_cons_self, _, hasked, hmem⟩
    · obtain ⟨b, hb, own, hown, hmem⟩ := ih hmem
      exact ⟨b, List.mem_cons_of_mem _ hb, own, hown, hmem⟩

/-- **The backends that are asked** are the first ones. -/
theorem processors_prefix (h : AsksInTurn file contentId backends calls) :
    calls.filterMap BackendCall.processor? <+: backends.map (·.name) := by
  induction h with
  | done => exact List.nil_prefix
  | failed hasked _ =>
    rw [hasked.processors, List.map_cons]
    exact (List.prefix_cons_inj _).mpr List.nil_prefix
  | next hasked _ _ ih =>
    rw [List.filterMap_append, hasked.processors, List.map_cons]
    exact (List.prefix_cons_inj _).mpr ih

/-- Only these backends receive calls. -/
theorem receiver_mem (h : AsksInTurn file contentId backends calls) {call : BackendCall} (hcall : call ∈ calls) :
    call.receiver ∈ backends.map (·.name) := by
  obtain ⟨b, hb, own, hown, hmem⟩ := h.exists_asked hcall
  rw [hown.receiver_eq hmem]
  exact List.mem_map_of_mem hb

/-- A backend of another name has not failed. -/
theorem not_failedIn_of_name (h : AsksInTurn file contentId backends calls) {b : Backend}
    (hb : b.name ∉ backends.map (·.name)) : ¬b.FailedIn file contentId calls := by
  intro hfailed
  obtain ⟨call, hcall, hreceiver⟩ := hfailed.exists_call
  exact hb (hreceiver ▸ h.receiver_mem hcall)

/-- **A backend is asked** exactly if none before it has failed. By induction on the turns: the first backend is asked
in any case, and its calls tell nothing of the others. -/
theorem process_mem_iff (h : AsksInTurn file contentId backends calls)
    (hnames : (backends.map (·.name)).Pairwise (· < ·)) {b : Backend} (hb : b ∈ backends) (contentId' : String) :
    .process b.name file.toldName contentId' ∈ calls ↔
      contentId' = contentId ∧ ∀ b' ∈ backends, b'.name < b.name → ¬b'.FailedIn file contentId calls := by
  induction h with
  | done => cases hb
  | @failed first rest own hasked hfailed =>
    rcases List.mem_cons.mp hb with rfl | hrest
    · rw [hasked.process_mem_iff]
      exact (and_iff_left fun b' hb' hlt => absurd hlt (Backend.not_lt_head hnames hb')).symm
    · -- the first one has failed, so no other one is asked
      have hlt : first.name < b.name := (List.pairwise_cons.mp hnames).1 _ (List.mem_map_of_mem hrest)
      refine iff_of_false ?_ ?_
      · intro hmem
        exact String.ne_of_lt hlt (hasked.receiver_eq hmem).symm
      · rintro ⟨-, hnone⟩
        exact hnone first List.mem_cons_self hlt hfailed
  | @next first rest own calls hasked hanswered hturns ih =>
    obtain ⟨hbefore, htail⟩ := List.pairwise_cons.mp hnames
    have hfirst : first.name ∉ rest.map (·.name) := fun hmem => String.lt_irrefl _ (hbefore _ hmem)
    rw [List.mem_append]
    rcases List.mem_cons.mp hb with rfl | hrest
    · have hlater : ∀ call ∈ calls, call.receiver ≠ b.name :=
        fun call hcall heq => hfirst (heq ▸ hturns.receiver_mem hcall)
      rw [hasked.process_mem_iff, or_iff_left fun hmem => hlater _ hmem rfl]
      exact (and_iff_left fun b' hb' hlt => absurd hlt (Backend.not_lt_head hnames hb')).symm
    · have hother : ∀ b' ∈ rest, ∀ call ∈ own, call.receiver ≠ b'.name := by
        intro b' hb' call hcall heq
        exact hfirst (((hasked.receiver_eq hcall).symm.trans heq) ▸ List.mem_map_of_mem hb')
      rw [or_iff_right fun hmem => hother b hrest _ hmem rfl, ih htail hrest, List.forall_mem_cons]
      refine and_congr_right fun _ => ?_
      -- the first one has answered, and its calls are no others'
      have hown : ¬first.FailedIn file contentId (own ++ calls) := by
        rw [Backend.failedIn_append]
        exact not_or_intro hanswered (hturns.not_failedIn_of_name hfirst)
      rw [and_iff_right fun _ => hown]
      refine forall₂_congr fun b' hb' => imp_congr_right fun _ => not_congr ?_
      rw [Backend.failedIn_append, or_iff_right]
      intro hfailed
      obtain ⟨call, hcall, hreceiver⟩ := hfailed.exists_call
      exact hother b' hb' call hcall hreceiver

end AsksInTurn

/-! ## Drafts -/

/-- What is written is taken, and more can be written. -/
theorem Transaction.Accepts.exists_put {tx : Transaction} (h : tx.Accepts) (e : Entry) :
    ∃ tx', tx.put e = .ok tx' ∧ tx'.Accepts := by
  rcases Transaction.put_of_accepts h e with ⟨-, hput⟩ | ⟨-, hput⟩
  · exact ⟨tx, hput, h⟩
  · exact ⟨_, hput, h⟩

namespace ScanDraft

/-- How a step adds to the calls: it fails with certain calls, or goes on with others. -/
def Calls (draft : ScanDraft) (step : ScanStep) (Failed Done : List BackendCall → Prop) : Prop :=
  (∃ failure calls, step = .error (failure, draft.calls ++ calls) ∧ Failed calls) ∨
    ∃ draft' calls, step = .ok draft' ∧ draft'.calls = draft.calls ++ calls ∧ draft'.tx.Accepts ∧ Done calls

/-- **One step after the other** adds the calls of both, unless the first one fails. -/
theorem Calls.bind {draft : ScanDraft} {step : ScanStep} {next : ScanDraft → ScanStep}
    {Failed Done Failed' Done' Fails Ends : List BackendCall → Prop} (h : draft.Calls step Failed Done)
    (hnext : ∀ draft' : ScanDraft, draft'.tx.Accepts → draft'.Calls (next draft') Failed' Done')
    (hfirst : ∀ own, Failed own → Fails own)
    (hsecond : ∀ own calls, Done own → Failed' calls → Fails (own ++ calls))
    (hboth : ∀ own calls, Done own → Done' calls → Ends (own ++ calls)) : draft.Calls (step >>= next) Fails Ends := by
  rcases h with ⟨failure, own, rfl, hfailed⟩ | ⟨draft', own, rfl, hown, haccepts, hdone⟩
  · exact .inl ⟨failure, own, rfl, hfirst own hfailed⟩
  · rcases hnext draft' haccepts with
      ⟨failure, calls, hfail, hfailed⟩ | ⟨draft'', calls, hok, hcalls, haccepts', hdone'⟩
    · refine .inl ⟨failure, own ++ calls, ?_, hsecond own calls hdone hfailed⟩
      rw [← List.append_assoc, ← hown]
      exact hfail
    · refine .inr ⟨draft'', own ++ calls, hok, ?_, haccepts', hboth own calls hdone hdone'⟩
      rw [hcalls, hown, List.append_assoc]

variable {d : Digests} {draft : ScanDraft} (haccepts : draft.tx.Accepts)
include haccepts

/-- **Joining a set** asks the backend to describe it, or asks nothing. -/
theorem calls_joinSet (b : Backend) (a : SetAssociation) :
    draft.Calls (draft.joinSet d b a) b.FailsToDescribe b.Described := by
  rcases (SetRecord.load d.key draft.tx b.name a.kind a.name).enrich_outcome b a with
    ⟨hnew, cause, hdescribe, henrich⟩ | ⟨changed, set, henrich, -, -, hdescribed⟩
  · simp only [joinSet, henrich, hnew, if_true]
    exact .inl ⟨_, _, rfl, [], a.kind, a.name, cause, rfl, List.forall_mem_nil _, hdescribe⟩
  · have hcalls : ∃ calls, b.Described calls ∧ draft.calls ++ calls =
        if (SetRecord.load d.key draft.tx b.name a.kind a.name).isNew then
          draft.calls ++ [.describe b.name a.kind a.name] else draft.calls := by
      by_cases hnew : (SetRecord.load d.key draft.tx b.name a.kind a.name).isNew = true
      · refine ⟨[.describe b.name a.kind a.name], ?_, (if_pos hnew).symm⟩
        intro call hcall
        exact ⟨a.kind, a.name, List.mem_singleton.mp hcall, hdescribed hnew⟩
      · refine ⟨[], List.forall_mem_nil _, ?_⟩
        rw [if_neg hnew, List.append_nil]
    obtain ⟨calls, hdone, hcalls⟩ := hcalls
    simp only [joinSet, henrich]
    refine .inr ?_
    cases changed with
    | false => exact ⟨_, calls, rfl, hcalls.symm, haccepts, hdone⟩
    | true =>
      obtain ⟨tx, hput, haccepts'⟩ := haccepts.exists_put set.entry
      simp only [hput, if_true]
      exact ⟨_, calls, rfl, hcalls.symm, haccepts', hdone⟩

/-- **Joining sets** asks the backend to describe some of them, until it fails. -/
theorem calls_joinSets (b : Backend) (sets : List SetAssociation) :
    draft.Calls (sets.foldlM (joinSet d b) draft) b.FailsToDescribe b.Described := by
  induction sets generalizing draft with
  | nil => exact .inr ⟨draft, [], rfl, (List.append_nil _).symm, haccepts, List.forall_mem_nil _⟩
  | cons a rest ih =>
    rw [List.foldlM_cons]
    refine (calls_joinSet haccepts b a).bind (fun _ haccepts' => ih haccepts') ?_ ?_ ?_
    · exact fun _ hfailed => hfailed
    · exact fun _ _ hdone hfailed => hdone.failsToDescribe hfailed
    · exact fun _ _ hdone hdone' => hdone.append hdone'

/-- **Asking a backend** about a file. -/
theorem calls_askBackend (file : FileInfo) (contentId : String) (b : Backend) :
    draft.Calls (draft.askBackend d file contentId b)
      (fun own => b.Asked file contentId own ∧ b.FailedIn file contentId own)
      (fun own => b.Asked file contentId own ∧ ¬b.FailedIn file contentId own) := by
  unfold askBackend
  cases hprocess : b.process file contentId with
  | error cause => exact .inl ⟨_, _, rfl, Backend.failedIn_of_process hprocess⟩
  | ok contribution =>
    rcases @calls_joinSets d ⟨draft.tx, draft.record.apply contribution.properties,
        draft.calls ++ [.process b.name file.toldName contentId]⟩ haccepts b contribution.sets with
      ⟨failure, calls, hfail, hfailed⟩ | ⟨draft', calls, hok, hcalls, haccepts', hdone⟩
    · refine .inl ⟨failure, _ :: calls, ?_, hfailed.failedIn⟩
      rw [List.append_cons]
      exact hfail
    · refine .inr ⟨draft', _ :: calls, hok, ?_, haccepts', hdone.not_failedIn hprocess⟩
      rw [List.append_cons]
      exact hcalls

/-- **Asking backends** about a file. -/
theorem calls_askBackends (file : FileInfo) (contentId : String) (backends : List Backend) :
    draft.Calls (backends.foldlM (askBackend d file contentId) draft) (AsksInTurn file contentId backends)
      (AsksInTurn file contentId backends) := by
  induction backends generalizing draft with
  | nil => exact .inr ⟨draft, [], rfl, (List.append_nil _).symm, haccepts, .done⟩
  | cons b rest ih =>
    rw [List.foldlM_cons]
    refine (calls_askBackend haccepts file contentId b).bind (fun _ haccepts' => ih haccepts') ?_ ?_ ?_
    · exact fun _ hfailed => .failed hfailed.1 hfailed.2
    · exact fun _ _ hanswered hrest => .next hanswered.1 hanswered.2 hrest
    · exact fun _ _ hanswered hrest => .next hanswered.1 hanswered.2 hrest

end ScanDraft

/-! ## One file -/

variable (d : Digests) (files : FileTree) {registry : Registry} {store : Store}

/-- The calls for a file that is processed: backends are asked in turn, unless its content cannot be identified. -/
def CallsFor (d : Digests) (files : FileTree) (backends : List Backend) (file : FileInfo) (calls : List BackendCall) :
    Prop :=
  (∃ contentId, files.contentId d file.path = .ok contentId ∧ AsksInTurn file contentId backends calls) ∨
    (∀ contentId, files.contentId d file.path ≠ .ok contentId) ∧ calls = []

/-- **Processing a file** asks backends in turn. Only the table of the store may change, and no file is found
unchanged. -/
theorem callsFor_processFile (haccepts : store.Accepts) (backends : List Backend) (file : FileInfo) :
    CallsFor d files backends file (processFile d files backends store file).calls ∧
      (∃ table, (processFile d files backends store file).store = { store with table }) ∧
        (processFile d files backends store file).effort? ≠ some .cached := by
  unfold processFile
  cases hcontent : files.contentId d file.path with
  | error cause =>
    refine ⟨.inr ⟨fun contentId => by simp [hcontent], rfl⟩, ⟨store.table, rfl⟩, ?_⟩
    rintro ⟨⟩
  | ok contentId =>
    simp only [Store.begin_of_open haccepts.isOpen]
    have hcalls : ∀ calls, AsksInTurn file contentId backends calls → CallsFor d files backends file calls :=
      fun calls hturns => .inl ⟨contentId, hcontent, hturns⟩
    have hasked := @ScanDraft.calls_askBackends d (.begun d ⟨store.table, store.access, store.dryRun⟩ file contentId)
      haccepts.writes file contentId backends
    simp only [ScanDraft.begun] at hasked
    rcases hasked with ⟨failure, calls, hfail, hturns⟩ | ⟨draft, calls, hok, hown, hwrites, hturns⟩
    · simp only [hfail]
      refine ⟨hcalls calls hturns, ⟨store.table, rfl⟩, ?_⟩
      rintro ⟨⟩
    · rw [List.nil_append] at hown
      obtain ⟨tx, hput, -⟩ := hwrites.exists_put draft.record.entry
      simp only [hok, hput, hown]
      refine ⟨hcalls calls hturns, ⟨tx.table, rfl⟩, ?_⟩
      rintro ⟨⟩

/-- The calls for a file, none of which are made if it is found unchanged. -/
def CallsUnless (cached : Prop) (d : Digests) (files : FileTree) (backends : List Backend) (file : FileInfo)
    (calls : List BackendCall) : Prop :=
  cached ∧ calls = [] ∨ ¬cached ∧ CallsFor d files backends file calls

/-- **Scanning a file** asks backends in turn, unless it is found unchanged. -/
theorem callsUnless_scanFile (haccepts : store.Accepts) (backends : List Backend) (file : FileInfo) (force : Bool) :
    CallsUnless ((scanFile d files backends store force file).effort? = some .cached) d files backends file
        (scanFile d files backends store force file).calls ∧
      ∃ table, (scanFile d files backends store force file).store = { store with table } := by
  rw [scanFile_of_open d files backends file haccepts.isOpen]
  split
  case isTrue => exact ⟨.inl ⟨rfl, rfl⟩, store.table, rfl⟩
  case isFalse =>
    obtain ⟨hcalls, htable, heffort⟩ := callsFor_processFile d files haccepts backends file
    rw [ScanResult.effort?_mapError]
    exact ⟨.inr ⟨heffort, hcalls⟩, htable⟩

/-- **What becomes of a file**: the backends that accept it are asked in turn, unless it is found unchanged. -/
theorem callsUnless_fileItem (haccepts : store.Accepts) (active : List Registered) (file : FileInfo) (force : Bool) :
    CallsUnless (isScanned .cached (.ok (fileItem d files active force store file).1) = true) d files
        ((active.filter fun r => r.accepts file.path).map (·.backend)) file
        (fileItem d files active force store file).2.2 ∧
      ∃ table, (fileItem d files active force store file).2.1 = { store with table } := by
  unfold fileItem
  by_cases hnone : (active.filter fun r => r.accepts file.path).isEmpty = true
  · simp only [hnone, if_true]
    rw [List.isEmpty_iff.mp hnone]
    refine ⟨.inr ⟨Bool.false_ne_true, ?_⟩, store.table, rfl⟩
    cases hcontent : files.contentId d file.path with
    | ok contentId => exact .inl ⟨contentId, hcontent, .done⟩
    | error cause => exact .inr ⟨fun contentId => by simp [hcontent], rfl⟩
  · simp only [hnone]
    have hscan := callsUnless_scanFile d files haccepts
      ((active.filter fun r => r.accepts file.path).map (·.backend)) file force
    generalize (active.filter fun r => r.accepts file.path).map (·.backend) = accepting at hscan ⊢
    generalize scanFile d files accepting store force file = outcome at hscan ⊢
    obtain ⟨result, after, calls⟩ := outcome
    cases result with
    | error failure => simpa [isScanned, ScanResult.effort?, Except.toOption] using hscan
    | ok scanned => simpa [isScanned, ScanResult.effort?, Except.toOption] using hscan

/-! ## Turns -/

variable {d files}

/-- The backends that take part in a scan and accept the file at a path. -/
def Registry.accepting (registry : Registry) (path : FilePath) : List Registered :=
  registry.active.filter fun r => r.accepts path

/-- How backends are called for a file whose outcome is an item of a scan. -/
structure FileTurn (d : Digests) (files : FileTree) (registry : Registry) (file : FileInfo) (item : ScanItem) :
    Prop where
  settles : ∃ outcome, item.event = .ok outcome ∧ outcome.Settles file.path
  /-- Backends that accept the file are asked about it or asked to describe sets, and no other ones are called. -/
  received : ∀ call ∈ item.calls, ∃ r ∈ registry.accepting file.path,
    (∃ contentId, call = .process r.backend.name file.toldName contentId) ∨
      ∃ kind name, call = .describe r.backend.name kind name
  /-- Those that are asked about the file are the first of them, each asked once. -/
  inOrder : item.calls.filterMap BackendCall.processor? <+:
    (registry.accepting file.path).map fun r => r.backend.name
  process_iff : ∀ r ∈ registry.values, ∀ contentId,
    .process r.backend.name file.toldName contentId ∈ item.calls ↔
      r.backend.start = .ok () ∧ r.accepts file.path = true ∧ isScanned .cached item.event = false ∧
        files.contentId d file.path = .ok contentId ∧
          ∀ r' ∈ registry.accepting file.path, r'.backend.name < r.backend.name →
            ¬r'.backend.FailedIn file contentId item.calls

/-- A backend that was started and accepts the file. -/
theorem Registry.mem_accepting_iff {path : FilePath} {r : Registered} :
    r ∈ registry.accepting path ↔ r ∈ registry.values ∧ r.backend.start = .ok () ∧ r.accepts path = true := by
  rw [accepting, active, List.mem_filter, List.mem_filter, and_assoc, decide_eq_true_eq]

/-- Backends that accept a file stand in the order of their names. -/
theorem Registry.Keyed.accepting_pairwise (h : registry.Keyed) (path : FilePath) :
    (((registry.accepting path).map (·.backend)).map (·.name)).Pairwise (· < ·) := by
  have hsub : ((registry.accepting path).map fun r => r.backend.name).Sublist registry.keys := by
    rw [← h.names_eq_keys]
    exact (List.filter_sublist.trans List.filter_sublist).map _
  rw [List.map_map]
  exact registry.keys_pairwise.sublist hsub

/-- Without calls, the file was found unchanged or its content could not be identified. -/
theorem FileTurn.of_no_calls {file : FileInfo} {item : ScanItem}
    (hsettles : ∃ outcome, item.event = .ok outcome ∧ outcome.Settles file.path) (hnil : item.calls = [])
    (hnone : isScanned .cached item.event = false → ∀ contentId, files.contentId d file.path ≠ .ok contentId) :
    FileTurn d files registry file item where
  settles := hsettles
  received := by
    rw [hnil]
    exact List.forall_mem_nil _
  inOrder := by
    rw [hnil]
    exact List.nil_prefix
  process_iff r _ contentId := by
    rw [hnil]
    exact iff_of_false List.not_mem_nil fun h => hnone h.2.2.1 contentId h.2.2.2.1

/-- **A file that is processed**: the backends that accept it are asked in turn. -/
theorem FileTurn.of_asksInTurn (hkeyed : registry.Keyed) {file : FileInfo} {item : ScanItem} {contentId : String}
    (hsettles : ∃ outcome, item.event = .ok outcome ∧ outcome.Settles file.path)
    (hprocessed : isScanned .cached item.event = false) (hcontent : files.contentId d file.path = .ok contentId)
    (hturns : AsksInTurn file contentId ((registry.accepting file.path).map (·.backend)) item.calls) :
    FileTurn d files registry file item where
  settles := hsettles
  received call hcall := by
    obtain ⟨b, hb, own, ⟨descriptions, rfl, hdescriptions⟩, hmem⟩ := hturns.exists_asked hcall
    obtain ⟨r, hr, rfl⟩ := List.mem_map.mp hb
    exact ⟨r, hr, (List.mem_cons.mp hmem).imp (fun heq => ⟨contentId, heq⟩) (hdescriptions call)⟩
  inOrder := by
    have hprefix := hturns.processors_prefix
    rwa [List.map_map] at hprefix
  process_iff r hr contentId' := by
    by_cases haccepting : r ∈ registry.accepting file.path
    · obtain ⟨-, hstarts, haccepts⟩ := Registry.mem_accepting_iff.mp haccepting
      rw [hturns.process_mem_iff (hkeyed.accepting_pairwise file.path) (List.mem_map_of_mem haccepting),
        List.forall_mem_map, hcontent, and_iff_right hstarts, and_iff_right haccepts, and_iff_right hprocessed,
        Except.ok.injEq]
      constructor
      · rintro ⟨rfl, hbefore⟩
        exact ⟨rfl, hbefore⟩
      · rintro ⟨rfl, hbefore⟩
        exact ⟨rfl, hbefore⟩
    · refine iff_of_false ?_ ?_
      · -- another backend has another name
        intro hmem
        have hname := hturns.receiver_mem hmem
        rw [List.map_map] at hname
        obtain ⟨r', hr', hsame⟩ := List.mem_map.mp hname
        have hvalue := (Registry.mem_accepting_iff.mp hr').1
        exact haccepting (hkeyed.eq_of_name hvalue hr hsame ▸ hr')
      · rintro ⟨hstarts, haccepts, -⟩
        exact haccepting (Registry.mem_accepting_iff.mpr ⟨hr, hstarts, haccepts⟩)

/-- The item for what became of a file. -/
def outcomeItem (d : Digests) (files : FileTree) (active : List Registered) (force : Bool) (store : Store)
    (file : FileInfo) : ScanItem :=
  let (event, after, calls) := fileItem d files active force store file
  ⟨.ok event, after, calls⟩

/-- **The turn of a file.** -/
theorem fileTurn_outcomeItem (hkeyed : registry.Keyed) (haccepts : store.Accepts) (file : FileInfo) (force : Bool) :
    FileTurn d files registry file (outcomeItem d files registry.active force store file) := by
  have hsettles : (fileItem d files registry.active force store file).1.Settles file.path := settles_fileItem store file
  obtain ⟨⟨hcached, hnil⟩ | ⟨hprocessed, ⟨contentId, hcontent, hturns⟩ | ⟨hunidentified, hnil⟩⟩, -⟩ :=
    callsUnless_fileItem d files haccepts registry.active file force
  · refine .of_no_calls ⟨_, rfl, hsettles⟩ hnil fun hprocessed => ?_
    cases hcached.symm.trans hprocessed
  · exact .of_asksInTurn hkeyed ⟨_, rfl, hsettles⟩ (Bool.not_eq_true _ ▸ hprocessed) hcontent hturns
  · exact .of_no_calls ⟨_, rfl, hsettles⟩ hnil fun _ => hunidentified

end MediaCatalog
