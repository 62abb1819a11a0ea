import MediaCatalog.Proofs.Store.Table
import MediaCatalog.Store.Basic

/-!
# A store is a map of maps

Runs of calls on a writable store, with at most one transaction open at a time, against a ledger
that keeps the fields of every key in a plain map.

* `StoreSession`: a store with the transaction that is open on it, and one call after the other
  (`StoreSession.step`, `StoreSession.run`). A call that is not allowed, such as a second `begin`
  or a direct `put` while a transaction is open, has no result.
* `Ledger`: the committed fields by key and, while a transaction is open, what it has written. A
  put overlays the fields of its key; a transaction reads the committed fields overlaid by its own
  writes; a commit publishes them and an abort or a drop forgets them.
* `StoreSession.Agrees`, `StoreSession.step_agrees`: the simulation, one call at a time.
* **Main result** (`StoreSession.run_eq_ledger_run`): a run gives exactly the answers of the
  ledger, never loses a stored field, and a repeated put changes nothing.
-/

namespace MediaCatalog

/-- A call on a store or, where its name begins with `tx`, on the transaction that is open. -/
inductive StoreRequest where
  | put (e : Entry)
  | get (key : Key)
  | entryFor (key : Key)
  | count
  | begin
  | txPut (e : Entry)
  | txEntryFor (key : Key)
  | commit
  | abort
  | drop

/-- What a call answers. -/
inductive StoreAnswer where
  | done
  | entry (e : Entry)
  | lookup (e : Option Entry)
  | number (n : Nat)
  | failed (cause : StoreError)

/-! ## Runs on a store -/

/-- A store with the transaction that is open on it. -/
structure StoreSession where
  store : Store
  tx : Option Transaction

namespace StoreSession

/-- A store on which no transaction is open. -/
def start (store : Store) : StoreSession := ⟨store, none⟩

/-- The answer to a call and the session after it; a failed call leaves the session as it was. -/
def settle {α : Type} (s : StoreSession) (result : Except StoreError α)
    (next : α → StoreAnswer × StoreSession) : Option (StoreAnswer × StoreSession) :=
  match result with
  | .ok a => some (next a)
  | .error cause => some (.failed cause, s)

/-- One call; nothing if it is not allowed now. -/
def step (s : StoreSession) (request : StoreRequest) : Option (StoreAnswer × StoreSession) :=
  match request, s.tx with
  | .get key, _ => s.settle (s.store.get? key) fun e => (.lookup e, s)
  | .entryFor key, _ => s.settle (s.store.entryFor key) fun e => (.entry e, s)
  | .count, _ => s.settle s.store.count fun n => (.number n, s)
  | .put e, none => s.settle (s.store.put e) fun store => (.done, ⟨store, none⟩)
  | .begin, none => s.settle s.store.begin fun tx => (.done, ⟨s.store, some tx⟩)
  | .txPut e, some tx => s.settle (tx.put e) fun tx => (.done, ⟨s.store, some tx⟩)
  | .txEntryFor key, some tx => some (.entry (tx.entryFor key), s)
  | .commit, some tx => some (.done, ⟨s.store.commit tx, none⟩)
  | .abort, some _ => some (.done, ⟨s.store, none⟩)
  | .drop, some _ => some (.done, ⟨s.store, none⟩)
  | _, _ => none

/-- Calls one after the other, with their answers; nothing if one of them is not allowed. -/
def run (s : StoreSession) : List StoreRequest → Option (List StoreAnswer × StoreSession)
  | [] => some ([], s)
  | request :: requests => do
    let (answer, s) ← s.step request
    let (answers, s) ← run s requests
    return (answer :: answers, s)

end StoreSession

/-! ## The ledger -/

/-- The fields of every key; a key without fields is that of no entry. -/
abbrev Content := Key → Fields

namespace Content

/-- Nothing is stored. -/
def empty : Content := fun _ => Dict.empty

/-- The fields of one entry. -/
def ofEntry (e : Entry) : Content := fun key => if e.key = key then e.fields else Dict.empty

/-- Field by field, the values of the second content over those of the first. -/
def overlay (base top : Content) : Content := fun key => (base key).union (top key)

/-- The keys of entries. -/
def stored (c : Content) : Set Key := {key | (c key).isEmpty = false}

end Content

/-- Committed fields, and what the open transaction has written. -/
structure Ledger where
  committed : Content
  pending : Option Content

namespace Ledger

/-- The ledger of a store on which no transaction is open. -/
def ofStore (store : Store) : Ledger := ⟨store.table.fieldsOf, none⟩

/-- One call; nothing if it is not allowed now. -/
noncomputable def step (l : Ledger) (request : StoreRequest) : Option (StoreAnswer × Ledger) :=
  match request, l.pending with
  | .get key, _ =>
    some (.lookup (if (l.committed key).isEmpty then none else some ⟨key, l.committed key⟩), l)
  | .entryFor key, _ => some (.entry ⟨key, l.committed key⟩, l)
  | .count, _ => some (.number l.committed.stored.ncard, l)
  | .put e, none => some (.done, ⟨l.committed.overlay (.ofEntry e), none⟩)
  | .begin, none => some (.done, ⟨l.committed, some .empty⟩)
  | .txPut e, some writes => some (.done, ⟨l.committed, some (writes.overlay (.ofEntry e))⟩)
  | .txEntryFor key, some writes => some (.entry ⟨key, l.committed.overlay writes key⟩, l)
  | .commit, some writes => some (.done, ⟨l.committed.overlay writes, none⟩)
  | .abort, some _ => some (.done, ⟨l.committed, none⟩)
  | .drop, some _ => some (.done, ⟨l.committed, none⟩)
  | _, _ => none

/-- Calls one after the other, with their answers; nothing if one of them is not allowed. -/
noncomputable def run (l : Ledger) : List StoreRequest → Option (List StoreAnswer × Ledger)
  | [] => some ([], l)
  | request :: requests => do
    let (answer, l) ← l.step request
    let (answers, l) ← run l requests
    return (answer :: answers, l)

end Ledger

/-! ## Laws of contents -/

namespace Content

variable (c d e : Content)

/-- A field of an overlay: the value on top, if there is one. -/
theorem get?_overlay (key : Key) (field : String) :
    (c.overlay d key).get? field = ((d key).get? field).or ((c key).get? field) :=
  Dict.get?_union _ _ _

/-- Contents with the same fields are the same. -/
theorem ext_get? {c d : Content} (h : ∀ key field, (c key).get? field = (d key).get? field) : c = d :=
  funext fun key => Dict.ext (h key)

/-- An empty overlay changes nothing. -/
theorem overlay_empty : c.overlay empty = c := by
  apply ext_get?
  intro key field
  rw [get?_overlay]
  rfl

/-- Overlays may be put together first. -/
theorem overlay_assoc : (c.overlay d).overlay e = c.overlay (d.overlay e) := by
  apply ext_get?
  intro key field
  simp only [get?_overlay]
  cases (e key).get? field <;> rfl

/-- The same overlay a second time changes nothing. -/
theorem overlay_self : (c.overlay d).overlay d = c.overlay d := by
  apply ext_get?
  intro key field
  simp only [get?_overlay]
  cases (d key).get? field <;> rfl

/-- No field is lost under an overlay. -/
theorem contains_overlay {key : Key} {field : String} (h : (c key).contains field = true) :
    (c.overlay d key).contains field = true := by
  unfold Dict.contains at h ⊢
  rw [get?_overlay, Option.isSome_or, h, Bool.or_true]

end Content

/-- Writing an entry is an overlay of the content by the entry. -/
theorem Table.fieldsOf_write_eq_overlay (t : Table) (e : Entry) :
    (t.write e).fieldsOf = Content.overlay t.fieldsOf (.ofEntry e) := by
  funext key
  rw [Table.fieldsOf_write]
  unfold Content.overlay Content.ofEntry
  split
  · rfl
  · rfl

/-- Writing an entry a second time changes nothing. -/
theorem Table.write_write (t : Table) (e : Entry) : (t.write e).write e = t.write e := by
  apply Table.ext_of_fieldsOf
  intro key
  rw [Table.fieldsOf_write_eq_overlay, Table.fieldsOf_write_eq_overlay, Content.overlay_self]

/-- The keys that are counted are those of entries. -/
theorem Table.count_eq_ncard (t : Table) : t.count = (Content.stored t.fieldsOf).ncard := by
  have hcard : (Content.stored t.fieldsOf).encard = t.count := Table.encard_stored t
  rw [Set.ncard, hcard]
  rfl

/-! ## Calls on a writable store -/

/-- A store that is open, may be written, and keeps what is written. -/
structure Store.Writable (s : Store) : Prop where
  isOpen : s.isOpen = true
  access : s.access = .readWrite
  dryRun : s.dryRun = false

namespace Store.Writable

variable {s : Store} (h : s.Writable)

include h

/-- An open store passes the check that precedes every call. -/
theorem demandOpen : s.demandOpen = .ok () := by
  rw [Store.demandOpen, h.isOpen]
  rfl

/-- An entry is read from the table. -/
theorem entryFor (key : Key) : s.entryFor key = .ok ⟨key, s.table.fieldsOf key⟩ := by
  rw [Store.entryFor, h.demandOpen]
  rfl

/-- An entry is there unless it is blank. -/
theorem get? (key : Key) :
    s.get? key = .ok (if (s.table.fieldsOf key).isEmpty then none else some ⟨key, s.table.fieldsOf key⟩) := by
  rw [Store.get?, h.entryFor]
  rfl

/-- The entries are counted. -/
theorem count : s.count = .ok s.table.count := by
  rw [Store.count, h.demandOpen]
  rfl

/-- An entry is merged into the table. -/
theorem put (e : Entry) : s.put e = .ok { s with table := s.table.write e } := by
  rw [Store.put, h.dryRun, h.demandOpen, h.access]
  rfl

/-- A transaction begins with the table. -/
theorem begin : s.begin = .ok ⟨s.table, .readWrite, false⟩ := by
  rw [Store.begin, h.demandOpen, h.access, h.dryRun]
  rfl

/-- A store stays writable when its table changes. -/
theorem withTable (table : Table) : Store.Writable { s with table := table } :=
  ⟨h.isOpen, h.access, h.dryRun⟩

end Store.Writable

/-! ## The simulation -/

/-- What an open transaction sees is the committed content under its own writes. -/
def PendingAgrees (committed : Content) : Option Transaction → Option Content → Prop
  | none, none => True
  | some tx, some writes =>
    tx.access = .readWrite ∧ tx.dryRun = false ∧ tx.table.fieldsOf = committed.overlay writes
  | _, _ => False

namespace StoreSession

/-- A session holds what a ledger says. -/
structure Agrees (s : StoreSession) (l : Ledger) : Prop where
  writable : s.store.Writable
  committed : s.store.table.fieldsOf = l.committed
  pending : PendingAgrees l.committed s.tx l.pending

/-- A session without a transaction agrees with the ledger of its store. -/
theorem agrees_start {store : Store} (h : store.Writable) : (start store).Agrees (.ofStore store) :=
  ⟨h, rfl, trivial⟩

/-- Two calls that answer alike and leave agreeing states, or are both not allowed. -/
def StepsAlike (after : Option (StoreAnswer × StoreSession)) (spec : Option (StoreAnswer × Ledger)) : Prop :=
  (after = none ∧ spec = none) ∨
    ∃ answer s l, after = some (answer, s) ∧ spec = some (answer, l) ∧ s.Agrees l

/-- Calls that only read leave the states as they are. -/
theorem stepsAlike_of_read {s : StoreSession} {l : Ledger} (h : s.Agrees l) (answer : StoreAnswer) :
    StepsAlike (some (answer, s)) (some (answer, l)) :=
  .inr ⟨answer, s, l, rfl, rfl, h⟩

/-- **One call.** From agreeing states a call answers alike and leads to agreeing states. -/
theorem step_agrees {s : StoreSession} {l : Ledger} (h : s.Agrees l) (request : StoreRequest) :
    StepsAlike (s.step request) (l.step request) := by
  obtain ⟨store, tx⟩ := s
  obtain ⟨committed, pending⟩ := l
  obtain ⟨hw, rfl, hp⟩ := h
  have hagrees : Agrees ⟨store, tx⟩ ⟨store.table.fieldsOf, pending⟩ := ⟨hw, rfl, hp⟩
  cases request with
  | get key =>
    simp only [step, settle, hw.get?, Ledger.step]
    exact stepsAlike_of_read hagrees _
  | entryFor key =>
    simp only [step, settle, hw.entryFor, Ledger.step]
    exact stepsAlike_of_read hagrees _
  | count =>
    simp only [step, settle, hw.count, Table.count_eq_ncard, Ledger.step]
    exact stepsAlike_of_read hagrees _
  | put e =>
    match tx, pending, hp with
    | none, none, _ =>
      simp only [step, settle, hw.put, Ledger.step]
      refine .inr ⟨_, _, _, rfl, rfl, hw.withTable _, ?_, trivial⟩
      exact Table.fieldsOf_write_eq_overlay store.table e
    | some _, some _, _ => exact .inl ⟨rfl, rfl⟩
  | begin =>
    match tx, pending, hp with
    | none, none, _ =>
      simp only [step, settle, hw.begin, Ledger.step]
      refine .inr ⟨_, _, _, rfl, rfl, hw, rfl, rfl, rfl, ?_⟩
      exact (Content.overlay_empty _).symm
    | some _, some _, _ => exact .inl ⟨rfl, rfl⟩
  | txPut e =>
    match tx, pending, hp with
    | none, none, _ => exact .inl ⟨rfl, rfl⟩
    | some ⟨table, _, _⟩, some writes, ⟨rfl, rfl, htable⟩ =>
      refine .inr ⟨.done, ⟨store, some ⟨table.write e, .readWrite, false⟩⟩, _, rfl, rfl, hw, rfl, rfl, rfl, ?_⟩
      have hwrite := Table.fieldsOf_write_eq_overlay table e
      rw [htable, Content.overlay_assoc] at hwrite
      exact hwrite
  | txEntryFor key =>
    match tx, pending, hp with
    | none, none, _ => exact .inl ⟨rfl, rfl⟩
    | some ⟨table, _, _⟩, some writes, ⟨rfl, rfl, htable⟩ =>
      simp only [step, Ledger.step, ← htable]
      exact stepsAlike_of_read hagrees _
  | commit =>
    match tx, pending, hp with
    | none, none, _ => exact .inl ⟨rfl, rfl⟩
    | some ⟨table, _, _⟩, some writes, ⟨rfl, rfl, htable⟩ =>
      exact .inr ⟨_, _, _, rfl, rfl, hw.withTable table, htable, trivial⟩
  | abort =>
    match tx, pending, hp with
    | none, none, _ => exact .inl ⟨rfl, rfl⟩
    | some _, some _, _ => exact .inr ⟨_, _, _, rfl, rfl, hw, rfl, trivial⟩
  | drop =>
    match tx, pending, hp with
    | none, none, _ => exact .inl ⟨rfl, rfl⟩
    | some _, some _, _ => exact .inr ⟨_, _, _, rfl, rfl, hw, rfl, trivial⟩

/-- Two runs that answer alike and leave agreeing states, or hold a call that is not allowed. -/
def RunsAlike (after : Option (List StoreAnswer × StoreSession))
    (spec : Option (List StoreAnswer × Ledger)) : Prop :=
  (after = none ∧ spec = none) ∨
    ∃ answers s l, after = some (answers, s) ∧ spec = some (answers, l) ∧ s.Agrees l

/-- **A whole run**, by induction on its calls. -/
theorem run_agrees {s : StoreSession} {l : Ledger} (h : s.Agrees l) (requests : List StoreRequest) :
    RunsAlike (s.run requests) (l.run requests) := by
  induction requests generalizing s l with
  | nil => exact .inr ⟨[], s, l, rfl, rfl, h⟩
  | cons request requests ih =>
    simp only [run, Ledger.run]
    rcases step_agrees h request with ⟨hs, hl⟩ | ⟨answer, s₁, l₁, hs, hl, h₁⟩
    · rw [hs, hl]
      exact .inl ⟨rfl, rfl⟩
    · rw [hs, hl]
      rcases ih h₁ with ⟨hs₂, hl₂⟩ | ⟨answers, s₂, l₂, hs₂, hl₂, h₂⟩
      · simp only [Option.bind_eq_bind, Option.bind_some, hs₂, hl₂]
        exact .inl ⟨rfl, rfl⟩
      · simp only [Option.bind_eq_bind, Option.bind_some, hs₂, hl₂]
        exact .inr ⟨answer :: answers, s₂, l₂, rfl, rfl, h₂⟩

end StoreSession

/-! ## Nothing is lost -/

namespace Ledger

/-- A call keeps every committed field and does not fail. -/
theorem step_keeps {l l' : Ledger} {request : StoreRequest} {answer : StoreAnswer}
    (h : l.step request = some (answer, l')) :
    (∀ key field, (l.committed key).contains field = true → (l'.committed key).contains field = true) ∧
      ∀ cause, answer ≠ .failed cause := by
  obtain ⟨committed, pending⟩ := l
  cases request <;> cases pending <;> simp only [step, Option.some.injEq, Prod.mk.injEq, reduceCtorEq] at h <;>
    obtain ⟨rfl, rfl⟩ := h
  case put.none => exact ⟨fun _ _ hf => Content.contains_overlay _ _ hf, fun _ => nofun⟩
  case commit.some => exact ⟨fun _ _ hf => Content.contains_overlay _ _ hf, fun _ => nofun⟩
  all_goals exact ⟨fun _ _ hf => hf, fun _ => nofun⟩

/-- A run keeps every committed field, and none of its calls fails. -/
theorem run_keeps {l l' : Ledger} {requests : List StoreRequest} {answers : List StoreAnswer}
    (h : l.run requests = some (answers, l')) :
    (∀ key field, (l.committed key).contains field = true → (l'.committed key).contains field = true) ∧
      ∀ cause, .failed cause ∉ answers := by
  induction requests generalizing l answers with
  | nil =>
    simp only [run, Option.some.injEq, Prod.mk.injEq] at h
    obtain ⟨rfl, rfl⟩ := h
    exact ⟨fun _ _ hf => hf, fun _ => List.not_mem_nil⟩
  | cons request requests ih =>
    simp only [run, Option.bind_eq_bind, Option.bind_eq_some_iff, Prod.exists, Option.pure_def,
      Option.some.injEq, Prod.mk.injEq] at h
    obtain ⟨answer, l₁, hstep, answers₁, l₂, hrun, rfl, rfl⟩ := h
    have ⟨hkeep, hanswer⟩ := step_keeps hstep
    have ⟨hkeeps, hanswers⟩ := ih hrun
    refine ⟨fun key field hf => hkeeps key field (hkeep key field hf), fun cause hmem => ?_⟩
    rcases List.mem_cons.mp hmem with heq | hmem
    · exact hanswer cause heq.symm
    · exact hanswers cause hmem

end Ledger

namespace StoreSession

/-- A repeated put changes nothing, directly or in a transaction. -/
theorem step_put_twice {s s' : StoreSession} {l : Ledger} (h : s.Agrees l) {e : Entry} {answer : StoreAnswer} :
    (s.step (.put e) = some (answer, s') → s'.step (.put e) = some (answer, s')) ∧
      (s.step (.txPut e) = some (answer, s') → s'.step (.txPut e) = some (answer, s')) := by
  obtain ⟨store, tx⟩ := s
  constructor
  · intro hstep
    cases tx with
    | some tx => exact absurd hstep nofun
    | none =>
      simp only [step, settle, h.writable.put, Option.some.injEq, Prod.mk.injEq] at hstep
      obtain ⟨rfl, rfl⟩ := hstep
      simp only [step, settle, (h.writable.withTable _).put, Table.write_write]
  · intro hstep
    have hp := h.pending
    match tx, l.pending, hp with
    | none, none, _ => exact absurd hstep nofun
    | some ⟨table, _, _⟩, some writes, ⟨rfl, rfl, _⟩ =>
      have hput : ∀ t : Table, Transaction.put ⟨t, .readWrite, false⟩ e = .ok ⟨t.write e, .readWrite, false⟩ :=
        fun _ => rfl
      simp only [step, settle, hput, Option.some.injEq, Prod.mk.injEq] at hstep
      obtain ⟨rfl, rfl⟩ := hstep
      simp only [step, settle, hput, Table.write_write]

/-- **A store is a map of maps.** On a writable store a run of calls, whatever they are, is allowed
by the store exactly if it is allowed by the ledger, and gives the same answers. It ends with the
committed content of the ledger; no call fails, no later call loses a committed field, and a
repeated put changes nothing. -/
theorem run_eq_ledger_run {store : Store} (h : store.Writable) (requests : List StoreRequest) :
    ((start store).run requests).map Prod.fst = ((Ledger.ofStore store).run requests).map Prod.fst ∧
      ∀ answers s, (start store).run requests = some (answers, s) →
        (∃ l, (Ledger.ofStore store).run requests = some (answers, l) ∧
          s.store.table.fieldsOf = l.committed) ∧
        (∀ cause, .failed cause ∉ answers) ∧
        (∀ more answers' s', s.run more = some (answers', s') → ∀ key field,
          (s.store.table.fieldsOf key).contains field = true →
            (s'.store.table.fieldsOf key).contains field = true) ∧
        ∀ e answer s',
          (s.step (.put e) = some (answer, s') → s'.step (.put e) = some (answer, s')) ∧
            (s.step (.txPut e) = some (answer, s') → s'.step (.txPut e) = some (answer, s')) := by
  rcases run_agrees (agrees_start h) requests with ⟨hs, hl⟩ | ⟨answers, s, l, hs, hl, hagrees⟩
  · rw [hs, hl]
    exact ⟨rfl, nofun⟩
  · rw [hs, hl]
    refine ⟨rfl, ?_⟩
    rintro _ _ ⟨⟩
    refine ⟨⟨l, rfl, hagrees.committed⟩, (Ledger.run_keeps hl).2, ?_, fun _ _ _ => step_put_twice hagrees⟩
    intro more answers' s' hmore key field hf
    rcases run_agrees hagrees more with ⟨hnone, -⟩ | ⟨_, s₂, l₂, hs₂, hl₂, hagrees₂⟩
    · rw [hnone] at hmore
      cases hmore
    · rw [hs₂] at hmore
      cases hmore
      rw [hagrees.committed] at hf
      rw [hagrees₂.committed]
      exact (Ledger.run_keeps hl₂).1 key field hf

/-- A run in which a transaction changes a field, is read and is aborted. -/
theorem run_eq_ledger_run_of_abort :
    let store := Store.ofTable .empty
    let e := (Entry.blank ⟨"file:1"⟩).insert "title" "Old"
    let requests : List StoreRequest :=
      [.put e, .begin, .txPut (e.insert "title" "New"), .txEntryFor e.key, .get e.key, .abort, .entryFor e.key,
        .count]
    store.Writable ∧ ((start store).run requests).isSome = true ∧
      ((start store).run requests).map Prod.fst = ((Ledger.ofStore store).run requests).map Prod.fst :=
  ⟨⟨rfl, rfl, rfl⟩, rfl, (run_eq_ledger_run ⟨rfl, rfl, rfl⟩ _).1⟩

end StoreSession

end MediaCatalog
