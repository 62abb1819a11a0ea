import Mathlib.Data.List.Induction
import Mathlib.Data.List.Nodup
import MediaCatalog.Namespace.Handles

/-!
# Handles over runs of calls

A handle is given out when a file is opened, and is good for reading until it is released. This file follows the
open files of a namespace through runs of calls, against the history of what was asked and answered. The store and
the real files may be others in every call.

* `HandleCall`, `HandleEvent`, `Namespace.after`, `Namespace.history`: runs and their histories.
* `Namespace.open_cases`, `Namespace.opened_of_open`, `Namespace.release_eq`, `Namespace.Steps`: when a call has an
  effect, and which; a call that fails has none (`Namespace.perform_of_error`).
* `givenOut`, `takenBack`, `stillOpen`: what a history says of handles.
* `Namespace.Tracks`: the table of open files is what is left over from the history; one call keeps this
  (`Tracks.step`), so a run does (`tracks_after`).
* **Main result** (`Namespace.open_until_released`): handles are never given out twice, and those that were given out
  and not released are just those that can be read and released.
-/

namespace MediaCatalog

/-! ## Runs -/

/-- A call on the files of a namespace, with the store and the real files as they are then. -/
inductive HandleCall where
  | openPath (store : Store) (files : FileTree) (path : String) (write : Bool)
  | read (delivery : Positioned.Delivery) (handle offset length : Nat)
  | release (handle : Nat)

/-- What a call answers unless it fails. -/
inductive HandleAnswer where
  | opened (handle : Nat)
  | bytes (content : ByteArray)
  | released

/-- A call with what came of it. -/
structure HandleEvent where
  call : HandleCall
  result : Except NamespaceError HandleAnswer

namespace Namespace

/-- The namespace of mounts in which nothing has been opened yet. -/
def ofBrowser (browser : Browser) : Namespace := ⟨browser, [], 1⟩

/-- A new namespace has no mounts. -/
theorem new_eq (strict : Bool) : new strict = ofBrowser ⟨Dict.empty, strict⟩ := rfl

/-- A mount is all that a registration adds. -/
theorem register_ofBrowser (browser : Browser) (name schema : String) :
    (ofBrowser browser).register name schema =
      ((browser.mounts.register name schema).1,
        ofBrowser { browser with mounts := (browser.mounts.register name schema).2 }) :=
  rfl

/-- One call, with what came of it and the namespace after it. -/
def perform (n : Namespace) (call : HandleCall) : HandleEvent × Namespace :=
  match call with
  | .openPath store files path write =>
    let (outcome, after) := n.open store files path write
    (⟨call, outcome.map .opened⟩, after)
  | .read delivery handle offset length => (⟨call, (n.read delivery handle offset length).map .bytes⟩, n)
  | .release handle =>
    let (outcome, after) := n.release handle
    (⟨call, outcome.map fun _ => .released⟩, after)

/-- The namespace after calls. -/
def after (n : Namespace) (calls : List HandleCall) : Namespace := calls.foldl (fun n call => (n.perform call).2) n

/-- What came of calls. -/
def history (n : Namespace) : List HandleCall → List HandleEvent
  | [] => []
  | call :: rest => (n.perform call).1 :: (n.perform call).2.history rest

/-- One more call comes last in the history. -/
theorem history_concat (n : Namespace) (calls : List HandleCall) (call : HandleCall) :
    n.history (calls ++ [call]) = n.history calls ++ [((n.after calls).perform call).1] := by
  induction calls generalizing n with
  | nil => rfl
  | cons first rest ih =>
    rw [List.cons_append, history, history, ih]
    rfl

/-- One more call meets the namespace after those before. -/
theorem after_concat (n : Namespace) (calls : List HandleCall) (call : HandleCall) :
    n.after (calls ++ [call]) = ((n.after calls).perform call).2 := by
  unfold after
  rw [List.foldl_append]
  rfl

end Namespace

/-! ## What a call does -/

namespace Namespace

variable {n after : Namespace} {store : Store} {files : FileTree} {path : String} {write : Bool} {handle : Nat}

/-- A file of the namespace is opened only for reading, and only if its entry names a real file that can be opened. -/
theorem openAt_eq_ok {file : OpenFile} (h : n.openAt store files path write = .ok file) :
    write = false ∧ ∃ node real, n.browser.resolve store path = .ok node ∧ node.kind = .file ∧
      realPath? node = some real ∧ openReal files real = .ok file := by
  unfold openAt at h
  cases hnode : n.browser.resolve store path with
  | error cause =>
    rw [hnode] at h
    cases h
  | ok node =>
    rw [hnode] at h
    cases write with
    | true => cases h
    | false =>
      cases hkind : node.kind with
      | directory =>
        simp only [bind, Except.bind, hkind] at h
        cases h
      | file =>
        cases hreal : realPath? node with
        | none =>
          simp only [bind, Except.bind, hkind, hreal] at h
          cases h
        | some real =>
          simp only [bind, Except.bind, hkind, hreal] at h
          exact ⟨rfl, node, real, rfl, hkind, hreal, h⟩

/-- **Opening fails and changes nothing**, or gives out the next handle; the open file is the last in the table then. -/
theorem open_cases (n : Namespace) (store : Store) (files : FileTree) (path : String) (write : Bool) :
    (∃ cause, n.open store files path write = (.error cause, n)) ∨
      ∃ file, n.openAt store files path write = .ok file ∧
        n.open store files path write =
          (.ok n.next, { n with handles := n.handles ++ [(n.next, file)], next := n.next + 1 }) := by
  unfold Namespace.open
  cases n.openAt store files path write with
  | error cause => exact .inl ⟨cause, rfl⟩
  | ok file => exact .inr ⟨file, rfl, rfl⟩

/-- A handle is given out only if the path leads to a file of the namespace, its entry names a real file that can be
opened, and nothing is to be written. It is the next one, and the open file is the last in the table. -/
theorem opened_of_open (h : n.open store files path write = (.ok handle, after)) :
    write = false ∧ handle = n.next ∧ ∃ node real file, n.browser.resolve store path = .ok node ∧ node.kind = .file ∧
      realPath? node = some real ∧ openReal files real = .ok file ∧
      after = { n with handles := n.handles ++ [(n.next, file)], next := n.next + 1 } := by
  rcases n.open_cases store files path write with ⟨cause, hopen⟩ | ⟨file, hfile, hopen⟩
  · cases hopen.symm.trans h
  · cases hopen.symm.trans h
    obtain ⟨hwrite, node, real, hnode, hkind, hreal, hopened⟩ := openAt_eq_ok hfile
    exact ⟨hwrite, rfl, node, real, file, hnode, hkind, hreal, hopened, rfl⟩

/-- Nothing is opened for writing. -/
theorem open_for_writing (n : Namespace) (store : Store) (files : FileTree) (path : String) :
    ∃ cause, (n.open store files path true).1 = .error cause := by
  rcases n.open_cases store files path true with ⟨cause, hopen⟩ | ⟨file, hfile, -⟩
  · exact ⟨cause, by rw [hopen]⟩
  · exact absurd (openAt_eq_ok hfile).1 nofun

/-- A handle is in the table if it has an open file. -/
theorem isSome_openFile?_iff : (n.openFile? handle).isSome = true ↔ handle ∈ n.handles.map Prod.fst := by
  simp [openFile?, List.find?_isSome]

/-- Reading from an open file fails, if at all, because of the file. -/
theorem OpenFile.read_ne_badHandle (file : OpenFile) (delivery : Positioned.Delivery) (offset length : Nat) :
    OpenFile.read file delivery offset length ≠ .error .badHandle := by
  unfold OpenFile.read
  split
  · exact nofun
  · split
    · exact nofun
    · split <;> exact nofun

/-- **Only what has no open file is a bad handle** to read from. -/
theorem read_eq_badHandle_iff {delivery : Positioned.Delivery} {offset length : Nat} :
    n.read delivery handle offset length = .error .badHandle ↔ (n.openFile? handle).isSome = false := by
  unfold read
  cases hfile : n.openFile? handle with
  | none => exact iff_of_true rfl rfl
  | some file => exact iff_of_false (OpenFile.read_ne_badHandle file delivery offset length) nofun

/-- **A release takes a handle off the table.** It fails only if the handle is not there, and changes nothing then. -/
theorem release_eq (n : Namespace) (handle : Nat) :
    n.release handle =
      if (n.openFile? handle).isSome then (.ok (), { n with handles := n.handles.filter fun h => h.1 ≠ handle })
      else (.error .badHandle, n) := by
  unfold release
  split
  case isTrue => rfl
  case isFalse hclosed =>
    -- no handle is filtered out
    have hall : n.handles.filter (fun h => h.1 ≠ handle) = n.handles := by
      rw [List.filter_eq_self]
      intro entry hentry
      rw [decide_eq_true_eq]
      rintro rfl
      exact hclosed (isSome_openFile?_iff.mpr (List.mem_map_of_mem hentry))
    rw [hall]

/-- What can come of a call, and which namespace it leaves. -/
inductive Steps (n : Namespace) : HandleEvent → Namespace → Prop where
  | failed (call : HandleCall) (cause : NamespaceError) : Steps n ⟨call, .error cause⟩ n
  | opened (store : Store) (files : FileTree) (path : String) (file : OpenFile) :
    Steps n ⟨.openPath store files path false, .ok (.opened n.next)⟩
      { n with handles := n.handles ++ [(n.next, file)], next := n.next + 1 }
  | read (delivery : Positioned.Delivery) (handle offset length : Nat) (content : ByteArray) :
    Steps n ⟨.read delivery handle offset length, .ok (.bytes content)⟩ n
  | released (handle : Nat) (hopen : (n.openFile? handle).isSome = true) :
    Steps n ⟨.release handle, .ok .released⟩ { n with handles := n.handles.filter fun h => h.1 ≠ handle }

/-- **What one call does.** -/
theorem steps_perform (n : Namespace) (call : HandleCall) : n.Steps (n.perform call).1 (n.perform call).2 := by
  cases call with
  | openPath store files path write =>
    rcases n.open_cases store files path write with ⟨cause, hopen⟩ | ⟨file, hfile, hopen⟩
    · simp only [perform, hopen]
      exact .failed _ cause
    · obtain ⟨rfl, -⟩ := openAt_eq_ok hfile
      simp only [perform, hopen]
      exact .opened store files path file
  | read delivery handle offset length =>
    simp only [perform]
    cases n.read delivery handle offset length with
    | error cause => exact .failed _ cause
    | ok content => exact .read delivery handle offset length content
  | release handle =>
    simp only [perform, release_eq]
    by_cases hopen : (n.openFile? handle).isSome = true
    · rw [if_pos hopen]
      exact .released handle hopen
    · rw [if_neg hopen]
      exact .failed _ .badHandle

/-- Calls are remembered as they were. -/
theorem call_perform (n : Namespace) (call : HandleCall) : (n.perform call).1.call = call := by
  cases call <;> rfl

/-- No call changes the mounts. -/
theorem Steps.browser_eq {e : HandleEvent} (h : n.Steps e after) : after.browser = n.browser := by
  cases h <;> rfl

/-- Calls do not change the mounts. -/
theorem browser_after (n : Namespace) (calls : List HandleCall) : (n.after calls).browser = n.browser := by
  induction calls generalizing n with
  | nil => rfl
  | cons call rest ih => exact (ih _).trans (n.steps_perform call).browser_eq

/-- A handle keeps its file in every call that does not release it. -/
theorem Steps.openFile?_eq {e : HandleEvent} (h : n.Steps e after) (hopen : (n.openFile? handle).isSome = true)
    (hkept : e.call ≠ .release handle) : after.openFile? handle = n.openFile? handle := by
  cases h with
  | failed => rfl
  | opened _ _ _ file =>
    obtain ⟨entry, hentry⟩ := Option.isSome_iff_exists.mp (by simpa [openFile?] using hopen :
      (n.handles.find? fun h => h.1 = handle).isSome = true)
    simp [openFile?, List.find?_append, hentry]
  | read => rfl
  | released other hother =>
    have hne : other ≠ handle := fun heq => hkept (by rw [heq])
    have hfind : (n.handles.filter fun h => h.1 ≠ other).find? (fun h => h.1 = handle) =
        n.handles.find? fun h => h.1 = handle := by
      rw [List.find?_filter]
      congr 1
      funext entry
      by_cases hentry : entry.1 = handle
      · simp [hentry, hne.symm]
      · simp [hentry]
    unfold openFile?
    rw [hfind]

/-- **A handle keeps its file** as long as it is not released. -/
theorem openFile?_after {calls : List HandleCall} (hopen : (n.openFile? handle).isSome = true)
    (hkept : ∀ call ∈ calls, call ≠ .release handle) : (n.after calls).openFile? handle = n.openFile? handle := by
  induction calls generalizing n with
  | nil => rfl
  | cons call rest ih =>
    have hfirst : (n.perform call).2.openFile? handle = n.openFile? handle := by
      apply (n.steps_perform call).openFile?_eq hopen
      rw [call_perform]
      exact hkept call List.mem_cons_self
    have hrest := ih (hfirst.symm ▸ hopen) fun later hlater => hkept later (List.mem_cons_of_mem _ hlater)
    exact hrest.trans hfirst

end Namespace

/-! ## What a history says of handles -/

namespace HandleEvent

/-- The handle that a call gave out. -/
def givenOut? (e : HandleEvent) : Option Nat :=
  match e.result with
  | .ok (.opened handle) => some handle
  | _ => none

/-- The handle that a call took back. -/
def takenBack? (e : HandleEvent) : Option Nat :=
  match e.call, e.result with
  | .release handle, .ok _ => some handle
  | _, _ => none

end HandleEvent

/-- The handles that were given out, in order. -/
def givenOut (past : List HandleEvent) : List Nat := past.filterMap HandleEvent.givenOut?

/-- The handles that were taken back, in order. -/
def takenBack (past : List HandleEvent) : List Nat := past.filterMap HandleEvent.takenBack?

/-- The handles that were given out and not taken back. -/
def stillOpen (past : List HandleEvent) : List Nat := (givenOut past).filter (· ∉ takenBack past)

section

variable {past : List HandleEvent} {e : HandleEvent}

/-- The handle that the last call gave out comes last. -/
theorem givenOut_concat (past : List HandleEvent) (e : HandleEvent) :
    givenOut (past ++ [e]) = givenOut past ++ e.givenOut?.toList := by
  rw [givenOut, List.filterMap_append]
  cases h : e.givenOut? <;> simp [givenOut, h]

/-- The handle that the last call took back comes last. -/
theorem takenBack_concat (past : List HandleEvent) (e : HandleEvent) :
    takenBack (past ++ [e]) = takenBack past ++ e.takenBack?.toList := by
  rw [takenBack, List.filterMap_append]
  cases h : e.takenBack? <;> simp [takenBack, h]

/-- A call that neither gives out nor takes back leaves open what was. -/
theorem stillOpen_concat_of_none (hgiven : e.givenOut? = none) (htaken : e.takenBack? = none) :
    stillOpen (past ++ [e]) = stillOpen past := by
  rw [stillOpen, givenOut_concat, takenBack_concat, hgiven, htaken, Option.toList_none, List.append_nil, List.append_nil,
    stillOpen]

/-- A handle that was not taken back before is open once it is given out. -/
theorem stillOpen_concat_of_givenOut {handle : Nat} (hgiven : e.givenOut? = some handle) (htaken : e.takenBack? = none)
    (hnew : handle ∉ takenBack past) : stillOpen (past ++ [e]) = stillOpen past ++ [handle] := by
  rw [stillOpen, givenOut_concat, takenBack_concat, hgiven, htaken, Option.toList_none, List.append_nil,
    List.filter_append, stillOpen, Option.toList_some, List.filter_cons_of_pos (by simpa using hnew), List.filter_nil]

/-- A handle that is taken back is no longer open; the others are. -/
theorem stillOpen_concat_of_takenBack {handle : Nat} (hgiven : e.givenOut? = none) (htaken : e.takenBack? = some handle) :
    stillOpen (past ++ [e]) = (stillOpen past).filter (· ≠ handle) := by
  rw [stillOpen, givenOut_concat, takenBack_concat, hgiven, htaken, Option.toList_none, List.append_nil, stillOpen,
    List.filter_filter]
  refine List.filter_congr fun h _ => ?_
  simp [and_comm]

end

/-! ## The table is what is left over -/

/-- The handles given out are the first numbers, and the next one has yet to be given out; only handles that were given
out are taken back; and the table holds those that were not. -/
structure Namespace.Tracks (n : Namespace) (past : List HandleEvent) : Prop where
  given : givenOut past = List.range' 1 (givenOut past).length
  next : n.next = (givenOut past).length + 1
  taken : takenBack past ⊆ givenOut past
  table : n.handles.map Prod.fst = stillOpen past

namespace Namespace.Tracks

variable {n : Namespace} {past : List HandleEvent}

/-- Nothing has been opened yet. -/
theorem ofBrowser (browser : Browser) : (Namespace.ofBrowser browser).Tracks [] where
  given := rfl
  next := rfl
  taken := List.Subset.refl []
  table := rfl

/-- A handle that was given out is below the next one. -/
theorem lt_next (h : n.Tracks past) {handle : Nat} (hgiven : handle ∈ givenOut past) : 1 ≤ handle ∧ handle < n.next := by
  rw [h.given, List.mem_range'_1] at hgiven
  rw [h.next]
  omega

/-- No handle is given out twice. -/
theorem nodup (h : n.Tracks past) : (givenOut past).Nodup := by
  rw [h.given]
  exact List.nodup_range'

/-- The handles that have an open file are those that were given out and not taken back. -/
theorem isSome_openFile?_iff (h : n.Tracks past) {handle : Nat} :
    (n.openFile? handle).isSome = true ↔ handle ∈ stillOpen past := by
  rw [Namespace.isSome_openFile?_iff, h.table]

/-- A handle that is given out has the file for which it was. -/
theorem openFile?_next (h : n.Tracks past) (file : OpenFile) :
    ({ n with handles := n.handles ++ [(n.next, file)], next := n.next + 1 } : Namespace).openFile? n.next =
      some file := by
  have hnew : n.openFile? n.next = none := by
    rw [← Option.not_isSome_iff_eq_none, h.isSome_openFile?_iff]
    intro hopen
    exact absurd (h.lt_next (List.mem_filter.mp hopen).1).2 (Nat.lt_irrefl _)
  have hfind : n.handles.find? (fun entry => entry.1 = n.next) = none := by simpa [openFile?] using hnew
  simp [openFile?, List.find?_append, hfind]

/-- A call that neither gives out nor takes back and leaves the namespace as it was. -/
theorem of_none (h : n.Tracks past) {e : HandleEvent} (hgiven : e.givenOut? = none) (htaken : e.takenBack? = none) :
    n.Tracks (past ++ [e]) := by
  have hgivenOut : givenOut (past ++ [e]) = givenOut past := by
    rw [givenOut_concat, hgiven, Option.toList_none, List.append_nil]
  have htakenBack : takenBack (past ++ [e]) = takenBack past := by
    rw [takenBack_concat, htaken, Option.toList_none, List.append_nil]
  exact {
    given := by rw [hgivenOut]; exact h.given
    next := by rw [hgivenOut]; exact h.next
    taken := by rw [hgivenOut, htakenBack]; exact h.taken
    table := by rw [stillOpen_concat_of_none hgiven htaken]; exact h.table }

/-- The next handle is given out, for an open file. -/
theorem of_open (h : n.Tracks past) {e : HandleEvent} (hgiven : e.givenOut? = some n.next) (htaken : e.takenBack? = none)
    (file : OpenFile) :
    ({ n with handles := n.handles ++ [(n.next, file)], next := n.next + 1 } : Namespace).Tracks (past ++ [e]) := by
  have hgivenOut : givenOut (past ++ [e]) = givenOut past ++ [n.next] := by
    rw [givenOut_concat, hgiven, Option.toList_some]
  have htakenBack : takenBack (past ++ [e]) = takenBack past := by
    rw [takenBack_concat, htaken, Option.toList_none, List.append_nil]
  have hnew : n.next ∉ takenBack past := fun hmem => absurd (h.lt_next (h.taken hmem)).2 (Nat.lt_irrefl _)
  exact {
    given := by
      rw [hgivenOut, List.length_append, List.length_singleton, List.range'_1_concat, ← h.given, h.next, Nat.add_comm]
    next := by rw [hgivenOut, List.length_append, List.length_singleton, ← h.next]
    taken := by
      rw [hgivenOut, htakenBack]
      exact List.Subset.trans h.taken (List.subset_append_left _ _)
    table := by
      rw [stillOpen_concat_of_givenOut hgiven htaken hnew, ← h.table, List.map_append]
      rfl }

/-- A handle is taken back. -/
theorem of_release (h : n.Tracks past) {e : HandleEvent} {handle : Nat} (hgiven : e.givenOut? = none)
    (htaken : e.takenBack? = some handle) (hopen : handle ∈ stillOpen past) :
    ({ n with handles := n.handles.filter fun entry => entry.1 ≠ handle } : Namespace).Tracks (past ++ [e]) := by
  have hgivenOut : givenOut (past ++ [e]) = givenOut past := by
    rw [givenOut_concat, hgiven, Option.toList_none, List.append_nil]
  have htakenBack : takenBack (past ++ [e]) = takenBack past ++ [handle] := by
    rw [takenBack_concat, htaken, Option.toList_some]
  exact {
    given := by rw [hgivenOut]; exact h.given
    next := by rw [hgivenOut]; exact h.next
    taken := by
      rw [hgivenOut, htakenBack]
      refine List.append_subset.mpr ⟨h.taken, ?_⟩
      exact List.cons_subset.mpr ⟨(List.mem_filter.mp hopen).1, List.nil_subset _⟩
    table := by
      rw [stillOpen_concat_of_takenBack hgiven htaken, ← h.table, List.filter_map]
      rfl }

/-- One step keeps the table what is left over. -/
theorem step (h : n.Tracks past) {e : HandleEvent} {after : Namespace} (hstep : n.Steps e after) :
    after.Tracks (past ++ [e]) := by
  cases hstep with
  | failed call cause => exact h.of_none rfl (by cases call <;> rfl)
  | opened store files path file => exact h.of_open rfl rfl file
  | read delivery handle offset length content => exact h.of_none rfl rfl
  | released handle hopen => exact h.of_release rfl rfl (h.isSome_openFile?_iff.mp hopen)

end Namespace.Tracks

namespace Namespace

/-- **The table after a run** is what is left over. -/
theorem tracks_after (browser : Browser) (calls : List HandleCall) :
    ((ofBrowser browser).after calls).Tracks ((ofBrowser browser).history calls) := by
  induction calls using List.reverseRecOn with
  | nil => exact .ofBrowser browser
  | append_singleton calls call ih =>
    rw [after_concat, history_concat]
    exact ih.step (steps_perform _ call)

/-- A call that fails changes nothing. -/
theorem perform_of_error {n : Namespace} {call : HandleCall} {cause : NamespaceError}
    (h : (n.perform call).1.result = .error cause) : (n.perform call).2 = n := by
  have hstep := n.steps_perform call
  generalize n.perform call = performed at h hstep
  obtain ⟨e, after⟩ := performed
  cases hstep with
  | failed => rfl
  | opened => cases h
  | read => rfl
  | released => cases h

/-- **Handles are open until they are released.** After every run of calls on a namespace in which nothing was open,
whatever the store and the real files were in each call: no handle was given out twice, and none is above the number of
those given out, so that they fit 64 bits if these do. The open handles are those that were given out and not taken
back, and `openCount` is how many these are; reading from any other, or releasing it, is what gives `badHandle`, and a
release fails for no other reason. A call that fails changes nothing, and nothing is opened for writing. -/
theorem open_until_released (browser : Browser) (calls : List HandleCall) :
    let n := (ofBrowser browser).after calls
    let past := (ofBrowser browser).history calls
    (givenOut past).Nodup ∧ (∀ handle ∈ givenOut past, 1 ≤ handle ∧ handle ≤ (givenOut past).length) ∧
      (∀ handle, (n.openFile? handle).isSome = true ↔ handle ∈ stillOpen past) ∧
      (stillOpen past).Nodup ∧ n.openCount = (stillOpen past).length ∧
      (∀ delivery handle offset length,
        n.read delivery handle offset length = .error .badHandle ↔ handle ∉ stillOpen past) ∧
      (∀ handle, (n.release handle).1 = .error .badHandle ↔ handle ∉ stillOpen past) ∧
      (∀ handle cause, (n.release handle).1 = .error cause → cause = .badHandle) ∧
      (∀ call cause, (n.perform call).1.result = .error cause → (n.perform call).2 = n) ∧
      ∀ store files path, ∃ cause, (n.open store files path true).1 = .error cause := by
  intro n past
  have htracks : n.Tracks past := tracks_after browser calls
  have hclosed : ∀ handle, (n.openFile? handle).isSome = false ↔ handle ∉ stillOpen past := by
    intro handle
    rw [← htracks.isSome_openFile?_iff, Bool.not_eq_true]
  refine ⟨htracks.nodup, ?_, fun _ => htracks.isSome_openFile?_iff, htracks.nodup.filter _, ?_, ?_, ?_, ?_, ?_, ?_⟩
  · intro handle hgiven
    have hbounds := htracks.lt_next hgiven
    rw [htracks.next] at hbounds
    omega
  · rw [openCount, ← htracks.table, List.length_map]
  · intro delivery handle offset length
    rw [read_eq_badHandle_iff, hclosed]
  · intro handle
    rw [release_eq, ← hclosed]
    cases (n.openFile? handle).isSome with
    | true => exact iff_of_false nofun nofun
    | false => exact iff_of_true rfl rfl
  · intro handle cause hrelease
    rw [release_eq] at hrelease
    split at hrelease
    · cases hrelease
    · cases hrelease
      rfl
  · intro call cause
    exact perform_of_error
  · intro store files path
    exact open_for_writing n store files path

end Namespace

end MediaCatalog
