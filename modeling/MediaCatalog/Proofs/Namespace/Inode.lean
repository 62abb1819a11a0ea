import Mathlib
import MediaCatalog.Namespace.Inode

/-!
# Inode numbers over runs of calls

The table of inode numbers keeps three maps: the number of a path, the path of a number, and the look-ups
that were answered for a number and not taken back. This file follows them through runs of calls, against
the history of what was asked and answered.

* `InodeCall`, `InodeEvent`, `InodeTable.after`, `InodeTable.history`: runs and their histories.
* `InodeTable.WellFormed`: the maps of numbers and of paths are inverse, the root is known, and only known
  numbers are counted.
* `lookupsOf`, `forgottenSince`: what a history says of a number.
* `InodeTable.Settles`: the counts in the table are what is left over from the history; one call keeps
  this (`Settles.perform`), so a run does (`settles_after`).
* `InodeTable.Within`: the next number and the counts are small after few calls.
* `InodeTable.Evicts`: a call drops a number; only taking look-ups back does (`evicts_iff_forget`), and the
  number is not handed out again (`handsOut?_ne_of_gone`).
* **Main result** (`InodeTable.evicted_once_forgotten`): the maps agree after every run, and a number is
  evicted by just the call that takes the last of its look-ups back.
-/

namespace MediaCatalog

/-! ## Runs -/

/-- A call on the table of inode numbers. -/
inductive InodeCall where
  | number (path : String)
  | lookup (path : String)
  | forget (inode count : Nat)

/-- A call with what it was answered. -/
inductive InodeEvent where
  | numbered (path : String) (inode : Nat)
  | lookedUp (path : String) (inode : Nat)
  | forgotten (inode count : Nat) (evicted : Bool)

namespace InodeTable

/-- One call, with the table after it. -/
def perform (t : InodeTable) : InodeCall → InodeEvent × InodeTable
  | .number path => (.numbered path (t.number path).1, (t.number path).2)
  | .lookup path => (.lookedUp path (t.lookup path).1, (t.lookup path).2)
  | .forget inode count => (.forgotten inode count (t.forget inode count).1, (t.forget inode count).2)

/-- The table after calls. -/
def after (t : InodeTable) (calls : List InodeCall) : InodeTable := calls.foldl (fun t call => (t.perform call).2) t

/-- What calls were answered. -/
def history (t : InodeTable) : List InodeCall → List InodeEvent
  | [] => []
  | call :: rest => (t.perform call).1 :: (t.perform call).2.history rest

/-- One more call comes last in the history. -/
theorem history_concat (t : InodeTable) (calls : List InodeCall) (call : InodeCall) :
    t.history (calls ++ [call]) = t.history calls ++ [((t.after calls).perform call).1] := by
  induction calls generalizing t with
  | nil => rfl
  | cons first rest ih =>
    rw [List.cons_append, history, history, ih]
    rfl

/-- One more call meets the table after those before. -/
theorem after_concat (t : InodeTable) (calls : List InodeCall) (call : InodeCall) :
    t.after (calls ++ [call]) = ((t.after calls).perform call).2 := by
  unfold after
  rw [List.foldl_append]
  rfl

/-! ## Well-formed tables -/

/-- The maps of numbers and of paths are inverse, with numbers below the next one; the root has its number;
and a number that is counted has a path and a positive count. -/
structure WellFormed (t : InodeTable) : Prop where
  inverse : ∀ path inode, t.numbers.get? path = some inode ↔ t.path? inode = some path
  root : t.path? rootInode = some "/"
  below : ∀ inode path, t.path? inode = some path → inode < t.next
  counted : ∀ inode lookups, t.lookups.get? inode = some lookups → 0 < lookups ∧ ∃ path, t.path? inode = some path

variable {t : InodeTable} {inode : Nat} {path : String}

/-- The table that knows the root only. -/
theorem wellFormed_initial : initial.WellFormed where
  inverse path inode := by
    rw [path?, initial, Dict.get?_insert, NumberMap.get?_insert]
    by_cases hpath : "/" = path
    · by_cases hinode : rootInode = inode <;> simp [hpath, hinode]
    · by_cases hinode : rootInode = inode <;> simp [hpath, hinode]
  root := rfl
  below inode path hpath := by
    rw [path?, initial, NumberMap.get?_insert] at hpath
    by_cases hinode : rootInode = inode
    · subst hinode
      decide
    · rw [if_neg hinode] at hpath
      cases hpath
  counted inode lookups hlookups := by cases hlookups

/-- Numbers from the next one on have no path. -/
theorem WellFormed.path?_of_le (h : t.WellFormed) (hle : t.next ≤ inode) : t.path? inode = none := by
  cases hpath : t.path? inode with
  | none => rfl
  | some path => exact absurd (h.below inode path hpath) (Nat.not_lt.mpr hle)

/-- A number without a path is not counted. -/
theorem WellFormed.lookups_of_path? (h : t.WellFormed) (hnone : t.path? inode = none) : t.lookups.get? inode = none := by
  cases hlookups : t.lookups.get? inode with
  | none => rfl
  | some lookups =>
    obtain ⟨-, path, hpath⟩ := h.counted inode lookups hlookups
    rw [hnone] at hpath
    cases hpath

/-! ### What the operations do to the maps -/

/-- **Asking for the number of a path**: it is the one that it has, else the next one is handed out. -/
theorem number_spec (t : InodeTable) (path : String) :
    (∃ inode, t.numbers.get? (tidyPath path) = some inode ∧ t.number path = (inode, t)) ∨
      (t.numbers.get? (tidyPath path) = none ∧ t.number path = (t.next, t.add (tidyPath path))) := by
  unfold number
  cases hfind : t.numbers.get? (tidyPath path) with
  | some inode => exact .inl ⟨inode, rfl, rfl⟩
  | none => exact .inr ⟨rfl, rfl⟩

/-- The paths after the next number was handed out. -/
theorem path?_add (t : InodeTable) (path : String) (inode : Nat) :
    (t.add path).path? inode = if t.next = inode then some path else t.path? inode :=
  NumberMap.get?_insert t.paths t.next inode path

/-- A path without a number may get the next one. -/
theorem WellFormed.add (h : t.WellFormed) (hnone : t.numbers.get? path = none) : (t.add path).WellFormed where
  inverse path' inode := by
    have hnext : t.path? t.next = none := h.path?_of_le (Nat.le_refl _)
    rw [path?_add, InodeTable.add, Dict.get?_insert]
    by_cases hpath : path = path'
    · subst hpath
      rw [if_pos rfl]
      by_cases hinode : t.next = inode
      · simp [hinode]
      · have hother := h.inverse path inode
        rw [hnone] at hother
        rw [if_neg hinode, ← hother]
        simp [hinode]
    · rw [if_neg hpath]
      by_cases hinode : t.next = inode
      · subst hinode
        rw [if_pos rfl, h.inverse, hnext]
        simp [hpath]
      · rw [if_neg hinode]
        exact h.inverse path' inode
  root := by
    rw [path?_add, if_neg (Nat.ne_of_gt (h.below rootInode "/" h.root))]
    exact h.root
  below inode path' hpath := by
    rw [path?_add] at hpath
    by_cases hinode : t.next = inode
    · exact hinode ▸ Nat.lt_succ_self _
    · rw [if_neg hinode] at hpath
      exact Nat.lt_succ_of_lt (h.below inode path' hpath)
  counted inode lookups hlookups := by
    obtain ⟨hpositive, path', hpath⟩ := h.counted inode lookups hlookups
    refine ⟨hpositive, path', ?_⟩
    rw [path?_add, if_neg (Nat.ne_of_gt (h.below inode path' hpath))]
    exact hpath

/-- After a number was asked for, it is that of the path. -/
theorem WellFormed.path?_number (h : t.WellFormed) (path : String) :
    (t.number path).2.path? (t.number path).1 = some (tidyPath path) := by
  rcases t.number_spec path with ⟨inode, hfind, hnumber⟩ | ⟨-, hnumber⟩
  · rw [hnumber]
    exact (h.inverse _ _).mp hfind
  · rw [hnumber, path?_add, if_pos rfl]

/-- Asking for a number drops none. -/
theorem path?_number_isSome (h : (t.path? inode).isSome = true) (path : String) :
    ((t.number path).2.path? inode).isSome = true := by
  rcases t.number_spec path with ⟨inode', -, hnumber⟩ | ⟨-, hnumber⟩
  · rw [hnumber]
    exact h
  · rw [hnumber, path?_add]
    split
    · rfl
    · exact h

/-- Looking a path up numbers it, and counts one more look-up of its number. -/
theorem lookup_eq (t : InodeTable) (path : String) :
    t.lookup path = ((t.number path).1, (t.number path).2.setLookups (t.number path).1
      (((t.number path).2.lookups.get? (t.number path).1).getD 0 + 1)) :=
  rfl

/-- The counts after one was set. -/
theorem lookups_setLookups (t : InodeTable) (inode lookups other : Nat) :
    (t.setLookups inode lookups).lookups.get? other = if inode = other then some lookups else t.lookups.get? other :=
  NumberMap.get?_insert t.lookups inode other lookups

/-- The count of a known number may be set to a positive one. -/
theorem WellFormed.setLookups (h : t.WellFormed) (hpath : t.path? inode = some path) {lookups : Nat} (hpos : 0 < lookups) :
    (t.setLookups inode lookups).WellFormed where
  inverse := h.inverse
  root := h.root
  below := h.below
  counted other count hcount := by
    rw [lookups_setLookups] at hcount
    by_cases hsame : inode = other
    · subst hsame
      rw [if_pos rfl] at hcount
      cases hcount
      exact ⟨hpos, path, hpath⟩
    · rw [if_neg hsame] at hcount
      exact h.counted other count hcount

/-- The paths after a number was dropped. -/
theorem path?_evict (t : InodeTable) (inode other : Nat) :
    (t.evict inode).path? other = if inode = other then none else t.path? other :=
  NumberMap.get?_erase t.paths inode other

/-- The counts after a number was dropped. -/
theorem lookups_evict (t : InodeTable) (inode other : Nat) :
    (t.evict inode).lookups.get? other = if inode = other then none else t.lookups.get? other :=
  NumberMap.get?_erase t.lookups inode other

/-- A number that is dropped takes its path along. -/
theorem numbers_evict (hpath : t.path? inode = some path) (path' : String) :
    (t.evict inode).numbers.get? path' = if path = path' then none else t.numbers.get? path' := by
  have hfind : t.paths.get? inode = some path := hpath
  rw [evict, hfind]
  exact Dict.get?_erase t.numbers path path'

/-- A known number may be dropped unless it is the root's. -/
theorem WellFormed.evict (h : t.WellFormed) (hpath : t.path? inode = some path) (hroot : inode ≠ rootInode) :
    (t.evict inode).WellFormed where
  inverse path' other := by
    rw [path?_evict, numbers_evict hpath]
    by_cases hsame : inode = other
    · subst hsame
      rw [if_pos rfl]
      by_cases hpath' : path = path'
      · simp [hpath']
      · rw [if_neg hpath', h.inverse, hpath]
        simp [hpath']
    · rw [if_neg hsame, ← h.inverse]
      by_cases hpath' : path = path'
      · subst hpath'
        rw [(h.inverse path inode).mpr hpath]
        simp [hsame]
      · rw [if_neg hpath']
  root := by
    rw [path?_evict, if_neg hroot]
    exact h.root
  below other path' hother := by
    rw [path?_evict] at hother
    by_cases hsame : inode = other
    · rw [if_pos hsame] at hother
      cases hother
    · rw [if_neg hsame] at hother
      exact h.below other path' hother
  counted other lookups hlookups := by
    rw [lookups_evict] at hlookups
    by_cases hsame : inode = other
    · rw [if_pos hsame] at hlookups
      cases hlookups
    · rw [if_neg hsame] at hlookups
      rw [path?_evict, if_neg hsame]
      exact h.counted other lookups hlookups

/-- **Taking look-ups back**: nothing happens to the root and to a number that is not counted, else the
count goes down, and a number without count left is dropped. -/
theorem forget_spec (t : InodeTable) (inode count : Nat) :
    ((inode = rootInode ∨ t.lookups.get? inode = none) ∧ t.forget inode count = (false, t)) ∨
      (inode ≠ rootInode ∧ ∃ lookups, t.lookups.get? inode = some lookups ∧
        ((count < lookups ∧ t.forget inode count = (false, t.setLookups inode (lookups - count))) ∨
          (lookups ≤ count ∧ t.forget inode count = (true, t.evict inode)))) := by
  unfold forget
  by_cases hroot : inode = rootInode
  · rw [if_pos hroot]
    exact .inl ⟨.inl hroot, rfl⟩
  · rw [if_neg hroot]
    cases hlookups : t.lookups.get? inode with
    | none => exact .inl ⟨.inr rfl, rfl⟩
    | some lookups =>
      refine .inr ⟨hroot, lookups, rfl, ?_⟩
      by_cases hlt : count < lookups
      · exact .inl ⟨hlt, if_pos hlt⟩
      · exact .inr ⟨Nat.le_of_not_lt hlt, if_neg hlt⟩

end InodeTable

/-! ## Histories -/

namespace InodeEvent

/-- Whether a look-up was answered with a number. -/
def looksUp (inode : Nat) : InodeEvent → Bool
  | lookedUp _ answer => answer == inode
  | _ => false

/-- How many look-ups of a number were to be taken back. -/
def takesBack (inode : Nat) : InodeEvent → Nat
  | forgotten asked count _ => if asked = inode then count else 0
  | _ => 0

/-- The number that was handed out. -/
def handsOut? : InodeEvent → Option Nat
  | numbered _ inode => some inode
  | lookedUp _ inode => some inode
  | forgotten _ _ _ => none

/-- A look-up takes nothing back. -/
theorem takesBack_of_looksUp {inode : Nat} {e : InodeEvent} (h : e.looksUp inode = true) : e.takesBack inode = 0 := by
  cases e with
  | numbered path answer => rfl
  | lookedUp path answer => rfl
  | forgotten asked count evicted => cases h

end InodeEvent

/-- How many look-ups were answered with a number. -/
def lookupsOf (inode : Nat) (past : List InodeEvent) : Nat := past.countP (InodeEvent.looksUp inode)

/-- How many look-ups of a number were to be taken back since the first one. -/
def forgottenSince (inode : Nat) (past : List InodeEvent) : Nat :=
  ((past.dropWhile fun e => !e.looksUp inode).map (InodeEvent.takesBack inode)).sum

variable {past : List InodeEvent} {inode : Nat}

/-- One more event counts if it is a look-up of the number. -/
theorem lookupsOf_concat (inode : Nat) (past : List InodeEvent) (e : InodeEvent) :
    lookupsOf inode (past ++ [e]) = lookupsOf inode past + if e.looksUp inode then 1 else 0 := by
  rw [lookupsOf, lookupsOf, List.countP_append, List.countP_singleton]

/-- A number was never looked up exactly if no event is left from its first look-up on. -/
theorem dropWhile_eq_nil_iff_lookupsOf :
    past.dropWhile (fun e => !e.looksUp inode) = [] ↔ lookupsOf inode past = 0 := by
  rw [List.dropWhile_eq_nil_iff, lookupsOf, List.countP_eq_zero]
  simp

/-- Nothing was taken back since the first look-up of a number that was never looked up. -/
theorem forgottenSince_of_lookupsOf (h : lookupsOf inode past = 0) : forgottenSince inode past = 0 := by
  rw [forgottenSince, dropWhile_eq_nil_iff_lookupsOf.mpr h]
  rfl

/-- What one more event takes back counts once the number was looked up. -/
theorem forgottenSince_concat (inode : Nat) (past : List InodeEvent) (e : InodeEvent) :
    forgottenSince inode (past ++ [e]) =
      forgottenSince inode past + if lookupsOf inode past = 0 then 0 else e.takesBack inode := by
  unfold forgottenSince
  rw [List.dropWhile_append]
  by_cases hnone : lookupsOf inode past = 0
  · rw [if_pos hnone, dropWhile_eq_nil_iff_lookupsOf.mpr hnone]
    cases hlooks : e.looksUp inode with
    | false => simp [hlooks]
    | true => simp [hlooks, InodeEvent.takesBack_of_looksUp hlooks]
  · have hsome := mt dropWhile_eq_nil_iff_lookupsOf.mp hnone
    rw [if_neg hnone, if_neg (by simpa using hsome)]
    simp

/-- What was to be taken back only grows. -/
theorem forgottenSince_le_concat (inode : Nat) (past : List InodeEvent) (e : InodeEvent) :
    forgottenSince inode past ≤ forgottenSince inode (past ++ [e]) := by
  rw [forgottenSince_concat]
  exact Nat.le_add_right _ _

/-- A look-up counts for the number that was answered. -/
theorem lookupsOf_lookedUp (inode : Nat) (past : List InodeEvent) (asked : String) (answer : Nat) :
    lookupsOf inode (past ++ [.lookedUp asked answer]) = lookupsOf inode past + if answer = inode then 1 else 0 := by
  rw [lookupsOf_concat]
  simp [InodeEvent.looksUp]

/-- A look-up takes nothing back. -/
theorem forgottenSince_lookedUp (inode : Nat) (past : List InodeEvent) (asked : String) (answer : Nat) :
    forgottenSince inode (past ++ [.lookedUp asked answer]) = forgottenSince inode past := by
  rw [forgottenSince_concat]
  simp [InodeEvent.takesBack]

/-- Taking look-ups back is no look-up. -/
theorem lookupsOf_forgotten (inode : Nat) (past : List InodeEvent) (asked count : Nat) (evicted : Bool) :
    lookupsOf inode (past ++ [.forgotten asked count evicted]) = lookupsOf inode past :=
  lookupsOf_concat inode past _

/-- Look-ups of one number are not taken back from another one. -/
theorem forgottenSince_forgotten_other {asked : Nat} (hne : inode ≠ asked) (count : Nat) (evicted : Bool) :
    forgottenSince inode (past ++ [.forgotten asked count evicted]) = forgottenSince inode past := by
  rw [forgottenSince_concat]
  simp [InodeEvent.takesBack, hne.symm]

/-- Look-ups of a number are taken back from those that it had. -/
theorem forgottenSince_forgotten (h : lookupsOf inode past ≠ 0) (count : Nat) (evicted : Bool) :
    forgottenSince inode (past ++ [.forgotten inode count evicted]) = forgottenSince inode past + count := by
  rw [forgottenSince_concat, if_neg h]
  simp [InodeEvent.takesBack]

/-! ## What is left over -/

/-- The counts in a table are what is left over from a history: a known number other than the root's was
never looked up and is not counted, or it has the look-ups that were not taken back, one at least; nothing
is left over of a number without a path, and the numbers to come were never looked up. -/
structure InodeTable.Settles (t : InodeTable) (past : List InodeEvent) : Prop where
  wellFormed : t.WellFormed
  known : ∀ inode path, t.path? inode = some path → inode ≠ rootInode →
    (lookupsOf inode past = 0 ∧ t.lookups.get? inode = none) ∨
      (forgottenSince inode past < lookupsOf inode past ∧
        t.lookups.get? inode = some (lookupsOf inode past - forgottenSince inode past))
  gone : ∀ inode, t.path? inode = none → lookupsOf inode past ≤ forgottenSince inode past
  unused : ∀ inode, t.next ≤ inode → lookupsOf inode past = 0

namespace InodeTable.Settles

open InodeEvent

variable {t : InodeTable} {path : String}

/-- At first only the root is known, and nothing was asked. -/
theorem initial : initial.Settles [] where
  wellFormed := wellFormed_initial
  known _ _ _ _ := .inl ⟨rfl, rfl⟩
  gone _ _ := Nat.le_refl 0
  unused _ _ := rfl

/-- A number that is asked for is known then, and nothing else changes. -/
theorem number (h : t.Settles past) (path : String) : (t.number path).2.Settles past := by
  rcases t.number_spec path with ⟨inode, -, hnumber⟩ | ⟨hnone, hnumber⟩
  · rw [hnumber]
    exact h
  · rw [hnumber]
    refine ⟨h.wellFormed.add hnone, ?_, ?_, ?_⟩
    · intro inode path' hpath hroot
      rw [path?_add] at hpath
      by_cases hsame : t.next = inode
      · -- the new one was never looked up
        subst hsame
        exact .inl ⟨h.unused t.next (Nat.le_refl _), h.wellFormed.lookups_of_path? (h.wellFormed.path?_of_le (Nat.le_refl _))⟩
      · rw [if_neg hsame] at hpath
        exact h.known inode path' hpath hroot
    · intro inode hgone
      rw [path?_add] at hgone
      by_cases hsame : t.next = inode
      · rw [if_pos hsame] at hgone
        cases hgone
      · rw [if_neg hsame] at hgone
        exact h.gone inode hgone
    · intro inode hle
      exact h.unused inode (Nat.le_of_succ_le hle)

/-- Where another history says the same of every number, the same is left over. -/
theorem congr {past' : List InodeEvent} (h : t.Settles past)
    (hlookups : ∀ inode, lookupsOf inode past' = lookupsOf inode past)
    (hforgotten : ∀ inode, forgottenSince inode past' = forgottenSince inode past) : t.Settles past' where
  wellFormed := h.wellFormed
  known inode path hpath hroot := by
    rw [hlookups, hforgotten]
    exact h.known inode path hpath hroot
  gone inode hgone := by
    rw [hlookups, hforgotten]
    exact h.gone inode hgone
  unused inode hle := by
    rw [hlookups]
    exact h.unused inode hle

/-- A count is what is left over of a known number. -/
theorem of_lookups (h : t.Settles past) {count : Nat} (hroot : inode ≠ rootInode)
    (hcount : t.lookups.get? inode = some count) :
    (∃ path, t.path? inode = some path) ∧ forgottenSince inode past < lookupsOf inode past ∧
      count = lookupsOf inode past - forgottenSince inode past := by
  obtain ⟨-, path, hpath⟩ := h.wellFormed.counted inode count hcount
  rcases h.known inode path hpath hroot with ⟨-, hnone⟩ | ⟨hless, hsome⟩
  · rw [hnone] at hcount
    cases hcount
  · exact ⟨⟨path, hpath⟩, hless, Option.some.inj (hcount.symm.trans hsome)⟩

/-- **One more look-up** of a known number is counted. -/
theorem count (h : t.Settles past) (hpath : t.path? inode = some path) (asked : String) :
    (t.setLookups inode ((t.lookups.get? inode).getD 0 + 1)).Settles (past ++ [.lookedUp asked inode]) where
  wellFormed := h.wellFormed.setLookups hpath (Nat.succ_pos _)
  known := by
    intro other path' hpath' hroot
    rw [lookups_setLookups, lookupsOf_lookedUp, forgottenSince_lookedUp]
    by_cases hsame : inode = other
    · -- the number itself: one more is left over
      subst hsame
      right
      rw [if_pos rfl, if_pos rfl]
      rcases h.known inode path hpath hroot with ⟨hzero, hnone⟩ | ⟨hlt, hsome⟩
      · rw [hnone, hzero, forgottenSince_of_lookupsOf hzero]
        exact ⟨Nat.zero_lt_one, rfl⟩
      · rw [hsome, Option.getD_some]
        exact ⟨by omega, congrArg some (by omega)⟩
    · rw [if_neg hsame, if_neg hsame]
      exact h.known other path' hpath' hroot
  gone := by
    intro other hgone
    have hsame : inode ≠ other := by
      rintro rfl
      rw [show t.path? inode = none from hgone] at hpath
      cases hpath
    rw [lookupsOf_lookedUp, forgottenSince_lookedUp, if_neg hsame]
    exact h.gone other hgone
  unused := by
    intro other hle
    have hlt := h.wellFormed.below inode path hpath
    rw [lookupsOf_lookedUp, if_neg (Nat.ne_of_lt (Nat.lt_of_lt_of_le hlt hle))]
    exact h.unused other hle

/-- Taking back what nobody has changes nothing. -/
theorem forget_kept (h : t.Settles past) (hkept : inode = rootInode ∨ t.lookups.get? inode = none) (count : Nat) :
    t.Settles (past ++ [.forgotten inode count false]) where
  wellFormed := h.wellFormed
  known other path hpath hroot := by
    rw [lookupsOf_forgotten]
    by_cases hsame : other = inode
    · subst hsame
      rcases h.known other path hpath hroot with ⟨hzero, hnone⟩ | ⟨-, hsome⟩
      · rw [forgottenSince_concat, if_pos hzero]
        exact .inl ⟨hzero, hnone⟩
      · rw [hkept.resolve_left hroot] at hsome
        cases hsome
    · rw [forgottenSince_forgotten_other hsame]
      exact h.known other path hpath hroot
  gone other hgone := by
    rw [lookupsOf_forgotten]
    exact Nat.le_trans (h.gone other hgone) (forgottenSince_le_concat other past _)
  unused other hle := by
    rw [lookupsOf_forgotten]
    exact h.unused other hle

/-- Taking some look-ups back leaves the others over. -/
theorem forget_some (h : t.Settles past) (hroot : inode ≠ rootInode) {lookups count : Nat}
    (hlookups : t.lookups.get? inode = some lookups) (hlt : count < lookups) :
    (t.setLookups inode (lookups - count)).Settles (past ++ [.forgotten inode count false]) := by
  obtain ⟨⟨path, hpath⟩, hless, rfl⟩ := h.of_lookups hroot hlookups
  have hpositive : lookupsOf inode past ≠ 0 := by omega
  refine ⟨h.wellFormed.setLookups hpath (by omega), ?_, ?_, ?_⟩
  · intro other path' hpath' hroot'
    rw [lookupsOf_forgotten, lookups_setLookups]
    by_cases hsame : inode = other
    · subst hsame
      right
      rw [if_pos rfl, forgottenSince_forgotten hpositive]
      exact ⟨by omega, congrArg some (by omega)⟩
    · rw [if_neg hsame, forgottenSince_forgotten_other (Ne.symm hsame)]
      exact h.known other path' hpath' hroot'
  · intro other hgone
    rw [lookupsOf_forgotten]
    exact Nat.le_trans (h.gone other hgone) (forgottenSince_le_concat other past _)
  · intro other hle
    rw [lookupsOf_forgotten]
    exact h.unused other hle

/-- Taking all look-ups back leaves nothing over, and the number is dropped. -/
theorem forget_all (h : t.Settles past) (hroot : inode ≠ rootInode) {lookups count : Nat}
    (hlookups : t.lookups.get? inode = some lookups) (hle : lookups ≤ count) :
    (t.evict inode).Settles (past ++ [.forgotten inode count true]) := by
  obtain ⟨⟨path, hpath⟩, hless, rfl⟩ := h.of_lookups hroot hlookups
  have hpositive : lookupsOf inode past ≠ 0 := by omega
  refine ⟨h.wellFormed.evict hpath hroot, ?_, ?_, ?_⟩
  · intro other path' hpath' hroot'
    rw [path?_evict] at hpath'
    by_cases hsame : inode = other
    · rw [if_pos hsame] at hpath'
      cases hpath'
    · rw [if_neg hsame] at hpath'
      rw [lookupsOf_forgotten, forgottenSince_forgotten_other (Ne.symm hsame), lookups_evict, if_neg hsame]
      exact h.known other path' hpath' hroot'
  · intro other hgone
    rw [lookupsOf_forgotten]
    by_cases hsame : inode = other
    · subst hsame
      rw [forgottenSince_forgotten hpositive]
      omega
    · rw [path?_evict, if_neg hsame] at hgone
      rw [forgottenSince_forgotten_other (Ne.symm hsame)]
      exact h.gone other hgone
  · intro other hle'
    rw [lookupsOf_forgotten]
    exact h.unused other hle'

/-- **One call** keeps what is left over. -/
theorem perform (h : t.Settles past) (call : InodeCall) : (t.perform call).2.Settles (past ++ [(t.perform call).1]) := by
  cases call with
  | number path =>
    refine (h.number path).congr (fun inode => lookupsOf_concat inode past _) fun inode => ?_
    rw [InodeTable.perform, forgottenSince_concat]
    simp [takesBack]
  | lookup path =>
    rw [InodeTable.perform, lookup_eq]
    exact (h.number path).count (h.wellFormed.path?_number path) path
  | forget inode count =>
    rw [InodeTable.perform]
    rcases t.forget_spec inode count with
      ⟨hkept, hforget⟩ | ⟨hroot, lookups, hlookups, ⟨hlt, hforget⟩ | ⟨hle, hforget⟩⟩
    · rw [hforget]
      exact h.forget_kept hkept count
    · rw [hforget]
      exact h.forget_some hroot hlookups hlt
    · rw [hforget]
      exact h.forget_all hroot hlookups hle

end InodeTable.Settles

/-- **What is left over after a run** of calls on the table that knows the root only. -/
theorem InodeTable.settles_after (calls : List InodeCall) :
    (InodeTable.initial.after calls).Settles (InodeTable.initial.history calls) := by
  induction calls using List.reverseRecOn with
  | nil => exact .initial
  | append_singleton calls call ih =>
    rw [after_concat, history_concat]
    exact ih.perform call

/-! ## Numbers and counts stay small -/

namespace InodeTable

/-- The next number and all counts are within what so many calls can bring about. -/
def Within (t : InodeTable) (calls : Nat) : Prop :=
  t.next ≤ calls + 2 ∧ ∀ inode count, t.lookups.get? inode = some count → count ≤ calls

variable {t : InodeTable} {calls : Nat}

/-- Asking for a number raises the next one by one at most, and counts nothing. -/
theorem next_number (t : InodeTable) (path : String) :
    (t.number path).2.next ≤ t.next + 1 ∧ (t.number path).2.lookups = t.lookups := by
  rcases t.number_spec path with ⟨inode, -, hnumber⟩ | ⟨-, hnumber⟩
  · rw [hnumber]
    exact ⟨Nat.le_succ _, rfl⟩
  · rw [hnumber]
    exact ⟨Nat.le_refl _, rfl⟩

/-- More calls may bring about more. -/
theorem Within.mono (h : t.Within calls) {bound : Nat} (hle : calls ≤ bound) : t.Within bound :=
  ⟨Nat.le_trans h.1 (Nat.add_le_add_right hle 2), fun inode count hcount => Nat.le_trans (h.2 inode count hcount) hle⟩

/-- A count that is set may be as large as the others. -/
theorem Within.setLookups (h : t.Within calls) (inode : Nat) {count : Nat} (hcount : count ≤ calls) :
    (t.setLookups inode count).Within calls := by
  refine ⟨h.1, ?_⟩
  intro other count' hcount'
  rw [lookups_setLookups] at hcount'
  by_cases hsame : inode = other
  · rw [if_pos hsame] at hcount'
    cases hcount'
    exact hcount
  · rw [if_neg hsame] at hcount'
    exact h.2 other count' hcount'

/-- **One call** brings about little. -/
theorem Within.perform (h : t.Within calls) (call : InodeCall) : (t.perform call).2.Within (calls + 1) := by
  have hnumber (path : String) : (t.number path).2.Within (calls + 1) := by
    obtain ⟨hnext, hlookups⟩ := t.next_number path
    refine ⟨Nat.le_trans hnext (Nat.succ_le_succ h.1), ?_⟩
    rw [hlookups]
    exact (h.mono (Nat.le_succ _)).2
  cases call with
  | number path => exact hnumber path
  | lookup path =>
    rw [InodeTable.perform, lookup_eq]
    refine (hnumber path).setLookups _ (Nat.succ_le_succ ?_)
    rw [(t.next_number path).2]
    cases hcount : t.lookups.get? (t.number path).1 with
    | none => exact Nat.zero_le _
    | some count => exact h.2 _ count hcount
  | forget inode count =>
    rw [InodeTable.perform]
    rcases t.forget_spec inode count with ⟨-, hforget⟩ | ⟨-, lookups, hlookups, ⟨-, hforget⟩ | ⟨-, hforget⟩⟩
    · rw [hforget]
      exact h.mono (Nat.le_succ _)
    · rw [hforget]
      exact (h.setLookups inode (Nat.le_trans (Nat.sub_le _ _) (h.2 inode lookups hlookups))).mono (Nat.le_succ _)
    · rw [hforget]
      refine ⟨(h.mono (Nat.le_succ _)).1, ?_⟩
      intro other count' hcount'
      rw [lookups_evict] at hcount'
      split at hcount'
      · cases hcount'
      · exact (h.mono (Nat.le_succ _)).2 other count' hcount'

/-- After a run of calls, the next number and all counts are within what they can bring about. -/
theorem within_after (calls : List InodeCall) : (initial.after calls).Within calls.length := by
  induction calls using List.reverseRecOn with
  | nil => exact ⟨Nat.le_refl 2, fun inode count hcount => by cases hcount⟩
  | append_singleton calls call ih =>
    rw [after_concat, List.length_append]
    exact ih.perform call

/-! ## Evictions -/

/-- A call drops a number that had a path. -/
def Evicts (t : InodeTable) (call : InodeCall) (inode : Nat) : Prop :=
  (t.path? inode).isSome = true ∧ (t.perform call).2.path? inode = none

/-- The paths after look-ups of a number were taken back: its own is dropped if the answer says so. -/
theorem path?_forget (t : InodeTable) (inode count other : Nat) :
    (t.forget inode count).2.path? other =
      if (t.forget inode count).1 = true ∧ inode = other then none else t.path? other := by
  rcases t.forget_spec inode count with ⟨-, hforget⟩ | ⟨-, lookups, -, ⟨-, hforget⟩ | ⟨-, hforget⟩⟩
  · rw [hforget, if_neg fun hboth => Bool.false_ne_true hboth.1]
  · rw [hforget, if_neg fun hboth => Bool.false_ne_true hboth.1]
    rfl
  · rw [hforget, path?_evict]
    simp only [true_and]

/-- Taking look-ups back hands out no number. -/
theorem next_forget (t : InodeTable) (inode count : Nat) : (t.forget inode count).2.next = t.next := by
  rcases t.forget_spec inode count with ⟨-, hforget⟩ | ⟨-, lookups, -, ⟨-, hforget⟩ | ⟨-, hforget⟩⟩
  all_goals exact congrArg (fun answer => answer.2.next) hforget

/-- Only a number with a path is dropped. -/
theorem WellFormed.isSome_of_forget (h : t.WellFormed) {count : Nat} (htrue : (t.forget inode count).1 = true) :
    (t.path? inode).isSome = true := by
  rcases t.forget_spec inode count with ⟨-, hforget⟩ | ⟨-, lookups, hlookups, ⟨-, hforget⟩ | ⟨-, -⟩⟩
  · rw [hforget] at htrue
    cases htrue
  · rw [hforget] at htrue
    cases htrue
  · obtain ⟨-, path, hpath⟩ := h.counted inode lookups hlookups
    rw [hpath]
    rfl

/-- **Only taking look-ups back drops a number**, and the answer tells of it. -/
theorem WellFormed.evicts_iff_forget (h : t.WellFormed) (call : InodeCall) (inode : Nat) :
    t.Evicts call inode ↔ ∃ count, call = .forget inode count ∧ (t.forget inode count).1 = true := by
  unfold Evicts
  cases call with
  | number path | lookup path =>
    constructor
    · rintro ⟨hsome, hnone⟩
      exact absurd hnone (Option.isSome_iff_ne_none.mp (path?_number_isSome hsome path))
    · rintro ⟨count, hcall, -⟩
      cases hcall
  | forget asked count =>
    rw [InodeTable.perform, path?_forget]
    constructor
    · rintro ⟨hsome, hnone⟩
      by_cases hdropped : (t.forget asked count).1 = true ∧ asked = inode
      · obtain ⟨htrue, rfl⟩ := hdropped
        exact ⟨count, rfl, htrue⟩
      · rw [if_neg hdropped] at hnone
        exact absurd hnone (Option.isSome_iff_ne_none.mp hsome)
    · rintro ⟨_, hcall, htrue⟩
      cases hcall
      exact ⟨h.isSome_of_forget htrue, if_pos ⟨htrue, rfl⟩⟩

/-- **The last look-up is taken back** exactly by the call that brings what was taken back since the first
look-up to the look-ups answered so far. -/
theorem Settles.forget_true_iff {past : List InodeEvent} (h : t.Settles past) (inode count : Nat) :
    (t.forget inode count).1 = true ↔
      inode ≠ rootInode ∧ forgottenSince inode past < lookupsOf inode past ∧
        lookupsOf inode past ≤ forgottenSince inode past + count := by
  rcases t.forget_spec inode count with
    ⟨hkept, hforget⟩ | ⟨hroot, lookups, hlookups, ⟨hlt, hforget⟩ | ⟨hle, hforget⟩⟩
  · -- the root, or a number that is not counted: nothing is left over of it
    rw [hforget]
    refine iff_of_false Bool.false_ne_true ?_
    rintro ⟨hroot, hless, -⟩
    cases hpath : t.path? inode with
    | none => exact absurd (h.gone inode hpath) (Nat.not_le.mpr hless)
    | some path =>
      rcases h.known inode path hpath hroot with ⟨hzero, -⟩ | ⟨-, hsome⟩
      · omega
      · rw [hkept.resolve_left hroot] at hsome
        cases hsome
  · obtain ⟨-, hless, rfl⟩ := h.of_lookups hroot hlookups
    rw [hforget]
    refine iff_of_false Bool.false_ne_true ?_
    omega
  · obtain ⟨-, hless, rfl⟩ := h.of_lookups hroot hlookups
    rw [hforget]
    refine iff_of_true rfl ?_
    exact ⟨hroot, hless, by omega⟩

/-- The next number never goes down. -/
theorem next_le_perform (t : InodeTable) (call : InodeCall) : t.next ≤ (t.perform call).2.next := by
  have hnumber (path : String) : t.next ≤ (t.number path).2.next := by
    rcases t.number_spec path with ⟨inode, -, hnumber⟩ | ⟨-, hnumber⟩
    · rw [hnumber]
    · rw [hnumber]
      exact Nat.le_succ t.next
  cases call with
  | number path | lookup path => exact hnumber path
  | forget inode count => exact Nat.le_of_eq (t.next_forget inode count).symm

/-- A number was handed out once and has no path. -/
def Gone (t : InodeTable) (inode : Nat) : Prop := inode < t.next ∧ t.path? inode = none

/-- Asking for a number does not hand out one that is gone, which stays gone. -/
theorem Gone.number (h : t.Gone inode) (hwell : t.WellFormed) (path : String) :
    (t.number path).1 ≠ inode ∧ (t.number path).2.Gone inode := by
  obtain ⟨hlt, hnone⟩ := h
  rcases t.number_spec path with ⟨other, hfind, hnumber⟩ | ⟨-, hnumber⟩
  · rw [hnumber]
    refine ⟨?_, hlt, hnone⟩
    rintro rfl
    rw [(hwell.inverse _ _).mp hfind] at hnone
    cases hnone
  · rw [hnumber]
    refine ⟨Nat.ne_of_gt hlt, Nat.lt_succ_of_lt hlt, ?_⟩
    rw [path?_add, if_neg (Nat.ne_of_gt hlt)]
    exact hnone

/-- No call hands out a number that is gone, which stays gone. -/
theorem Gone.perform (h : t.Gone inode) (hwell : t.WellFormed) (call : InodeCall) :
    (t.perform call).1.handsOut? ≠ some inode ∧ (t.perform call).2.Gone inode := by
  cases call with
  | number path | lookup path =>
    obtain ⟨hne, hgone⟩ := h.number hwell path
    exact ⟨fun heq => hne (Option.some.inj heq), hgone⟩
  | forget asked count =>
    refine ⟨(Option.some_ne_none inode).symm, ?_, ?_⟩
    · rw [InodeTable.perform, next_forget]
      exact h.1
    · rw [InodeTable.perform, path?_forget, h.2, ite_self]

/-- **A number that is gone** is not handed out again. -/
theorem Settles.handsOut?_ne_of_gone {past : List InodeEvent} (h : t.Settles past) (hgone : t.Gone inode)
    (later : List InodeCall) : ∀ e ∈ t.history later, e.handsOut? ≠ some inode := by
  induction later generalizing t past with
  | nil => exact fun e he => absurd he List.not_mem_nil
  | cons call rest ih =>
    obtain ⟨hne, hgone'⟩ := hgone.perform h.wellFormed call
    intro e he
    rcases List.mem_cons.mp he with rfl | hrest
    · exact hne
    · exact ih (h.perform call) hgone' e hrest

/-- **A number is evicted once it is forgotten.** After every run of calls on a new table the maps agree
(`WellFormed`) and fit 64 bits if there were fewer than `2 ^ 64 - 2` calls (`Within`). A call evicts a number
exactly if it takes look-ups of it back, the number is not the root's, and what was taken back since its
first look-up reaches the look-ups answered for it with this call and not before; `forget` answers `true`
exactly if it evicts; and an evicted number is never handed out again. -/
theorem evicted_once_forgotten (calls : List InodeCall) :
    let t := initial.after calls
    let past := initial.history calls
    t.WellFormed ∧ t.Within calls.length ∧
      (∀ call inode, t.Evicts call inode ↔ ∃ count, call = .forget inode count ∧ inode ≠ rootInode ∧
        forgottenSince inode past < lookupsOf inode past ∧
        lookupsOf inode past ≤ forgottenSince inode past + count) ∧
      (∀ inode count, (t.forget inode count).1 = true ↔ t.Evicts (.forget inode count) inode) ∧
      ∀ call inode, t.Evicts call inode →
        ∀ later, ∀ e ∈ (t.perform call).2.history later, e.handsOut? ≠ some inode := by
  intro t past
  have hsettles : t.Settles past := settles_after calls
  refine ⟨hsettles.wellFormed, within_after calls, ?_, ?_, ?_⟩
  · intro call inode
    rw [hsettles.wellFormed.evicts_iff_forget]
    simp only [hsettles.forget_true_iff]
  · intro inode count
    rw [hsettles.wellFormed.evicts_iff_forget]
    constructor
    · intro htrue
      exact ⟨count, rfl, htrue⟩
    · rintro ⟨_, hcall, htrue⟩
      cases hcall
      exact htrue
  · rintro call inode ⟨hsome, hnone⟩ later
    obtain ⟨path, hpath⟩ := Option.isSome_iff_exists.mp hsome
    have hlt : inode < (t.perform call).2.next :=
      Nat.lt_of_lt_of_le (hsettles.wellFormed.below inode path hpath) (t.next_le_perform call)
    exact (hsettles.perform call).handsOut?_ne_of_gone ⟨hlt, hnone⟩ later

end InodeTable

end MediaCatalog
