import Mathlib.Data.List.TakeWhile
import MediaCatalog.Proofs.Store.Table
import MediaCatalog.Store.Basic

/-!
# Narrowing loses no match

A search first leaves out, in the database, keys that no clause can want, and then tests the
entries of the other keys in memory. This file says that the first step is invisible, apart from
the database's way with NUL characters.

* **Common starts** (`Query.startsInDatabase_iff`): the database finds exactly the texts that start
  with the argument, and none if the argument holds a NUL.
* **One clause** (`Query.Clause.keeps_iff_of_holds`): the database keeps the key of an entry that
  satisfies the clause, unless the clause looks for a start that holds a NUL.
* **Candidates** (`Table.mem_candidates_iff`): the candidates are the stored entries whose key
  every clause keeps, complete and in ascending key order.
* **Main result** (`Store.search_iff_matches`): a search without ordering and page finds exactly
  the stored entries that match.
-/

namespace MediaCatalog

namespace Query

/-! ## The database's test for a common start -/

/-- Without a NUL the whole text is visible. -/
theorem visible_eq_toList {text : String} (h : '\x00' ∉ text.toList) : visible text = text.toList := by
  refine List.takeWhile_eq_self_iff.mpr fun c hc => ?_
  have hne : c ≠ '\x00' := fun heq => h (heq ▸ hc)
  simpa using hne

/-- A text that is visible as a whole has no NUL. -/
theorem nul_not_mem_of_length_visible {text : String} (h : (visible text).length = text.toList.length) :
    '\x00' ∉ text.toList := by
  have hprefix : visible text <+: text.toList := List.takeWhile_prefix _
  rw [← hprefix.eq_of_length h]
  intro hmem
  have := List.mem_takeWhile_imp hmem
  simp at this

/-- **Common starts in the database.** The test is that for a common start, and fails for every
argument with a NUL. -/
theorem startsInDatabase_iff {argument text : String} :
    startsInDatabase argument text = true ↔ '\x00' ∉ argument.toList ∧ argument.toList <+: text.toList := by
  rw [startsInDatabase, beq_iff_eq]
  constructor
  · intro h
    -- as many characters as are visible of the argument already make up all of it
    have hlength : argument.toList.length ≤ (visible argument).length := by
      rw [← h, List.length_take]
      exact Nat.min_le_left _ _
    have hle : (visible argument).length ≤ argument.toList.length :=
      (List.takeWhile_prefix _).length_le
    refine ⟨nul_not_mem_of_length_visible (Nat.le_antisymm hle hlength), ?_⟩
    rw [← h]
    exact (List.take_prefix _ _).trans (List.takeWhile_prefix _)
  · rintro ⟨hnul, rest, hrest⟩
    have hpos : ∀ c ∈ argument.toList, (decide (c ≠ '\x00')) = true := by
      intro c hc
      have hne : c ≠ '\x00' := fun heq => hnul (heq ▸ hc)
      simpa using hne
    rw [visible_eq_toList hnul, visible, ← hrest, List.takeWhile_append_of_pos hpos, List.take_left]

/-! ## One clause -/

/-- Whether a test is none for a common start that holds a NUL. -/
def Test.NulFree : Test → Prop
  | beginsWith argument => '\x00' ∉ argument.toList
  | _ => True

/-- A text that passes a test in memory passes the database's part of it exactly if the test is
free of NUL. -/
theorem Test.admits_iff_of_holds {test : Test} {text : String} (h : test.holds text = true) :
    test.admits text = true ↔ test.NulFree := by
  cases test with
  | equals argument => exact iff_of_true h trivial
  | beginsWith argument =>
    have hprefix : argument.toList <+: text.toList := List.isPrefixOf_iff_prefix.mp h
    exact startsInDatabase_iff.trans (and_iff_left hprefix)
  | _ => exact iff_of_true rfl trivial

/-- What the database keeps for a clause: the keys whose stored target passes its part of the
test. -/
theorem Clause.keeps_iff {c : Clause} {t : Table} {key : Key} :
    c.keeps t.rows key.text = true ↔
      ∃ text, c.target.get? (t.entryFor key) = some text ∧ c.test.admits text = true := by
  unfold Clause.keeps
  cases c.target with
  | key => simp [Target.get?, Table.entryFor]
  | field name =>
    simp only [Target.get?, List.any_eq_true, Bool.and_eq_true, beq_iff_eq]
    constructor
    · rintro ⟨r, hr, ⟨hk, rfl⟩, hadmits⟩
      refine ⟨r.value, Table.get?_fieldsOf.mpr ?_, hadmits⟩
      rw [← hk]
      exact hr
    · rintro ⟨text, hget, hadmits⟩
      exact ⟨_, Table.get?_fieldsOf.mp hget, ⟨rfl, rfl⟩, hadmits⟩

/-- **One clause loses no match.** The database keeps the key of a stored entry that satisfies the
clause exactly if the clause is free of NUL. -/
theorem Clause.keeps_iff_of_holds {c : Clause} {t : Table} {key : Key}
    (h : c.holds (t.entryFor key) = true) : c.keeps t.rows key.text = true ↔ c.test.NulFree := by
  obtain ⟨text, hget, hholds⟩ : ∃ text, c.target.get? (t.entryFor key) = some text ∧ c.test.holds text = true := by
    unfold Clause.holds at h
    exact (Option.any_eq_true _ _).mp h
  rw [Clause.keeps_iff, ← Test.admits_iff_of_holds hholds]
  constructor
  · rintro ⟨text', hget', hadmits⟩
    rw [hget] at hget'
    cases hget'
    exact hadmits
  · intro hadmits
    exact ⟨text, hget, hadmits⟩

end Query

/-! ## All clauses -/

namespace Table

/-- The table with the rows of some keys only. -/
def restrict (t : Table) (p : String → Bool) : Table :=
  ⟨t.rows.filter fun r => p r.key, t.ascending.filter _⟩

/-- A restricted table has the fields of the keys that are left. -/
theorem fieldsOf_restrict (t : Table) (p : String → Bool) (key : Key) :
    (t.restrict p).fieldsOf key = if p key.text then t.fieldsOf key else Dict.empty := by
  apply Dict.ext
  intro field
  apply Option.ext
  intro value
  rw [get?_fieldsOf]
  have hmem : (⟨key.text, field, value⟩ : Row) ∈ (t.restrict p).rows ↔ _ := List.mem_filter
  rw [hmem]
  by_cases hp : p key.text = true
  · simp [hp, get?_fieldsOf]
  · simp [hp]

/-- The entries of a restricted table are those whose key is left. -/
theorem mem_entries_restrict_iff {t : Table} {p : String → Bool} {e : Entry} :
    e ∈ (t.restrict p).entries ↔ e ∈ t.entries ∧ p e.key.text = true := by
  rw [mem_entries_iff, mem_entries_iff, entryFor, entryFor, fieldsOf_restrict]
  by_cases hp : p e.key.text = true
  · rw [if_pos hp]
    exact (and_iff_left hp).symm
  · rw [if_neg hp]
    constructor
    · -- nothing is left of the entry's fields
      rintro ⟨heq, hblank⟩
      rw [heq] at hblank
      cases hblank
    · rintro ⟨-, hp'⟩
      exact absurd hp' hp

/-- A key of the table is kept exactly if every clause keeps it. -/
theorem mem_keptKeys_iff {t : Table} {clauses : List Query.Clause} {key : String} :
    key ∈ t.keptKeys clauses ↔ (∃ r ∈ t.rows, r.key = key) ∧ ∀ c ∈ clauses, c.keeps t.rows key = true := by
  simp only [keptKeys, List.mem_map, List.mem_filter, List.all_eq_true]
  constructor
  · rintro ⟨r, ⟨hr, hkeeps⟩, rfl⟩
    exact ⟨⟨r, hr, rfl⟩, hkeeps⟩
  · rintro ⟨⟨r, hr, rfl⟩, hkeeps⟩
    exact ⟨r, ⟨hr, hkeeps⟩, rfl⟩

/-- The candidates of a search are the entries of a restricted table. -/
theorem candidates_eq_entries (t : Table) (clauses : List Query.Clause) :
    t.candidates clauses = (t.restrict (t.keptKeys clauses).contains).entries :=
  rfl

/-- **Candidates.** The stored entries whose key every clause keeps. -/
theorem mem_candidates_iff {t : Table} {clauses : List Query.Clause} {e : Entry} :
    e ∈ t.candidates clauses ↔ e ∈ t.entries ∧ ∀ c ∈ clauses, c.keeps t.rows e.key.text = true := by
  rw [candidates_eq_entries, mem_entries_restrict_iff, List.contains_iff_mem, mem_keptKeys_iff]
  constructor
  · rintro ⟨he, -, hkeeps⟩
    exact ⟨he, hkeeps⟩
  · rintro ⟨he, hkeeps⟩
    have hcollected := Rows.collected_collect t.ascending
    exact ⟨he, hcollected.exists_row e he, hkeeps⟩

end Table

namespace Store

/-- Without an ordering and a page the candidates that match are the result. -/
theorem search_eq_filter {s : Store} (h : s.isOpen = true) {q : Query} (horder : q.order = none)
    (hpage : q.page = none) : s.search q none = .ok ((s.table.candidates q.clauses).filter q.holds) := by
  have hopen : s.demandOpen = .ok () := by
    rw [demandOpen, h]
    rfl
  rw [search, hopen]
  simp only [Query.select, Query.arrange, Query.Page.cut, horder, hpage, Option.map_none]
  rfl

/-- **Narrowing agrees with a full scan.** A search without ordering and page finds, in ascending
key order and each once, the stored entries with all their fields that match, and finds nothing if
a clause looks for a start that holds a NUL. No clause alone makes the database leave out an entry
that satisfies it, except for such a start. -/
theorem search_iff_matches (s : Store) (h : s.isOpen = true) (q : Query) (horder : q.order = none)
    (hpage : q.page = none) :
    ∃ found, s.search q none = .ok found ∧
      found.Pairwise (fun a b => a.key.text < b.key.text) ∧
      (∀ e, e ∈ found ↔
        (e = s.table.entryFor e.key ∧ e.isBlank = false) ∧ q.holds e = true ∧
          ∀ c ∈ q.clauses, c.test.NulFree) ∧
      ∀ c ∈ q.clauses, ∀ e ∈ s.table.entries, c.holds e = true →
        (e ∈ s.table.candidates [c] ↔ c.test.NulFree) := by
  refine ⟨_, search_eq_filter h horder hpage, ?_, ?_, ?_⟩
  · exact (Table.entries_ascending (s.table.restrict _)).filter _
  · intro e
    rw [List.mem_filter, Table.mem_candidates_iff, Table.mem_entries_iff, and_assoc]
    refine and_congr_right fun hstored => ?_
    rw [and_comm]
    refine and_congr_right fun hholds => forall₂_congr fun c hc => ?_
    have hclause : c.holds (s.table.entryFor e.key) = true := by
      rw [← hstored.1]
      exact List.all_eq_true.mp hholds c hc
    exact Query.Clause.keeps_iff_of_holds hclause
  · intro c _ e he hholds
    have hstored := Table.mem_entries_iff.mp he
    rw [hstored.1] at hholds
    rw [Table.mem_candidates_iff, and_iff_right he, List.forall_mem_singleton,
      Query.Clause.keeps_iff_of_holds hholds]

/-- An entry that two clauses narrow to is found. -/
theorem search_iff_matches_of_two_clauses :
    let e := (Entry.blank ⟨"file:1"⟩).insert "title" "Show"
    let s := ofTable (Table.empty.write e)
    let q := Query.ofClauses [⟨.key, .beginsWith "file:", ""⟩, ⟨.field "title", .equals "Show", ""⟩]
    s.isOpen = true ∧ q.order = none ∧ q.page = none ∧ ∃ found, s.search q none = .ok found ∧ e ∈ found := by
  intro e s q
  obtain ⟨found, hsearch, -, hfound, -⟩ := search_iff_matches s rfl q rfl rfl
  refine ⟨rfl, rfl, rfl, found, hsearch,
    (hfound e).mpr ⟨⟨by decide +kernel, by decide +kernel⟩, by decide +kernel, ?_⟩⟩
  intro c hc
  rcases List.mem_cons.mp hc with rfl | hc
  · exact (by decide : '\x00' ∉ "file:".toList)
  · rcases List.mem_cons.mp hc with rfl | hc
    · trivial
    · cases hc

end Store

end MediaCatalog
