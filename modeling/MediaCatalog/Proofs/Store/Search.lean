import MediaCatalog.Proofs.Query.Clauses
import MediaCatalog.Proofs.Query.Grouping
import MediaCatalog.Proofs.Store.Narrowing

/-!
# Ordered and grouped searches

A search gives the matching entries in the order of its query, or the first of each group in that order, and a page is
a window of what it gives. All matching entries are found unless a clause looks for a start that holds a NUL; then the
database finds none.

* `Table.matching`, `Query.NulFree`: the stored entries that satisfy a query; no clause looks for a start with a NUL.
* **What is found** (`Table.filter_candidates_of_nulFree`, `Table.filter_candidates_of_not_nulFree`): all of them, or none.
* `Store.pages`: the first pages of a search (`Store.flatten_pages`).
* **Main results** (`Store.search_arranged`, `Store.search_first_of_groups`).
-/

namespace MediaCatalog

/-! ## What is found -/

/-- No clause looks for a start that holds a NUL. -/
def Query.NulFree (q : Query) : Prop := ∀ c ∈ q.clauses, c.test.NulFree

/-- Entries in ascending key order are determined by their members. -/
theorem Query.KeyOrdered.ext {l l' : List Entry} (hl : KeyOrdered l) (hl' : KeyOrdered l') (h : ∀ e, e ∈ l ↔ e ∈ l') :
    l = l' := by
  have hnodup : ∀ {m : List Entry}, KeyOrdered m → m.Nodup := by
    intro m hm
    refine hm.imp ?_
    rintro a b hab rfl
    exact String.lt_irrefl _ hab
  have hperm : l.Perm l' := (List.perm_ext_iff_of_nodup (hnodup hl) (hnodup hl')).mpr h
  exact hperm.eq_of_pairwise (fun _ _ _ _ hab hba => absurd (String.lt_trans hab hba) (String.lt_irrefl _)) hl hl'

namespace Table

/-- The stored entries that satisfy a query. -/
def matching (t : Table) (q : Query) : List Entry := t.entries.filter q.holds

/-- The candidates of a search stand in ascending key order. -/
theorem candidates_keyOrdered (t : Table) (clauses : List Query.Clause) : Query.KeyOrdered (t.candidates clauses) :=
  (t.restrict (t.keptKeys clauses).contains).entries_ascending

/-- The matching candidates are the matching entries, if no clause looks for a start with a NUL. -/
theorem mem_filter_candidates_iff {t : Table} {q : Query} {e : Entry} :
    e ∈ (t.candidates q.clauses).filter q.holds ↔ e ∈ t.matching q ∧ q.NulFree := by
  rw [matching, List.mem_filter, List.mem_filter, mem_candidates_iff, and_right_comm]
  refine and_congr_right fun hmatch => forall₂_congr fun c hc => ?_
  have hholds : c.holds (t.entryFor e.key) = true := by
    rw [← (mem_entries_iff.mp hmatch.1).1]
    exact List.all_eq_true.mp hmatch.2 c hc
  exact Query.Clause.keeps_iff_of_holds hholds

/-- Without a NUL in a start, all matching entries are found. -/
theorem filter_candidates_of_nulFree {t : Table} {q : Query} (h : q.NulFree) :
    (t.candidates q.clauses).filter q.holds = t.matching q :=
  Query.KeyOrdered.ext ((t.candidates_keyOrdered q.clauses).filter _) (t.entries_ascending.filter _) fun _ =>
    mem_filter_candidates_iff.trans (and_iff_left h)

/-- With a NUL in a start, nothing is found. -/
theorem filter_candidates_of_not_nulFree {t : Table} {q : Query} (h : ¬q.NulFree) :
    (t.candidates q.clauses).filter q.holds = [] :=
  List.eq_nil_iff_forall_not_mem.mpr fun _ he => h (mem_filter_candidates_iff.mp he).2

end Table

namespace Store

/-- An open store answers every search. -/
theorem search_eq {s : Store} (h : s.isOpen = true) (q : Query) (group : Option String) :
    s.search q group = .ok (q.select (group.map Query.Target.ofName) (s.table.candidates q.clauses)) := by
  have hopen : s.demandOpen = .ok () := by
    rw [demandOpen, h]
    rfl
  rw [search, hopen]
  rfl

/-! ## Pages -/

/-- The first pages of a search, with `n` results each. -/
def pages (s : Store) (q : Query) (group : Option String) (n count : Nat) : Except StoreError (List (List Entry)) :=
  (List.range count).mapM fun k => s.search (q.onPage n k) group

/-- **Pages** one after the other are the results, once there are enough of them. -/
theorem flatten_pages {s : Store} (h : s.isOpen = true) (q : Query) {group : Option String} {results : List Entry}
    (hresults : s.search q.unpaged group = .ok results) {n count : Nat} (hcount : results.length ≤ count * n) :
    (s.pages q group n count).map List.flatten = .ok results := by
  rw [search_eq h, Except.ok.injEq] at hresults
  have hpage : (fun k => s.search (q.onPage n k) group) =
      fun k => pure (Query.Page.cut (some ⟨n, k * n⟩) results) := by
    funext k
    rw [search_eq h, Query.select_eq_cut, ← hresults]
    rfl
  rw [pages, hpage, List.mapM_pure]
  have hflatten := Query.flatten_pages results n count
  rw [List.take_of_length_le hcount] at hflatten
  exact congrArg Except.ok hflatten

/-! ## Ordered searches -/

/-- Without a page and a group, a search gives the matching candidates in the order of the query. -/
theorem search_unpaged {s : Store} (h : s.isOpen = true) (q : Query) :
    s.search q.unpaged none = .ok (q.arrange ((s.table.candidates q.clauses).filter q.holds)) :=
  search_eq h q.unpaged none

/-- It gives the one arrangement of the matching candidates in the order of the query. -/
theorem search_eq_of_perm {s : Store} (h : s.isOpen = true) (q : Query) {l : List Entry}
    (hperm : l.Perm ((s.table.candidates q.clauses).filter q.holds)) (hl : l.Pairwise q.Precedes) :
    s.search q.unpaged none = .ok l := by
  have harranged := q.arrange_pairwise ((s.table.candidates_keyOrdered q.clauses).filter q.holds)
  rw [search_unpaged h, q.eq_of_perm_of_pairwise (hperm.trans (q.arrange_perm _).symm) hl harranged]

/-- The arranged candidates are a permutation of the matching entries just if these are found, or if there are none. -/
theorem arrange_candidates_perm_iff (t : Table) (q : Query) :
    (q.arrange ((t.candidates q.clauses).filter q.holds)).Perm (t.matching q) ↔ q.NulFree ∨ t.matching q = [] := by
  constructor
  · intro hperm
    by_cases hnul : q.NulFree
    · exact .inl hnul
    · rw [Table.filter_candidates_of_not_nulFree hnul] at hperm
      exact .inr (((q.arrange_perm []).symm.trans hperm).nil_eq).symm
  · rintro (hnul | hnone)
    · rw [Table.filter_candidates_of_nulFree hnul]
      exact q.arrange_perm _
    · have hempty : (t.candidates q.clauses).filter q.holds = [] :=
        List.eq_nil_iff_forall_not_mem.mpr fun e he => by
          have hmatch := (Table.mem_filter_candidates_iff.mp he).1
          rw [hnone] at hmatch
          cases hmatch
      rw [hempty, hnone]
      exact q.arrange_perm []

/-- **Ordered searches.** With an ordering, a search gives what it gives without one, arranged by value and, where the
values tie, by key; there is only one such arrangement, and by the keys it is no other than without an ordering. Its
pages of one size make it up again. All matching entries are found unless there are some and a clause looks for a start
with a NUL. -/
theorem search_arranged (s : Store) (h : s.isOpen = true) (clauses : List Query.Clause) (o : Query.Arrangement) :
    let q : Query := ⟨clauses, some o, none⟩
    ∃ found unordered, s.search q none = .ok found ∧ s.search (Query.ofClauses clauses) none = .ok unordered ∧
      found.Perm unordered ∧ found.Pairwise o.Before ∧
      (∀ l : List Entry, l.Perm unordered → l.Pairwise o.Before → l = found) ∧
      (o = ⟨.key, .textAscending⟩ → found = unordered) ∧
      (∀ n count, found.length ≤ count * n → (s.pages q none n count).map List.flatten = .ok found) ∧
      (found.Perm (s.table.matching q) ↔ q.NulFree ∨ s.table.matching q = []) := by
  intro q
  have hfound : s.search q none = .ok _ := search_unpaged h q
  have hunordered : s.search (Query.ofClauses clauses) none = .ok _ := search_unpaged h (Query.ofClauses clauses)
  have hcandidates := (s.table.candidates_keyOrdered clauses).filter q.holds
  have hbefore := q.arrange_pairwise hcandidates
  refine ⟨_, _, hfound, hunordered, q.arrange_perm _, hbefore, ?_, ?_, ?_, arrange_candidates_perm_iff _ q⟩
  · intro l hl hlbefore
    have hl' : s.search q none = .ok l := search_eq_of_perm h q hl hlbefore
    exact Except.ok.inj (hl'.symm.trans hfound)
  · rintro rfl
    exact Query.Arrangement.mergeSort_key hcandidates
  · intro n count hcount
    exact flatten_pages h q hfound hcount

/-- Two episodes tie as numbers and are left in the order of their keys. -/
theorem search_arranged_of_episodes :
    let first := (Entry.blank ⟨"file:1"⟩).insert "episode" "1"
    let second := (Entry.blank ⟨"file:2"⟩).insert "episode" " 02"
    let third := (Entry.blank ⟨"file:3"⟩).insert "episode" "1.0"
    let s := ofTable (((Table.empty.write third).write second).write first)
    let clauses : List Query.Clause := [⟨.key, .beginsWith "file:", "pkey.BeginsWith(file:)"⟩]
    s.isOpen = true ∧
      s.search ⟨clauses, some ⟨.field "episode", .numberDescending⟩, none⟩ none = .ok [second, first, third] := by
  intro first second third s clauses
  obtain ⟨found, unordered, hfound, hunordered, -, -, hunique, -⟩ :=
    search_arranged s rfl clauses ⟨.field "episode", .numberDescending⟩
  have hstored : s.search (Query.ofClauses clauses) none = .ok [first, second, third] := by decide +kernel
  rw [hstored, Except.ok.injEq] at hunordered
  rw [hfound, hunique [second, first, third] (hunordered ▸ List.Perm.swap first second [third]) (by decide +kernel)]
  exact ⟨rfl, rfl⟩

/-- **A start with a NUL** is not found by the database: the entry that matches is missing. -/
theorem not_perm_matching_of_nul :
    let e := (Entry.blank ⟨"k"⟩).insert "a" "x\x00y"
    let s := ofTable (Table.empty.write e)
    let q : Query := ⟨(Query.ofText "a.BeginsWith(x\x00)").clauses, some ⟨.field "a", .textAscending⟩, none⟩
    s.isOpen = true ∧ s.search q none = .ok [] ∧ s.table.matching q = [e] := by
  intro e s q
  have hstart : Text.BeginsOutside Text.isSeparator "a.BeginsWith(x\x00)".toList := Text.beginsOutside_cons (by decide)
  have hread : Query.RawClause.read? "a.BeginsWith(x\x00)".toList =
      some (⟨['a'], "BeginsWith".toList, ['x', '\x00']⟩, []) := by decide
  have hclauses : (Query.ofText "a.BeginsWith(x\x00)").clauses =
      [⟨.field "a", .beginsWith "x\x00", "a.BeginsWith(x\x00)"⟩] := by
    rw [Query.ofText, Query.outcomes_of_read? hstart hread, Query.outcomes_eq]
    rfl
  have hq : q = ⟨[⟨.field "a", .beginsWith "x\x00", "a.BeginsWith(x\x00)"⟩], some ⟨.field "a", .textAscending⟩, none⟩ :=
    congrArg (fun clauses => Query.mk clauses _ _) hclauses
  rw [hq]
  exact ⟨rfl, by decide +kernel, by decide +kernel⟩

/-! ## Grouped searches -/

/-- **Grouped searches.** Grouped by a field, a search gives those of its results, in their order, that stand before all
others with the same value of the field, by the order of the query; so each value among the results is that of just one
of them. A page is a window of the grouped results, and the pages of one size make them up again. -/
theorem search_first_of_groups (s : Store) (h : s.isOpen = true) (clauses : List Query.Clause)
    (order : Option Query.Arrangement) (group : String) :
    let q : Query := ⟨clauses, order, none⟩
    ∃ found grouped, s.search q none = .ok found ∧ s.search q (some group) = .ok grouped ∧
      found.Pairwise q.Precedes ∧ grouped.Sublist found ∧
      (∀ e, e ∈ grouped ↔ ∃ v, Query.FirstWith q.Precedes (fun e => e.keyOrField? group) found v e) ∧
      (∀ v, (∃ e ∈ found, e.keyOrField? group = some v) → ∃! e, e ∈ grouped ∧ e.keyOrField? group = some v) ∧
      (∀ limit skip, s.search { q with page := some ⟨limit, skip⟩ } (some group) =
        .ok ((grouped.drop skip).take limit)) ∧
      ∀ n count, grouped.length ≤ count * n → (s.pages q (some group) n count).map List.flatten = .ok grouped := by
  intro q
  have hfound : s.search q none = .ok _ := search_unpaged h q
  have hgrouped : s.search q (some group) = .ok _ := search_eq h q (some group)
  have hfield : (fun e : Entry => e.keyOrField? group) = fun e => (Query.Target.ofName group).get? e :=
    funext fun e => (Query.Target.get?_ofName e group).symm
  have hbefore := q.arrange_pairwise ((s.table.candidates_keyOrdered clauses).filter q.holds)
  refine ⟨_, _, hfound, hgrouped, hbefore, ?_, ?_, ?_, ?_, ?_⟩
  · exact Query.firstPerValue_sublist _ _ _
  · intro e
    rw [hfield]
    exact Query.mem_firstPerValue_iff Query.Precedes.asymm hbefore
  · rintro v ⟨e, he, hget⟩
    rw [← Query.Target.get?_ofName] at hget
    have hunique := Query.existsUnique_mem_firstPerValue Query.Precedes.asymm hbefore he hget
    simp only [Query.Target.get?_ofName] at hunique
    exact hunique
  · intro limit skip
    exact search_eq h _ _
  · intro n count hcount
    exact flatten_pages h q hgrouped hcount

/-- The first of two episodes that tie stands for their group; the latest episode has none. -/
theorem search_first_of_groups_of_episodes :
    let first := ((Entry.blank ⟨"file:1"⟩).insert "episode" "1").insert "by" "Fans"
    let second := ((Entry.blank ⟨"file:2"⟩).insert "episode" " 02").insert "by" "Subs"
    let third := ((Entry.blank ⟨"file:3"⟩).insert "episode" "1.0").insert "by" "Fans"
    let latest := (Entry.blank ⟨"file:4"⟩).insert "episode" "inf"
    let s := ofTable ((((Table.empty.write first).write second).write third).write latest)
    let q : Query := ⟨[], some ⟨.field "episode", .numberDescending⟩, none⟩
    s.isOpen = true ∧ ∃ grouped, s.search q (some "by") = .ok grouped ∧ grouped.Sublist [latest, second, first, third] ∧
      second ∈ grouped ∧ first ∈ grouped ∧ third ∉ grouped ∧ latest ∉ grouped := by
  intro first second third latest s q
  obtain ⟨found, grouped, hfound, hgrouped, -, hsub, hfirst, -⟩ :=
    search_first_of_groups s rfl [] (some ⟨.field "episode", .numberDescending⟩) "by"
  have harranged : s.search q none = .ok [latest, second, first, third] :=
    search_eq_of_perm rfl q (by decide +kernel) (by decide +kernel)
  rw [hfound, Except.ok.injEq] at harranged
  subst harranged
  refine ⟨rfl, grouped, hgrouped, hsub, ?_, ?_, ?_, ?_⟩
  · exact (hfirst second).mpr ⟨"Subs", by decide, by decide +kernel, by decide +kernel⟩
  · exact (hfirst first).mpr ⟨"Fans", by decide, by decide +kernel, by decide +kernel⟩
  · intro hmem
    obtain ⟨v, hv⟩ := (hfirst third).mp hmem
    have hvalue : v = "Fans" := Option.some.inj (hv.value.symm.trans (by decide +kernel))
    subst hvalue
    rcases hv.first first (by decide) (by decide +kernel) with h | h
    · exact absurd h (by decide)
    · exact absurd h (by decide +kernel)
  · intro hmem
    obtain ⟨v, hv⟩ := (hfirst latest).mp hmem
    have hnone : latest.keyOrField? "by" = none := by decide +kernel
    cases hnone.symm.trans hv.value

end Store

end MediaCatalog
