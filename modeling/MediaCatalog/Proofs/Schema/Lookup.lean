import MediaCatalog.Proofs.Query.Clauses
import MediaCatalog.Proofs.Schema.QueryTemplate

/-!
# Looking entries up by a value

A level usually finds its entries by a value of the entry above it, with a clause
`field.Equals($prev[n].source)`. The value is put into the text of the query, which is then read
like any other. This file says for which values the clause that is read tests for just that value.

* `LookupTemplate`: a list of clauses of which one is such a lookup.
* `QueryPart.fill_comparison`: a comparison with a reference, filled in.
* **Filling in** (`LookupTemplate.substitute_template`): the value stands in place of the reference.
* `LookupTemplate.ReadsLiterally`: the lookup tests for the value, and the other clauses are as written.
* **Main result** (`LookupTemplate.readsLiterally_iff_balanced`): a value is read literally exactly if it
  is balanced; otherwise the lookup tests for a part of it or is rejected.
-/

namespace MediaCatalog

open Query

/-- **A comparison with a reference**, filled in, is one with the value that is referred to. -/
theorem QueryPart.fill_comparison {chain : List Entry} {field : List Char} {r : Backref} (hfield : Text.isIdent field = true)
    (hr : r.WellFormed) (rest : List Char) :
    fill chain ((⟨field, Operator.equals.name.toList, '$' :: r.body⟩ : RawClause).source ++ rest) =
      (⟨field, Operator.equals.name.toList, ((r.value? chain).getD "").toList⟩ : RawClause).source ++ fill chain rest := by
  have hident : '$' ∉ field := fun hmem => absurd ((Text.isIdent_iff.mp hfield).2 _ hmem) (by decide)
  have hhead : '$' ∉ field ++ '.' :: (Operator.equals.name.toList ++ ['(']) := by
    simp only [List.mem_append, not_or]
    exact ⟨hident, by decide⟩
  have hread : Backref.read? (r.body ++ ')' :: rest) = some (r, ')' :: rest) :=
    Backref.read?_eq_some_iff.mpr ⟨rfl, hr, Text.beginsOutside_cons (by decide)⟩
  have hsource : ∀ argument rest, (⟨field, Operator.equals.name.toList, argument⟩ : RawClause).source ++ rest =
      (field ++ '.' :: (Operator.equals.name.toList ++ ['('])) ++ (argument ++ ')' :: rest) := by
    intro argument rest
    simp [RawClause.source_append]
  have hparen : fill chain (')' :: rest) = ')' :: fill chain rest := fill_literal fun heq => absurd heq (by decide)
  rw [hsource, hsource, fill_append hhead, List.cons_append, fill_backref hread, hparen]

/-- A query template that is a list of well-formed clauses, one of which compares a field with a value
of an entry resolved before, while the others have no references. -/
structure LookupTemplate where
  before : List Item
  /-- The separators in front of the lookup. -/
  gap : List Char
  /-- The field that is compared. -/
  field : List Char
  /-- The value with which it is compared. -/
  reference : Backref
  after : List Item
  /-- The separators at the end. -/
  trail : List Char
  gap_separates : ∀ c ∈ gap, Text.isSeparator c = true
  trail_separates : ∀ c ∈ trail, Text.isSeparator c = true
  field_isIdent : Text.isIdent field = true
  field_ne_key : String.ofList field ≠ Entry.keyField
  reference_wellFormed : reference.WellFormed
  reference_name : reference.name = Backref.chainName
  reference_field_ne_key : String.ofList reference.field ≠ Entry.keyField
  plain : ∀ i ∈ before ++ after, QueryPart.IsPlain i.clause.source

namespace LookupTemplate

/-- The lookup with a text in place of the reference. -/
def lookup (t : LookupTemplate) (argument : List Char) : RawClause :=
  ⟨t.field, Operator.equals.name.toList, argument⟩

/-- What stands after the lookup. -/
def rest (t : LookupTemplate) : List Char := t.after.flatMap Item.text ++ t.trail

/-- The whole text with another text in place of the reference. -/
def textWith (t : LookupTemplate) (argument : List Char) : List Char :=
  t.before.flatMap Item.text ++ (t.gap ++ ((t.lookup argument).source ++ t.rest))

/-- The template itself. -/
def template (t : LookupTemplate) : QueryTemplate := ⟨String.ofList (t.textWith ('$' :: t.reference.body))⟩

/-! ## Filling in -/

/-- Separators are not part of a reference. -/
theorem dollar_not_mem {gap : List Char} (h : ∀ c ∈ gap, Text.isSeparator c = true) : '$' ∉ gap := by
  intro hmem
  exact absurd (h _ hmem) (by decide)

/-- Clauses without references stay. -/
theorem fill_items {chain : List Entry} {items : List Item}
    (h : ∀ i ∈ items, QueryPart.IsPlain i.clause.source) (rest : List Char) :
    QueryPart.fill chain (items.flatMap Item.text ++ rest) =
      items.flatMap Item.text ++ QueryPart.fill chain rest := by
  induction items with
  | nil => rfl
  | cons i items ih =>
    obtain ⟨s, hs⟩ : ∃ s, i.clause.source = s ++ [')'] :=
      ⟨i.clause.field ++ '.' :: (i.clause.operator ++ '(' :: i.clause.argument), by simp [RawClause.source]⟩
    have hplain := h i List.mem_cons_self
    have hrest := ih fun j hj => h j (List.mem_cons_of_mem i hj)
    rw [hs] at hplain
    simp only [List.flatMap_cons, Item.text, hs, List.append_assoc, List.cons_append, List.nil_append]
    rw [QueryPart.fill_append (dollar_not_mem i.separates), QueryPart.fill_append_paren hplain, hrest]

/-- What the reference refers to. -/
theorem value?_reference (t : LookupTemplate) {older newer : List Entry} {e : Entry} {v : String}
    (hn : t.reference.index = newer.length + 1) (hv : e.get? (String.ofList t.reference.field) = some v) :
    t.reference.value? (older ++ e :: newer) = some v := by
  rw [Backref.value?_append t.reference_name hn]
  exact (if_neg t.reference_field_ne_key).trans hv

/-- **Filling in** puts the value in place of the reference. -/
theorem substitute_template (t : LookupTemplate) {older newer : List Entry} {e : Entry} {v : String}
    (hn : t.reference.index = newer.length + 1) (hv : e.get? (String.ofList t.reference.field) = some v) :
    t.template.substitute (older ++ e :: newer) = String.ofList (t.textWith v.toList) := by
  have hbefore : ∀ i ∈ t.before, QueryPart.IsPlain i.clause.source :=
    fun i hi => t.plain i (List.mem_append_left _ hi)
  have hafter : ∀ i ∈ t.after, QueryPart.IsPlain i.clause.source :=
    fun i hi => t.plain i (List.mem_append_right _ hi)
  have htrail : QueryPart.fill (older ++ e :: newer) t.trail = t.trail := by
    rw [← List.append_nil t.trail, QueryPart.fill_append (dollar_not_mem t.trail_separates), QueryPart.fill,
      QueryPart.scan, List.flatMap_nil]
  have hrest : QueryPart.fill (older ++ e :: newer) t.rest = t.rest := by
    rw [rest, fill_items hafter, htrail]
  have hlookup : QueryPart.fill (older ++ e :: newer) ((t.lookup ('$' :: t.reference.body)).source ++ t.rest) =
      (t.lookup v.toList).source ++ t.rest := by
    rw [lookup, QueryPart.fill_comparison t.field_isIdent t.reference_wellFormed, value?_reference t hn hv, hrest]
    rfl
  have htext : QueryPart.fill (older ++ e :: newer) (t.textWith ('$' :: t.reference.body)) =
      t.textWith v.toList := by
    rw [textWith, textWith, fill_items hbefore, QueryPart.fill_append (dollar_not_mem t.gap_separates), hlookup]
  have hlist : (String.ofList (t.textWith ('$' :: t.reference.body))).toList =
      t.textWith ('$' :: t.reference.body) := String.toList_ofList
  show String.ofList (QueryPart.fill _ (String.ofList _).toList) = _
  rw [hlist, htext]

/-! ## Reading back -/

/-- A text is read as the clauses of the template with a lookup that is satisfied by just the entries
with the value. -/
def ReadsLiterally (t : LookupTemplate) (text v : String) : Prop :=
  ∃ clause, outcomes text.toList = t.before.map Item.outcome ++ .ok clause :: t.after.map Item.outcome ∧
    (Query.ofText text).clauses =
      accepted (t.before.map Item.outcome) ++ clause :: accepted (t.after.map Item.outcome) ∧
    clause.target = .field (String.ofList t.field) ∧
    ∀ e : Entry, clause.holds e = true ↔ e.get? (String.ofList t.field) = some v

/-- What stands before the lookup is read first. -/
theorem outcomes_textWith (t : LookupTemplate) (argument : List Char) :
    outcomes (t.textWith argument) =
      t.before.map Item.outcome ++ outcomes ((t.lookup argument).source ++ t.rest) := by
  rw [textWith, outcomes_items, outcomes_append_of_separators t.gap_separates]

/-- What stands after the lookup is read as it was written. -/
theorem outcomes_rest (t : LookupTemplate) : outcomes t.rest = t.after.map Item.outcome := by
  rw [rest, outcomes_items, outcomes_separators t.trail_separates, List.append_nil]

/-- What stands after the lookup leaves no parenthesis open. -/
theorem balance_rest (t : LookupTemplate) (depth : Nat) : balance depth t.rest = some depth := by
  rw [rest, balance_append (balance_items t.after depth), balance_of_separators t.trail_separates]

/-- The lookup with a text tests for the text. -/
theorem compile_lookup (t : LookupTemplate) (argument : List Char) :
    (t.lookup argument).compile =
      .ok ⟨.field (String.ofList t.field), .equals (String.ofList argument),
        String.ofList (t.lookup argument).source⟩ :=
  RawClause.compile_equals t.field_ne_key

/-- The lookup with a text is read as the lookup with the argument that is found there. -/
theorem read?_lookup (t : LookupTemplate) (v : List Char) :
    RawClause.read? ((t.lookup v).source ++ t.rest) =
      (argument? 0 (v ++ ')' :: t.rest)).map fun (argument, after) => (t.lookup argument, after) := by
  have hoperator : Text.isIdent Operator.equals.name.toList = true := by decide
  rw [RawClause.source_append]
  exact RawClause.read?_of_isIdent t.field_isIdent hoperator _

/-- The lookup begins with its field. -/
theorem beginsOutside_lookup (t : LookupTemplate) (v : List Char) :
    Text.BeginsOutside Text.isSeparator ((t.lookup v).source ++ t.rest) := by
  rw [RawClause.source_append]
  exact beginsOutside_append t.field_isIdent _

/-- The clause that is read in place of the lookup comes first. -/
theorem outcomes_lookup (t : LookupTemplate) {v argument after : List Char}
    (h : argument? 0 (v ++ ')' :: t.rest) = some (argument, after)) :
    outcomes ((t.lookup v).source ++ t.rest) = (t.lookup argument).compile :: outcomes after := by
  apply outcomes_of_read? (t.beginsOutside_lookup v)
  rw [read?_lookup, h]
  rfl

/-- Without an argument the lookup is rejected. -/
theorem outcomes_lookup_of_none (t : LookupTemplate) {v : List Char}
    (h : argument? 0 (v ++ ')' :: t.rest) = none) :
    ∃ what after, outcomes ((t.lookup v).source ++ t.rest) = .error (.unparsable what) :: after := by
  have hbegin := t.beginsOutside_lookup v
  have hread : RawClause.read? ((t.lookup v).source ++ t.rest) = none := by
    rw [read?_lookup, h]
    rfl
  cases hs : (t.lookup v).source ++ t.rest with
  | nil => simp [RawClause.source_append] at hs
  | cons c s =>
    rw [hs] at hread hbegin
    exact ⟨_, _, outcomes_of_read?_eq_none (hbegin c rfl) hread⟩

/-- An equality clause on a field is satisfied by just the entries with its argument. -/
theorem holds_equals_iff {field argument source : String} {e : Entry} :
    Clause.holds ⟨.field field, .equals argument, source⟩ e = true ↔ e.get? field = some argument := by
  simp only [Clause.holds, Target.get?, Test.holds, Option.any_eq_true, beq_iff_eq]
  constructor
  · rintro ⟨text, hget, rfl⟩
    exact hget
  · intro hget
    exact ⟨argument, hget, rfl⟩

/-- A balanced value is read literally. -/
theorem readsLiterally_of_balanced (t : LookupTemplate) {text v : String}
    (htext : text.toList = t.textWith v.toList) (hv : Balanced v.toList) : t.ReadsLiterally text v := by
  have houtcomes : outcomes text.toList =
      t.before.map Item.outcome ++ (t.lookup v.toList).compile :: t.after.map Item.outcome := by
    rw [htext, outcomes_textWith, outcomes_lookup t (argument?_append_paren hv t.rest), outcomes_rest]
  rw [compile_lookup, String.ofList_toList] at houtcomes
  refine ⟨_, houtcomes, ?_, rfl, fun e => holds_equals_iff⟩
  rw [Query.ofText, houtcomes]
  simp [Query.ofClauses, accepted, Except.toOption]

/-- **A value that is not balanced** is not read literally: the lookup is rejected, or it tests for the
part before a parenthesis that the value closes without having opened it. -/
theorem outcome_of_not_balanced (t : LookupTemplate) {text v : String}
    (htext : text.toList = t.textWith v.toList) (hv : ¬Balanced v.toList) :
    (∃ what, (outcomes text.toList)[t.before.length]? = some (.error (.unparsable what))) ∨
      ∃ part rest source, v = part ++ ")" ++ rest ∧ (outcomes text.toList)[t.before.length]? =
        some (.ok ⟨.field (String.ofList t.field), .equals part, source⟩) := by
  have hposition : ∀ o os, outcomes ((t.lookup v.toList).source ++ t.rest) = o :: os →
      (outcomes text.toList)[t.before.length]? = some o := by
    intro o os ho
    rw [htext, outcomes_textWith, ho]
    simp
  rcases argument?_of_not_balanced hv t.balance_rest with hnone | ⟨a, r, hsplit, hsome⟩
  · obtain ⟨what, after, hout⟩ := t.outcomes_lookup_of_none hnone
    exact .inl ⟨what, hposition _ _ hout⟩
  · right
    have hout := t.outcomes_lookup hsome
    rw [compile_lookup] at hout
    refine ⟨String.ofList a, String.ofList r, _, ?_, hposition _ _ hout⟩
    rw [← String.toList_inj, hsplit]
    simp

/-- A value that is read literally is balanced. -/
theorem balanced_of_readsLiterally (t : LookupTemplate) {text v : String}
    (htext : text.toList = t.textWith v.toList) (h : t.ReadsLiterally text v) : Balanced v.toList := by
  obtain ⟨clause, houtcomes, -, -, hholds⟩ := h
  by_cases hbalanced : Balanced v.toList
  · exact hbalanced
  · have hclause : (outcomes text.toList)[t.before.length]? = some (.ok clause) := by
      rw [houtcomes]
      simp
    rcases t.outcome_of_not_balanced htext hbalanced with ⟨what, herror⟩ | ⟨part, rest, source, hsplit, hok⟩
    · rw [hclause] at herror
      cases herror
    · rw [hclause] at hok
      cases hok
      -- an entry with that part in the field satisfies the clause, but has not the value there
      have hpart : ((Entry.blank ⟨""⟩).insert (String.ofList t.field) part).get? (String.ofList t.field) =
          some part := Dict.get?_insert_self Dict.empty (String.ofList t.field) part
      have hvalue := (hholds _).mp (holds_equals_iff.mpr hpart)
      rw [hpart, Option.some.injEq] at hvalue
      rw [← hvalue] at hsplit
      have hlength := congrArg String.length hsplit
      have hparen : ")".length = 1 := rfl
      simp only [String.length_append] at hlength
      omega

/-- **Looking entries up by a value.** Once the value of an entry resolved before is put in place of the
reference, the lookup tests for just that value and the other clauses are read as they were written,
exactly if the value is balanced. Otherwise the lookup is rejected, or it tests for the part of the value
before a parenthesis that the value closes without having opened it. -/
theorem readsLiterally_iff_balanced (t : LookupTemplate) (older newer : List Entry) (x : Entry) (v : String)
    (hn : t.reference.index = newer.length + 1) (hv : x.get? (String.ofList t.reference.field) = some v) :
    let text := t.template.substitute (older ++ x :: newer)
    (t.ReadsLiterally text v ↔ Balanced v.toList) ∧
      (¬Balanced v.toList →
        (∃ what, (outcomes text.toList)[t.before.length]? = some (.error (.unparsable what))) ∨
          ∃ part rest source, v = part ++ ")" ++ rest ∧ (outcomes text.toList)[t.before.length]? =
            some (.ok ⟨.field (String.ofList t.field), .equals part, source⟩)) := by
  intro text
  have htext : text.toList = t.textWith v.toList := by
    rw [show text = String.ofList (t.textWith v.toList) from t.substitute_template hn hv, String.toList_ofList]
  exact ⟨⟨t.balanced_of_readsLiterally htext, t.readsLiterally_of_balanced htext⟩, t.outcome_of_not_balanced htext⟩

/-- The level below a series: `kind.Equals(episode), series.Equals($prev[1].title)`. -/
def episodes : LookupTemplate where
  before := [⟨[], ⟨"kind".toList, "Equals".toList, "episode".toList⟩, List.all_eq_true.mp rfl, by decide,
    by decide, by decide⟩]
  gap := [',', ' ']
  field := "series".toList
  reference := ⟨Backref.chainName, ['1'], "title".toList⟩
  after := []
  trail := []
  gap_separates := List.all_eq_true.mp (by decide)
  trail_separates := List.all_eq_true.mp rfl
  field_isIdent := by decide
  field_ne_key := by decide +kernel
  reference_wellFormed := ⟨by decide, by decide, List.all_eq_true.mp (by decide), by decide⟩
  reference_name := rfl
  reference_field_ne_key := by decide +kernel
  plain := by
    intro i hi
    cases List.mem_singleton.mp hi
    exact QueryPart.isPlain_of_not_mem (by decide)

/-- The episodes of a series with parentheses in its title. -/
theorem readsLiterally_title :
    let series := (Entry.blank ⟨"set:1"⟩).insert "title" "Pilot (pt. 2)"
    episodes.reference.index = ([] : List Entry).length + 1 ∧
      series.get? (String.ofList episodes.reference.field) = some "Pilot (pt. 2)" ∧
      episodes.ReadsLiterally (episodes.template.substitute ([] ++ [series])) "Pilot (pt. 2)" := by
  intro series
  have hindex : episodes.reference.index = ([] : List Entry).length + 1 := by decide +kernel
  have htitle : series.get? (String.ofList episodes.reference.field) = some "Pilot (pt. 2)" := by decide +kernel
  exact ⟨hindex, htitle, (readsLiterally_iff_balanced episodes [] [] series _ hindex htitle).1.mpr (by decide)⟩

/-- A series whose title closes a parenthesis that it does not open: the text that comes out looks for
another title. -/
theorem not_readsLiterally_title :
    let series := (Entry.blank ⟨"set:1"⟩).insert "title" "Pilot)"
    let text := episodes.template.substitute [series]
    series.get? "title" = some "Pilot)" ∧ text = "kind.Equals(episode), series.Equals(Pilot))" ∧
      ¬episodes.ReadsLiterally text "Pilot)" := by
  intro series text
  have htext : text = "kind.Equals(episode), series.Equals(Pilot))" := by decide +kernel
  have hlist : text.toList = episodes.textWith "Pilot)".toList := by
    rw [htext]
    decide +kernel
  refine ⟨by decide +kernel, htext, fun h => ?_⟩
  exact absurd (episodes.balanced_of_readsLiterally hlist h) (by decide)

end LookupTemplate

end MediaCatalog
