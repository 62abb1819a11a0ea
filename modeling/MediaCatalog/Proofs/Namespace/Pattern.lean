import Mathlib.Data.List.Find
import Mathlib.Data.List.Perm.Basic
import MediaCatalog.Namespace.Resolution
import MediaCatalog.Proofs.Query.Written
import MediaCatalog.Proofs.Namespace.Resolution
import MediaCatalog.Proofs.Schema.Lookup
import MediaCatalog.Proofs.Store.Narrowing

/-!
# Levels that look for a pattern

The query of a level often says how the keys of the entries begin and which values they have, and nothing
else. Once its references are filled in, such a level finds just the entries that fit, one for each group
if it is grouped.

* `EntryPattern`: how a key begins, and values of fields; `EntryPattern.fits`, `EntryPattern.text`.
* `EntryPattern.outcomes_text`: the text of a pattern is read as the test for the pattern.
* `PatternTemplate`: a pattern with references for values; `PatternTemplate.fill_text`.
* `Query.find?_firstPerValue`: the first result of a kind, where grouping does not tear kinds apart.
* **Main results** (`Level.next?_of_pattern`, `Level.next?_of_grouped`): what continues a chain.
-/

namespace MediaCatalog

/-! ## Searching all entries -/

/-- Without starts that hold a NUL, the database leaves out nothing that matches. -/
theorem Table.filter_candidates (t : Table) {q : Query} (h : ∀ c ∈ q.clauses, c.test.NulFree) :
    (t.candidates q.clauses).filter q.holds = t.entries.filter q.holds := by
  have hasc : ∀ u : Table, (u.entries.filter q.holds).Pairwise fun a b => a.key.text < b.key.text :=
    fun u => (entries_ascending u).filter _
  have hcandidates := hasc (t.restrict (t.keptKeys q.clauses).contains)
  rw [← candidates_eq_entries] at hcandidates
  have hnodup : ∀ {l : List Entry}, l.Pairwise (fun a b => a.key.text < b.key.text) → l.Nodup := by
    intro l hl
    refine hl.imp ?_
    rintro a b hlt rfl
    exact String.lt_irrefl _ hlt
  apply List.Perm.eq_of_pairwise _ hcandidates (hasc t)
  · apply (List.perm_ext_iff_of_nodup (hnodup hcandidates) (hnodup (hasc t))).mpr
    intro e
    rw [List.mem_filter, List.mem_filter, mem_candidates_iff, and_assoc]
    refine and_congr_right fun he => and_iff_right_of_imp ?_
    intro hholds c hc
    have hstored := (mem_entries_iff.mp he).1
    have hclause := List.all_eq_true.mp hholds c hc
    rw [hstored] at hclause
    exact (Query.Clause.keeps_iff_of_holds hclause).mpr (h c hc)
  · intro a b _ _ hab hba
    exact absurd (String.lt_trans hab hba) (String.lt_irrefl _)

namespace Query

/-- A text in which every clause is accepted is compiled to its clauses, strictly or not. -/
theorem compile_of_outcomes {text : String} {clauses : List Clause} (h : outcomes text.toList = clauses.map .ok)
    (strict : Bool) : compile strict text = .ok (ofClauses clauses) := by
  cases strict with
  | false => simp [compile, ofText, h, accepted, List.filterMap_map, Function.comp_def, Except.toOption]
  | true =>
    have hall : ∀ clauses : List Clause,
        (clauses.map fun c => (.ok c : Except Rejection Clause)).mapM id = .ok clauses := by
      intro clauses
      induction clauses with
      | nil => rfl
      | cons c clauses ih => simp [List.mapM_cons, ih, bind, Except.bind, pure, Except.pure]
    simp [compile, ofTextStrict, h, hall, Except.map]

/-- **Grouping** shows the first entry of each group. Where entries of one group are all of a kind or none
of them is, the first one of the kind is the first one that has a group. -/
theorem find?_firstPerValue {target : Target} {p : Entry → Bool} {l : List Entry} (seen : List String)
    (h : ∀ a ∈ l, ∀ b ∈ l, ∀ v, target.get? a = some v → target.get? b = some v → p a = p b) :
    (firstPerValue target seen l).find? p =
      l.find? fun e => (target.get? e).any (fun v => !seen.contains v) && p e := by
  induction l generalizing seen with
  | nil => rfl
  | cons e rest ih =>
    have hrest := fun seen => ih seen fun a ha b hb => h a (List.mem_cons_of_mem e ha) b (List.mem_cons_of_mem e hb)
    unfold firstPerValue
    cases hvalue : target.get? e with
    | none => simp [hvalue, hrest]
    | some v =>
      by_cases hseen : v ∈ seen
      · simp [hvalue, hseen, hrest]
      · cases hp : p e with
        | true => simp [hvalue, hseen, hp]
        | false =>
          simp only [List.contains_eq_mem, hseen, decide_false, Bool.false_eq_true, if_false]
          rw [List.find?_cons_of_neg (by simp [hp]), List.find?_cons_of_neg (by simp [hp]), hrest]
          -- the group of the first entry has no entry of the kind at all
          apply List.find?_congr
          intro x hx
          cases hx' : target.get? x with
          | none => rfl
          | some w =>
            by_cases hw : w = v
            · subst hw
              have hsame := h e List.mem_cons_self x (List.mem_cons_of_mem e hx) w hvalue hx'
              simp [← hsame, hp]
            · simp [hw]

end Query

/-! ## Patterns -/

/-- How the key of an entry begins, and values of its fields. -/
structure EntryPattern where
  start : String
  values : List (String × String)

namespace EntryPattern

open Query

/-- Whether an entry has such a key and these values. -/
def fits (p : EntryPattern) (e : Entry) : Bool :=
  p.start.toList.isPrefixOf e.key.text.toList && p.values.all fun (field, value) => e.get? field == some value

/-- The clause on the key. -/
def keyClause (p : EntryPattern) : RawClause :=
  ⟨Entry.keyField.toList, Operator.beginsWith.name.toList, p.start.toList⟩

/-- The clause on a value. -/
def valueClause (value : String × String) : RawClause :=
  ⟨value.1.toList, Operator.equals.name.toList, value.2.toList⟩

/-- The pattern as the text of a query. -/
def text (p : EntryPattern) : List Char :=
  p.keyClause.source ++ p.values.flatMap fun value => ',' :: ' ' :: (valueClause value).source

/-- A pattern whose text is read as it is meant. -/
structure Readable (p : EntryPattern) : Prop where
  start : Balanced p.start.toList
  nulFree : '\x00' ∉ p.start.toList
  fields : ∀ value ∈ p.values, Text.isIdent value.1.toList = true ∧ value.1 ≠ Entry.keyField
  values : ∀ value ∈ p.values, Balanced value.2.toList

/-- The clauses of a pattern. -/
def clauses (p : EntryPattern) : List Clause :=
  ⟨.key, .beginsWith p.start, String.ofList p.keyClause.source⟩ :: p.values.map fun value =>
    ⟨.field value.1, .equals value.2, String.ofList (valueClause value).source⟩

variable {p : EntryPattern}

/-- The clause on the key is compiled to a test of the key. -/
theorem compile_keyClause (p : EntryPattern) :
    p.keyClause.compile = .ok ⟨.key, .beginsWith p.start, String.ofList p.keyClause.source⟩ := by
  simp only [RawClause.compile, keyClause, String.ofList_toList, Operator.ofName?_name, Test.ofArgument?, Target.ofName,
    if_true]

/-- The clause on a value is compiled to a test for the value. -/
theorem compile_valueClause {field value : String} (h : field ≠ Entry.keyField) :
    (valueClause (field, value)).compile =
      .ok ⟨.field field, .equals value, String.ofList (valueClause (field, value)).source⟩ := by
  have hfield : String.ofList field.toList ≠ Entry.keyField := by rwa [String.ofList_toList]
  have hcompile := @RawClause.compile_equals field.toList value.toList hfield
  simpa [valueClause] using hcompile

/-- **The text of a pattern** is read as its clauses. -/
theorem outcomes_text (h : p.Readable) : outcomes p.text = p.clauses.map .ok := by
  have hequals : Text.isIdent Operator.equals.name.toList = true := by decide
  have hbegins : Text.isIdent Operator.beginsWith.name.toList = true := by decide
  have hkeyField : Text.isIdent Entry.keyField.toList = true := by decide
  have hvalues : ∀ values : List (String × String),
      (∀ value ∈ values, Text.isIdent value.1.toList = true ∧ value.1 ≠ Entry.keyField) →
      (∀ value ∈ values, Balanced value.2.toList) →
      outcomes (values.flatMap fun value => ',' :: ' ' :: (valueClause value).source) =
        values.map fun value => .ok ⟨.field value.1, .equals value.2, String.ofList (valueClause value).source⟩ := by
    intro values hfields hbalanced
    induction values with
    | nil => exact outcomes_separators fun _ hc => absurd hc List.not_mem_nil
    | cons value values ih =>
      have hrest := ih (fun v hv => hfields v (List.mem_cons_of_mem _ hv)) fun v hv => hbalanced v (List.mem_cons_of_mem _ hv)
      obtain ⟨hident, hkey⟩ := hfields value List.mem_cons_self
      have hitem := outcomes_items [⟨[',', ' '], valueClause value, List.all_eq_true.mp rfl,
        hident, hequals, hbalanced value List.mem_cons_self⟩]
        (values.flatMap fun value => ',' :: ' ' :: (valueClause value).source)
      rw [hrest] at hitem
      simpa [Item.text, Item.outcome, compile_valueClause hkey] using hitem
  have hkey := outcomes_items [⟨[], p.keyClause, List.all_eq_true.mp rfl, hkeyField, hbegins, h.start⟩]
    (p.values.flatMap fun value => ',' :: ' ' :: (valueClause value).source)
  rw [hvalues p.values h.fields h.values] at hkey
  simpa [text, clauses, Item.text, Item.outcome, compile_keyClause, Function.comp_def] using hkey

/-- The clauses of a pattern test for it. -/
theorem holds_eq_fits (p : EntryPattern) (order : Option Arrangement) (page : Option Page) :
    Query.holds ⟨p.clauses, order, page⟩ = p.fits := by
  funext e
  have hvalue : ∀ value : String × String,
      Clause.holds ⟨.field value.1, .equals value.2, String.ofList (valueClause value).source⟩ e =
        (e.get? value.1 == some value.2) := by
    intro value
    rw [Bool.eq_iff_iff, beq_iff_eq]
    exact LookupTemplate.holds_equals_iff
  have hkey : Clause.holds ⟨.key, .beginsWith p.start, String.ofList p.keyClause.source⟩ e =
      p.start.toList.isPrefixOf e.key.text.toList := rfl
  simp only [Query.holds, clauses, fits, List.all_cons, List.all_map, Function.comp_def, hvalue, hkey]

/-- No clause of a readable pattern looks for a start that holds a NUL. -/
theorem nulFree_clauses (h : p.Readable) : ∀ c ∈ p.clauses, c.test.NulFree := by
  intro c hc
  rcases List.mem_cons.mp hc with rfl | hmem
  · exact h.nulFree
  · obtain ⟨value, -, rfl⟩ := List.mem_map.mp hmem
    trivial

end EntryPattern

/-! ## Patterns with references -/

/-- How the key of an entry begins, and fields that have the values of entries resolved before. -/
structure PatternTemplate where
  start : String
  references : List (String × Backref)

namespace PatternTemplate

open Query

variable {p : PatternTemplate}

/-- The clause on a value with a reference in its place. -/
def clause (reference : String × Backref) : RawClause :=
  ⟨reference.1.toList, Operator.equals.name.toList, '$' :: reference.2.body⟩

/-- The pattern as the text of a query template. -/
def text (p : PatternTemplate) : List Char :=
  (EntryPattern.keyClause ⟨p.start, []⟩).source ++ p.references.flatMap fun reference =>
    ',' :: ' ' :: (clause reference).source

/-- The pattern after a chain. -/
def pattern (p : PatternTemplate) (chain : List Entry) : EntryPattern :=
  ⟨p.start, p.references.map fun reference => (reference.1, (reference.2.value? chain).getD "")⟩

/-- A pattern whose references are read as they are meant. -/
structure Readable (p : PatternTemplate) : Prop where
  start : '$' ∉ p.start.toList
  fields : ∀ reference ∈ p.references, Text.isIdent reference.1.toList = true
  references : ∀ reference ∈ p.references, reference.2.WellFormed

/-- A pattern whose references are read back from their texts. -/
theorem Readable.of_read? (hstart : '$' ∉ p.start.toList)
    (hreferences : ∀ reference ∈ p.references, Text.isIdent reference.1.toList = true ∧
      Backref.read? (reference.2.body ++ [')']) = some (reference.2, [')'])) : p.Readable where
  start := hstart
  fields reference hreference := (hreferences reference hreference).1
  references reference hreference := (Backref.read?_eq_some_iff.mp (hreferences reference hreference).2).2.1

/-- **Filling in a pattern** puts values in place of the references. -/
theorem fill_text (h : p.Readable) (chain : List Entry) : QueryPart.fill chain p.text = (p.pattern chain).text := by
  have hkey : '$' ∉ (EntryPattern.keyClause ⟨p.start, []⟩).source := by
    have hhead : '$' ∉ Entry.keyField.toList ++ '.' :: (Operator.beginsWith.name.toList ++ ['(']) := by decide
    have hstart := h.start
    simp only [EntryPattern.keyClause, RawClause.source, List.mem_append, List.mem_cons, not_or] at hhead ⊢
    grind
  have hreferences : ∀ references : List (String × Backref),
      (∀ reference ∈ references, Text.isIdent reference.1.toList = true) →
      (∀ reference ∈ references, reference.2.WellFormed) →
      QueryPart.fill chain (references.flatMap fun reference => ',' :: ' ' :: (clause reference).source) =
        (references.map fun reference => (reference.1, (reference.2.value? chain).getD "")).flatMap fun value =>
          ',' :: ' ' :: (EntryPattern.valueClause value).source := by
    intro references hfields hwellFormed
    induction references with
    | nil =>
      rw [List.flatMap_nil, QueryPart.fill, QueryPart.scan]
      rfl
    | cons reference references ih =>
      have hrest := ih (fun r hr => hfields r (List.mem_cons_of_mem _ hr)) fun r hr => hwellFormed r (List.mem_cons_of_mem _ hr)
      have hclause := @QueryPart.fill_comparison chain reference.1.toList reference.2 (hfields _ List.mem_cons_self)
        (hwellFormed _ List.mem_cons_self)
      have hgap := @QueryPart.fill_append chain [',', ' '] (by decide)
      rw [List.flatMap_cons, List.map_cons, List.flatMap_cons, ← hrest]
      simpa [clause, hclause, EntryPattern.valueClause] using hgap ((clause reference).source ++ _)
  rw [text, QueryPart.fill_append hkey, hreferences p.references h.fields h.references]
  rfl

end PatternTemplate

/-! ## Levels -/

namespace Level

variable {level : Level} {store : Store} {strict : Bool} {chain : List Entry} {p : EntryPattern}

/-- A level whose query is that of a pattern looks for the pattern after the chain. -/
theorem substitute_of_text {template : PatternTemplate} (htemplate : template.Readable)
    (htext : level.query.source.toList = template.text) (chain : List Entry) :
    (level.query.substitute chain).toList = (template.pattern chain).text := by
  rw [← PatternTemplate.fill_text htemplate chain, ← htext]
  exact String.toList_ofList

/-- **A level that looks for a pattern** selects from the entries that fit. -/
theorem found_of_pattern (hopen : store.isOpen = true) (hp : p.Readable)
    (htext : (level.query.substitute chain).toList = p.text) :
    level.found store strict chain = .ok (Query.select ⟨p.clauses, level.order, level.page⟩
      (level.group.map Query.Target.ofName) store.table.entries) := by
  have houtcomes : Query.outcomes (level.query.substitute chain).toList = p.clauses.map .ok := by
    rw [htext]
    exact EntryPattern.outcomes_text hp
  have hdemand : store.demandOpen = .ok () := by
    rw [Store.demandOpen, hopen]
    rfl
  have hcandidates := store.table.filter_candidates (q := ⟨p.clauses, level.order, level.page⟩) (EntryPattern.nulFree_clauses hp)
  unfold found Store.compile Store.search
  simp only [Query.compile_of_outcomes houtcomes, hdemand, Query.ofClauses, Query.select]
  simp [bind, Except.bind, pure, Except.pure, Except.mapError, hcandidates]

section found

variable (hopen : store.isOpen = true) (hp : p.Readable) (htext : (level.query.substitute chain).toList = p.text)
  (horder : level.order = none) (hpage : level.page = none)
include hopen hp htext horder hpage

/-- **A chain is continued** by the first entry that fits and has the label. -/
theorem next?_of_pattern (hgroup : level.group = none) (segment : String) :
    level.next? store strict chain segment =
      .ok (store.table.entries.find? fun e => p.fits e && decide (e.label level.label = segment)) := by
  unfold next?
  rw [found_of_pattern hopen hp htext]
  simp only [Query.select, Query.arrange, Query.Page.cut, horder, hpage, hgroup, Option.map_none, p.holds_eq_fits]
  simp [bind, Except.bind, pure, Except.pure, List.find?_filter]

/-- **Below a grouped level** a chain is continued by the first entry that fits, belongs to a group and has
the label, if all entries of a group have the same label. -/
theorem next?_of_grouped {field : String} (hgroup : level.group = some field) (hfield : field ≠ Entry.keyField)
    (hlabels : ∀ a ∈ store.table.entries, ∀ b ∈ store.table.entries, p.fits a = true → p.fits b = true →
      ∀ v, a.get? field = some v → b.get? field = some v → a.label level.label = b.label level.label)
    (segment : String) :
    level.next? store strict chain segment = .ok (store.table.entries.find? fun e =>
      p.fits e && ((e.get? field).isSome && decide (e.label level.label = segment))) := by
  have htarget : Query.Target.ofName field = .field field := if_neg hfield
  unfold next?
  rw [found_of_pattern hopen hp htext]
  simp only [Query.select, Query.arrange, Query.Page.cut, horder, hpage, hgroup, Option.map_some, p.holds_eq_fits, htarget]
  simp only [bind, Except.bind, pure, Except.pure]
  rw [Query.find?_firstPerValue, List.find?_filter]
  · simp [Query.Target.get?, Option.any_true]
  · intro a ha b hb v hva hvb
    obtain ⟨ha, hfa⟩ := List.mem_filter.mp ha
    obtain ⟨hb, hfb⟩ := List.mem_filter.mp hb
    rw [hlabels a ha b hb hfa hfb v hva hvb]

end found

end Level

end MediaCatalog
