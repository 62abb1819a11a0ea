import Mathlib.Data.List.TakeWhile
import MediaCatalog.Proofs.Query.Written

/-!
# The grammar of condition texts

The documented grammar puts at least one blank or comma between two clauses. A strict reader accepts every text of
this grammar, and besides texts in which two clauses touch, as in `a.Equals(1)b.Equals(2)`.

* `Argument`: arguments by their shape; they are the texts with balanced parentheses (`argument_iff_balanced`).
* `RawClause.Valid`: a clause with a known operator and, where a pattern is asked for, a pattern.
* `Derives`: lists of clauses with given gaps between them; `Documented`, `Touches`.
* **Main result** (`ofTextStrict_ok_iff`): which texts a strict reader accepts.
-/

namespace MediaCatalog.Query

/-! ## Arguments by their shape -/

/-- An argument: ordinary characters, characters hidden by a backslash, and arguments in parentheses. -/
inductive Argument : List Char → Prop
  | nil : Argument []
  | ordinary {c : Char} {rest : List Char} (hslash : c ≠ '\\') (hopen : c ≠ '(') (hclose : c ≠ ')')
      (hrest : Argument rest) : Argument (c :: rest)
  | hidden (c : Char) {rest : List Char} (hrest : Argument rest) : Argument ('\\' :: c :: rest)
  | nested {inner rest : List Char} (hinner : Argument inner) (hrest : Argument rest) :
      Argument ('(' :: (inner ++ ')' :: rest))

/-- An argument is balanced. -/
theorem Argument.balanced {s : List Char} (h : Argument s) : Balanced s := by
  unfold Balanced
  induction h with
  | nil => rfl
  | ordinary hslash hopen hclose _ ih => rw [balance_cons hslash hopen hclose, ih]
  | hidden c _ ih => rw [balance, ih]
  | nested _ _ ihinner ihrest => rw [balance, balance_append (balance_add ihinner 1), balance, ihrest]

/-- Inside a parenthesis, a text goes on to the one that closes it. -/
theorem exists_of_balance_succ {depth : Nat} {s : List Char} (h : balance (depth + 1) s = some 0) :
    ∃ inner rest, s = inner ++ ')' :: rest ∧ Balanced inner ∧ balance depth rest = some 0 := by
  cases hzero : balance 0 s with
  | some left =>
    have hadd := balance_add hzero (depth + 1)
    rw [Nat.zero_add, h, Option.some.injEq] at hadd
    omega
  | none =>
    rcases of_balance_eq_none hzero with ⟨inner, rest, rfl, hinner⟩ | ⟨u, left, rfl, hu⟩
    · have hadd := balance_add hinner (depth + 1)
      rw [Nat.zero_add] at hadd
      rw [balance_append hadd] at h
      exact ⟨inner, rest, rfl, hinner, h⟩
    · have hadd := balance_add hu (depth + 1)
      rw [Nat.zero_add] at hadd
      rw [balance_append hadd] at h
      cases h

/-- A balanced text is an argument. -/
theorem Balanced.argument {s : List Char} (h : Balanced s) : Argument s := by
  -- by length: the argument inside a pair of parentheses is no tail of the text
  induction hlength : s.length using Nat.strongRecOn generalizing s with
  | ind n ih =>
    subst hlength
    cases s with
    | nil => exact .nil
    | cons c rest =>
      by_cases hslash : c = '\\'
      · subst hslash
        cases rest with
        | nil => cases h
        | cons d rest =>
          have hshorter : rest.length < ('\\' :: d :: rest).length := by
            simp only [List.length_cons]
            omega
          exact .hidden d (ih rest.length hshorter h rfl)
      · by_cases hopen : c = '('
        · subst hopen
          obtain ⟨inner, after, rfl, hinner, hafter⟩ := exists_of_balance_succ h
          have hshorter : inner.length < ('(' :: (inner ++ ')' :: after)).length ∧
              after.length < ('(' :: (inner ++ ')' :: after)).length := by
            simp only [List.length_cons, List.length_append]
            omega
          exact .nested (ih inner.length hshorter.1 hinner rfl) (ih after.length hshorter.2 hafter rfl)
        · by_cases hclose : c = ')'
          · subst hclose
            cases h
          · unfold Balanced at h
            rw [balance_cons hslash hopen hclose] at h
            exact .ordinary hslash hopen hclose (ih rest.length (by simp) h rfl)

/-- **Arguments are the balanced texts.** -/
theorem argument_iff_balanced {s : List Char} : Argument s ↔ Balanced s :=
  ⟨Argument.balanced, Balanced.argument⟩

/-! ## Clauses -/

namespace RawClause

/-- A clause of the grammar: two identifiers, the second of which names an operator, and an argument, which is a
pattern if the operator asks for one. -/
structure Valid (c : RawClause) : Prop where
  field : Text.isIdent c.field = true
  operator : ∃ op : Operator, op.name = String.ofList c.operator ∧
    (op = .regexp → Regex.ofText? (String.ofList c.argument) ≠ none)
  argument : Argument c.argument

/-- The name of an operator is an identifier. -/
theorem isIdent_of_name {op : Operator} {name : List Char} (h : op.name = String.ofList name) :
    Text.isIdent name = true := by
  have hname : op.name.toList = name := by rw [h, String.toList_ofList]
  rw [← hname]
  cases op <;> decide

/-- The clauses of the grammar are those that are read and compiled. -/
theorem valid_iff {c : RawClause} : c.Valid ↔ c.WellFormed ∧ ∃ clause, c.compile = .ok clause := by
  constructor
  · rintro ⟨hfield, ⟨op, hname, hpattern⟩, hargument⟩
    refine ⟨⟨hfield, isIdent_of_name hname, hargument.balanced⟩, ?_⟩
    cases htest : Test.ofArgument? op (String.ofList c.argument) with
    | none =>
      obtain ⟨hop, hnone⟩ := Test.ofArgument?_eq_none_iff.mp htest
      exact absurd hnone (hpattern hop)
    | some test => exact ⟨_, means_iff.mp (.test op test hname htest)⟩
  · rintro ⟨hformed, clause, hclause⟩
    refine ⟨hformed.field, ?_, hformed.argument.argument⟩
    cases means_iff.mpr hclause with
    | test op test hname htest =>
      refine ⟨op, hname, fun hop hnone => ?_⟩
      rw [Test.ofArgument?_eq_none_iff.mpr ⟨hop, hnone⟩] at htest
      cases htest

/-- The text of a valid clause begins with no separator. -/
theorem Valid.beginsOutside {c : RawClause} (h : c.Valid) (rest : List Char) :
    Text.BeginsOutside Text.isSeparator (c.source ++ rest) := by
  rw [source_append]
  exact beginsOutside_append h.field _

/-- The first outcome of a text that begins with a valid clause. -/
theorem Valid.outcomes_append {c : RawClause} (h : c.Valid) (rest : List Char) :
    ∃ clause, outcomes (c.source ++ rest) = .ok clause :: outcomes rest := by
  obtain ⟨hformed, clause, hclause⟩ := valid_iff.mp h
  refine ⟨clause, ?_⟩
  rw [← hclause]
  exact outcomes_of_read? (h.beginsOutside rest) (read?_eq_some_iff.mpr ⟨rfl, hformed⟩)

end RawClause

/-! ## Lists of clauses -/

/-- A text of blanks and commas. -/
def Separators (gap : List Char) : Prop := ∀ c ∈ gap, Text.isSeparator c = true

/-- Clauses one after the other, with texts of some kind between them. -/
inductive Derives (between : List Char → Prop) : List Char → Prop
  | one {c : RawClause} (hc : c.Valid) : Derives between c.source
  | more {c : RawClause} {gap rest : List Char} (hc : c.Valid) (hgap : between gap) (hrest : Derives between rest) :
      Derives between (c.source ++ (gap ++ rest))

/-- Clauses two of which have nothing between them. -/
inductive Touches : List Char → Prop
  | here {c : RawClause} {rest : List Char} (hc : c.Valid) (hrest : Derives Separators rest) :
      Touches (c.source ++ rest)
  | later {c : RawClause} {gap rest : List Char} (hc : c.Valid) (hgap : Separators gap) (hrest : Touches rest) :
      Touches (c.source ++ (gap ++ rest))

/-- A text without the separators at its two ends. -/
def trimmed (s : List Char) : List Char :=
  ((s.dropWhile Text.isSeparator).reverse.dropWhile Text.isSeparator).reverse

/-- A text of the documented grammar, up to separators at its ends: no clauses, or clauses with at least one separator
between any two of them. -/
def Documented (s : List Char) : Prop :=
  trimmed s = [] ∨ Derives (fun gap => Separators gap ∧ gap ≠ []) (trimmed s)

section Derives

variable {between : List Char → Prop} {s : List Char}

/-- A list of clauses begins with an identifier. -/
theorem Derives.beginsOutside (h : Derives between s) (rest : List Char) :
    Text.BeginsOutside Text.isSeparator (s ++ rest) := by
  cases h with
  | one hc => exact hc.beginsOutside rest
  | more hc hgap hrest =>
    rw [List.append_assoc]
    exact hc.beginsOutside _

/-- A list of clauses ends in a parenthesis. -/
theorem Derives.exists_append_paren (h : Derives between s) : ∃ init, s = init ++ [')'] := by
  induction h with
  | @one c hc => exact ⟨c.field ++ '.' :: (c.operator ++ '(' :: c.argument), by simp [RawClause.source]⟩
  | @more c gap rest hc hgap hrest ih =>
    obtain ⟨init, hinit⟩ := ih
    exact ⟨c.source ++ (gap ++ init), by simp [hinit]⟩

/-- A list of clauses is not empty. -/
theorem Derives.ne_nil (h : Derives between s) : s ≠ [] := by
  obtain ⟨init, rfl⟩ := h.exists_append_paren
  exact List.append_ne_nil_of_right_ne_nil init (List.cons_ne_nil _ _)

/-- A list of clauses with certain texts between them is one with any others besides. -/
theorem Derives.mono {between' : List Char → Prop} (hbetween : ∀ gap, between gap → between' gap)
    (h : Derives between s) : Derives between' s := by
  induction h with
  | one hc => exact .one hc
  | more hc hgap hrest ih => exact .more hc (hbetween _ hgap) ih

/-- Clauses that touch are a list of clauses. -/
theorem Touches.derives (h : Touches s) : Derives Separators s := by
  induction h with
  | here hc hrest =>
    have hempty : Separators [] := List.forall_mem_nil _
    exact .more hc hempty hrest
  | later hc hgap hrest ih => exact .more hc hgap ih

/-- **Between two clauses** of a list there is always a separator, or two of them touch. -/
theorem derives_separators_iff :
    Derives Separators s ↔ Derives (fun gap => Separators gap ∧ gap ≠ []) s ∨ Touches s := by
  constructor
  · intro h
    induction h with
    | one hc => exact .inl (.one hc)
    | @more c gap rest hc hgap hrest ih =>
      cases gap with
      | nil => exact .inr (.here hc hrest)
      | cons d gap =>
        exact ih.imp (fun hrest => .more hc ⟨hgap, List.cons_ne_nil d gap⟩ hrest) (fun hrest => .later hc hgap hrest)
  · rintro (h | h)
    · exact h.mono fun gap hgap => hgap.1
    · exact h.derives

end Derives

/-- A text begins with one valid clause at most. -/
theorem RawClause.Valid.eq_of_append {c c' : RawClause} (hc : c.Valid) (hc' : c'.Valid) {rest rest' : List Char}
    (h : c.source ++ rest = c'.source ++ rest') : c = c' ∧ rest = rest' := by
  have hread : RawClause.read? (c.source ++ rest) = some (c, rest) :=
    RawClause.read?_eq_some_iff.mpr ⟨rfl, (valid_iff.mp hc).1⟩
  have hread' : RawClause.read? (c.source ++ rest) = some (c', rest') :=
    RawClause.read?_eq_some_iff.mpr ⟨h, (valid_iff.mp hc').1⟩
  rw [hread, Option.some.injEq, Prod.mk.injEq] at hread'
  exact hread'

/-- Clauses with separators between any two of them do not touch. -/
theorem Derives.not_touches {s : List Char} (h : Derives (fun gap => Separators gap ∧ gap ≠ []) s) : ¬Touches s := by
  induction h with
  | @one c hc =>
    intro htouches
    generalize hs : c.source = s at htouches
    have hs' : c.source ++ [] = s := (List.append_nil _).trans hs
    cases htouches with
    | here hc' hrest' => exact hrest'.ne_nil (hc.eq_of_append hc' hs').2.symm
    | later hc' hgap' hrest' =>
      have hnil := (hc.eq_of_append hc' hs').2
      exact hrest'.derives.ne_nil (List.append_eq_nil_iff.mp hnil.symm).2
  | @more c gap rest hc hgap hrest ih =>
    intro htouches
    generalize hs : c.source ++ (gap ++ rest) = s at htouches
    cases htouches with
    | here hc' hrest' =>
      obtain ⟨-, hsame⟩ := hc.eq_of_append hc' hs
      obtain ⟨hseparators, hne⟩ := hgap
      cases gap with
      | nil => exact hne rfl
      | cons d gap =>
        have hbegins := hrest'.beginsOutside []
        rw [List.append_nil, ← hsame] at hbegins
        have hd := hbegins d rfl
        rw [hseparators d List.mem_cons_self] at hd
        cases hd
    | later hc' hgap' hrest' =>
      obtain ⟨-, hsame⟩ := hc.eq_of_append hc' hs
      have hbegins := hrest.beginsOutside []
      have hbegins' := hrest'.derives.beginsOutside []
      rw [List.append_nil] at hbegins hbegins'
      have hdropped := congrArg (List.dropWhile Text.isSeparator) hsame
      rw [Text.dropWhile_append_of_beginsOutside hgap.1 hbegins,
        Text.dropWhile_append_of_beginsOutside hgap' hbegins'] at hdropped
      exact ih (hdropped ▸ hrest')

/-! ## What is accepted -/

/-- An outcome that is a clause. -/
def Accepted (outcome : Except Rejection Clause) : Prop := ∃ clause, outcome = .ok clause

/-- A text is read strictly exactly if all its outcomes are clauses. -/
theorem exists_ofTextStrict_iff {text : String} :
    (∃ q, ofTextStrict text = .ok q) ↔ ∀ outcome ∈ outcomes text.toList, Accepted outcome := by
  rw [ofTextStrict_eq]
  constructor
  · rintro ⟨q, hq⟩ outcome houtcome
    cases hfirst : firstRejection? text with
    | some rejection =>
      rw [hfirst] at hq
      cases hq
    | none =>
      have hnone := List.findSome?_eq_none_iff.mp hfirst outcome houtcome
      cases outcome with
      | error rejection => cases hnone
      | ok clause => exact ⟨clause, rfl⟩
  · intro h
    have hfirst : firstRejection? text = none := by
      apply List.findSome?_eq_none_iff.mpr
      intro outcome houtcome
      obtain ⟨clause, rfl⟩ := h outcome houtcome
      rfl
    rw [hfirst]
    exact ⟨_, rfl⟩

/-- A list of clauses is accepted. -/
theorem Derives.accepted {s trail : List Char} (h : Derives Separators s) (htrail : Separators trail) :
    ∀ outcome ∈ outcomes (s ++ trail), Accepted outcome := by
  induction h with
  | one hc =>
    obtain ⟨clause, houtcomes⟩ := hc.outcomes_append trail
    rw [houtcomes, outcomes_separators htrail]
    exact List.forall_mem_singleton.mpr ⟨clause, rfl⟩
  | @more c gap rest hc hgap hrest ih =>
    obtain ⟨clause, houtcomes⟩ := hc.outcomes_append (gap ++ (rest ++ trail))
    rw [List.append_assoc, List.append_assoc, houtcomes, outcomes_append_of_separators hgap]
    exact List.forall_mem_cons.mpr ⟨⟨clause, rfl⟩, ih⟩

/-- A text that is accepted is a list of clauses between separators. -/
theorem exists_derives_of_accepted {s : List Char} (h : ∀ outcome ∈ outcomes s, Accepted outcome) :
    ∃ lead core trail, s = lead ++ (core ++ trail) ∧ Separators lead ∧ Separators trail ∧
      (core = [] ∨ Derives Separators core) := by
  fun_induction outcomes s with
  | case1 s hs =>
    have hall : Separators s := List.dropWhile_eq_nil_iff.mp hs
    exact ⟨s, [], [], (List.append_nil s).symm, hall, List.forall_mem_nil _, .inl rfl⟩
  | case2 s d rest hs c after hread ih =>
    obtain ⟨hsource, hformed⟩ := RawClause.read?_eq_some_iff.mp hread
    obtain ⟨hclause, hafter⟩ := List.forall_mem_cons.mp h
    have hvalid : c.Valid := RawClause.valid_iff.mpr ⟨hformed, hclause⟩
    obtain ⟨gap, core, trail, rfl, hgap, htrail, hcore⟩ := ih hafter
    have hlead : Separators (s.takeWhile Text.isSeparator) := List.all_eq_true.mp List.all_takeWhile
    have hs : s = s.takeWhile Text.isSeparator ++ (c.source ++ (gap ++ (core ++ trail))) := by
      rw [← hsource, ← hs, List.takeWhile_append_dropWhile]
    rcases hcore with rfl | hcore
    · exact ⟨_, c.source, gap ++ trail, hs, hlead, List.forall_mem_append.mpr ⟨hgap, htrail⟩, .inr (.one hvalid)⟩
    · refine ⟨_, c.source ++ (gap ++ core), trail, ?_, hlead, htrail, .inr (.more hvalid hgap hcore)⟩
      rw [List.append_assoc, List.append_assoc]
      exact hs
  | case3 s d rest hs hread bad ih =>
    obtain ⟨⟨clause, hclause⟩, -⟩ := List.forall_mem_cons.mp h
    cases hclause

/-- A list of clauses is what is left between separators. -/
theorem trimmed_eq {lead core trail : List Char} (hlead : Separators lead) (htrail : Separators trail)
    (hcore : core = [] ∨ Derives Separators core) : trimmed (lead ++ (core ++ trail)) = core := by
  unfold trimmed
  rcases hcore with rfl | hcore
  · have hall : Separators (lead ++ ([] ++ trail)) := List.forall_mem_append.mpr ⟨hlead, htrail⟩
    rw [List.dropWhile_eq_nil_iff.mpr hall]
    rfl
  · obtain ⟨init, hinit⟩ := hcore.exists_append_paren
    have htrail' : Separators trail.reverse := fun c hc => htrail c (List.mem_reverse.mp hc)
    have hend : Text.BeginsOutside Text.isSeparator core.reverse := by
      rw [hinit, List.reverse_append]
      exact Text.beginsOutside_cons (by decide)
    rw [Text.dropWhile_append_of_beginsOutside hlead (hcore.beginsOutside trail), List.reverse_append,
      Text.dropWhile_append_of_beginsOutside htrail' hend, List.reverse_reverse]

/-- A text is its trimmed part between separators. -/
theorem exists_trimmed (s : List Char) :
    ∃ lead trail, s = lead ++ (trimmed s ++ trail) ∧ Separators lead ∧ Separators trail := by
  have hparts := List.takeWhile_append_dropWhile (p := Text.isSeparator) (l := (s.dropWhile Text.isSeparator).reverse)
  refine ⟨s.takeWhile Text.isSeparator,
    ((s.dropWhile Text.isSeparator).reverse.takeWhile Text.isSeparator).reverse, ?_, ?_, ?_⟩
  · rw [trimmed, ← List.reverse_append, hparts, List.reverse_reverse, List.takeWhile_append_dropWhile]
  · exact List.all_eq_true.mp List.all_takeWhile
  · intro c hc
    exact List.all_eq_true.mp List.all_takeWhile c (List.mem_reverse.mp hc)

/-- **A text is accepted** exactly if its trimmed part is empty or a list of clauses, whatever separators stand between
them, if any. -/
theorem forall_accepted_iff {s : List Char} :
    (∀ outcome ∈ outcomes s, Accepted outcome) ↔ trimmed s = [] ∨ Derives Separators (trimmed s) := by
  constructor
  · intro h
    obtain ⟨lead, core, trail, rfl, hlead, htrail, hcore⟩ := exists_derives_of_accepted h
    rw [trimmed_eq hlead htrail hcore]
    exact hcore
  · intro h
    obtain ⟨lead, trail, hs, hlead, htrail⟩ := exists_trimmed s
    rw [hs, outcomes_append_of_separators hlead]
    rcases h with hnil | hderives
    · rw [hnil, List.nil_append, outcomes_separators htrail]
      exact List.forall_mem_nil _
    · exact hderives.accepted htrail

/-- Clauses that touch are not in the documented grammar. -/
theorem Touches.not_documented {s : List Char} (h : Touches (trimmed s)) : ¬Documented s := by
  rintro (hnil | hderives)
  · exact h.derives.ne_nil hnil
  · exact hderives.not_touches h

/-- **Which texts are accepted**: those of the documented grammar, and besides just the texts in which two clauses
touch. -/
theorem ofTextStrict_ok_iff (text : String) :
    ((∃ q, ofTextStrict text = .ok q) ↔ Documented text.toList ∨ Touches (trimmed text.toList)) ∧
      ¬(Documented text.toList ∧ Touches (trimmed text.toList)) := by
  constructor
  · rw [exists_ofTextStrict_iff, forall_accepted_iff, derives_separators_iff, Documented, or_assoc]
  · rintro ⟨hdocumented, htouches⟩
    exact htouches.not_documented hdocumented

/-- **A text beyond the grammar** is accepted: the two clauses touch. -/
theorem not_documented_of_ok :
    (∃ q, ofTextStrict "a.Equals(1)b.Equals(2)" = .ok q) ∧ ¬Documented "a.Equals(1)b.Equals(2)".toList := by
  have hvalid : ∀ field argument : Char, Text.isIdent [field] = true → Balanced [argument] →
      RawClause.Valid ⟨[field], Operator.equals.name.toList, [argument]⟩ := by
    intro field argument hfield hargument
    exact ⟨hfield, ⟨.equals, (String.ofList_toList).symm, fun hop => by cases hop⟩, hargument.argument⟩
  have htouches : Touches (trimmed "a.Equals(1)b.Equals(2)".toList) := by
    have htrimmed : trimmed "a.Equals(1)b.Equals(2)".toList =
        RawClause.source ⟨['a'], Operator.equals.name.toList, ['1']⟩ ++
          RawClause.source ⟨['b'], Operator.equals.name.toList, ['2']⟩ := by decide +kernel
    rw [htrimmed]
    exact .here (hvalid 'a' '1' (by decide) (by decide)) (.one (hvalid 'b' '2' (by decide) (by decide)))
  exact ⟨exists_ofTextStrict_iff.mpr (forall_accepted_iff.mpr (.inr htouches.derives)), htouches.not_documented⟩

end MediaCatalog.Query
