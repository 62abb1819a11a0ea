import Mathlib.Data.List.Forall2
import MediaCatalog.Proofs.Query.Clauses

/-!
# Texts written as clauses

A condition text that was written clause by clause is read clause by clause, whatever stands in the
arguments: separators, nested parentheses, hidden characters, or text that looks like a clause.

* `RawClause.Means`: what a clause says of an entry, or why it says nothing, from its three parts.
* **Compiling** (`RawClause.means_iff`): every clause means exactly one thing, and that is what
  compiling it gives.
* **Main result** (`outcomes_written_iff`): the outcomes of a written text are the meanings of its
  clauses, one for each and in order.
-/

namespace MediaCatalog.Query

/-! ## Operators and arguments -/

namespace Operator

/-- An operator is found by just its name. -/
theorem ofName?_eq_some_iff {name : String} {op : Operator} : ofName? name = some op ↔ op.name = name := by
  constructor
  · intro h
    simpa using List.find?_some h
  · rintro rfl
    exact ofName?_name op

/-- No operator is found by a name that none has. -/
theorem ofName?_eq_none_iff {name : String} : ofName? name = none ↔ ∀ op : Operator, op.name ≠ name := by
  rw [Option.eq_none_iff_forall_ne_some]
  exact forall_congr' fun op => not_congr ofName?_eq_some_iff

end Operator

/-- Only a regular expression can be no argument. -/
theorem Test.ofArgument?_eq_none_iff {op : Operator} {argument : String} :
    ofArgument? op argument = none ↔ op = .regexp ∧ Regex.ofText? argument = none := by
  cases op <;> simp [ofArgument?]

/-! ## What a clause means -/

namespace RawClause

/-- What a clause means: a test of its target, or the reason why there is none. The reason names the
text of the clause. -/
inductive Means (c : RawClause) : Except Rejection Clause → Prop where
  /-- Its operator has a name that is known, and can be applied to the argument. -/
  | test (op : Operator) (test : Test) (hname : op.name = String.ofList c.operator)
      (htest : Test.ofArgument? op (String.ofList c.argument) = some test) :
      Means c (.ok ⟨if String.ofList c.field = Entry.keyField then .key else .field (String.ofList c.field),
        test, String.ofList c.source⟩)
  /-- The argument should be a regular expression and is none. -/
  | invalidPattern (hname : Operator.regexp.name = String.ofList c.operator)
      (hpattern : Regex.ofText? (String.ofList c.argument) = none) :
      Means c (.error (.invalidPattern (String.ofList c.source)))
  /-- No operator has that name. -/
  | unknownOperator (hname : ∀ op : Operator, op.name ≠ String.ofList c.operator) :
      Means c (.error (.unknownOperator (String.ofList c.operator) (String.ofList c.source)))

/-- A clause means what compiling it gives. -/
theorem means_compile (c : RawClause) : c.Means c.compile := by
  unfold compile
  split
  next hname => exact .unknownOperator (Operator.ofName?_eq_none_iff.mp hname)
  next op hname =>
    have hname := Operator.ofName?_eq_some_iff.mp hname
    split
    next htest =>
      obtain ⟨rfl, hpattern⟩ := Test.ofArgument?_eq_none_iff.mp htest
      exact .invalidPattern hname hpattern
    next test htest => exact .test op test hname htest

/-- **Compiling.** A clause means just what compiling it gives. -/
theorem means_iff {c : RawClause} {outcome : Except Rejection Clause} : c.Means outcome ↔ c.compile = outcome := by
  constructor
  · intro h
    unfold compile
    cases h with
    | test op test hname htest =>
      simp only [Operator.ofName?_eq_some_iff.mpr hname, htest, Target.ofName]
    | invalidPattern hname hpattern =>
      have htest := Test.ofArgument?_eq_none_iff.mpr ⟨rfl, hpattern⟩
      simp only [Operator.ofName?_eq_some_iff.mpr hname, htest]
    | unknownOperator hname => simp only [Operator.ofName?_eq_none_iff.mpr hname]
  · rintro rfl
    exact means_compile c

end RawClause

/-! ## Written texts -/

/-- The text of clauses with separators before each of them and behind the last. -/
def written (items : List Item) (trail : List Char) : List Char := items.flatMap Item.text ++ trail

/-- A written text has the outcomes of its clauses and no others. -/
theorem outcomes_written (items : List Item) {trail : List Char}
    (htrail : ∀ c ∈ trail, Text.isSeparator c = true) : outcomes (written items trail) = items.map Item.outcome := by
  rw [written, outcomes_items, outcomes_separators htrail, List.append_nil]

/-- **Written texts are read back.** The outcomes of clauses that are written one after the other, with
blanks and commas between them and at the ends, are the meanings of these clauses, one for each and
in their order. -/
theorem outcomes_written_iff (items : List Item) (trail : List Char)
    (htrail : ∀ c ∈ trail, Text.isSeparator c = true) (results : List (Except Rejection Clause)) :
    outcomes (written items trail) = results ↔
      List.Forall₂ (fun i outcome => i.clause.Means outcome) items results := by
  have hmeans : (fun (i : Item) outcome => i.clause.Means outcome) = fun i outcome => i.outcome = outcome := by
    funext i outcome
    exact propext RawClause.means_iff
  rw [outcomes_written items htrail, hmeans, ← List.forall₂_map_left_iff, List.forall₂_eq_eq_eq]

/-- A title with parentheses, a pattern that is none, a hidden parenthesis, and an operator that does not
exist. -/
theorem outcomes_written_four :
    (∀ c ∈ [',', '\n'], Text.isSeparator c = true) ∧
      outcomes " title.Equals(Example, Show (TV)), ep.Regexp([)\tpkey.EndsWith(\\)) x.Frobnicate(a.Equals(1)),\n".toList =
        [.ok ⟨.field "title", .equals "Example, Show (TV)", "title.Equals(Example, Show (TV))"⟩,
          .error (.invalidPattern "ep.Regexp([)"),
          .ok ⟨.key, .endsWith "\\)", "pkey.EndsWith(\\))"⟩,
          .error (.unknownOperator "Frobnicate" "x.Frobnicate(a.Equals(1))")] := by
  have htrail : ∀ c ∈ [',', '\n'], Text.isSeparator c = true := List.all_eq_true.mp rfl
  have hpattern : Regex.ofText? "[" = none := Option.isNone_iff_eq_none.mp (by decide +kernel)
  have hother : ∀ op : Operator, op.name ≠ "Frobnicate" := by
    intro op
    cases op <;> decide
  let items : List Item :=
    [⟨[' '], ⟨"title".toList, "Equals".toList, "Example, Show (TV)".toList⟩, List.all_eq_true.mp rfl, by decide, by decide, by decide⟩,
      ⟨[',', ' '], ⟨"ep".toList, "Regexp".toList, "[".toList⟩, List.all_eq_true.mp rfl, by decide, by decide, by decide⟩,
      ⟨['\t'], ⟨"pkey".toList, "EndsWith".toList, "\\)".toList⟩, List.all_eq_true.mp rfl, by decide, by decide, by decide⟩,
      ⟨[' '], ⟨"x".toList, "Frobnicate".toList, "a.Equals(1)".toList⟩, List.all_eq_true.mp rfl, by decide, by decide, by decide⟩]
  have htext : " title.Equals(Example, Show (TV)), ep.Regexp([)\tpkey.EndsWith(\\)) x.Frobnicate(a.Equals(1)),\n".toList =
      written items [',', '\n'] := by decide +kernel
  rw [htext]
  refine ⟨htrail, (outcomes_written_iff items [',', '\n'] htrail _).mpr ?_⟩
  exact .cons (.test .equals _ rfl rfl) (.cons (.invalidPattern rfl hpattern) (.cons (.test .endsWith _ rfl rfl)
    (.cons (.unknownOperator hother) .nil)))

end MediaCatalog.Query
